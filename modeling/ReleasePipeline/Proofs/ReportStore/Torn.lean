import ReleasePipeline.Proofs.Json.Prefix
import ReleasePipeline.Proofs.ReportStore.LastSaved

/-!
# `ReleasePipeline.Proofs.ReportStore.Torn`: a report that was cut off never counts

A report is written to its file in one go, but nothing keeps a crash or a full disk from leaving
only the beginning of it there. What is left is not taken for a report: of the parts that a
written object begins with only the whole is a document, so the bytes of a torn report cannot be
read (`ofBytes_extract`). Loading it says that the variant was aborted, whatever commit is asked
for and whatever artifacts there are.
-/

set_option autoImplicit false

namespace ReleasePipeline.Proofs

/-- The bytes of a report are those of the text it is written as. -/
theorem toList_bytes (stored : StoredReport) :
    stored.bytes.data.toList = encode ((toJson stored).write .indented 0) := by
  unfold StoredReport.bytes Json.render
  exact toUTF8_ofList _

/-- There are such bytes. -/
theorem size_bytes_ne_zero (stored : StoredReport) : stored.bytes.size ≠ 0 := by
  obtain ⟨rest, hbrace⟩ := encode_write_obj_cons .indented 0
    [("commit", toJson stored.commit), ("report", toJson stored.report)]
  rw [← ByteArray.size_data, ← Array.length_toList, toList_bytes,
    show encode ((toJson stored).write .indented 0) = _ from hbrace]
  exact Nat.succ_ne_zero _

/-- A report that lacks some of its bytes cannot be read. -/
theorem ofBytes_extract {stored : StoredReport} {cut : Nat} (hcut : cut < stored.bytes.size) :
    ∃ fault, StoredReport.ofBytes (stored.bytes.extract 0 cut) = .error fault := by
  cases hread : StoredReport.ofBytes (stored.bytes.extract 0 cut) with
  | error fault => exact ⟨fault, rfl⟩
  | ok other =>
      have hpart :
          (stored.bytes.extract 0 cut).data.toList = stored.bytes.data.toList.take cut := by
        rw [ByteArray.data_extract, Array.toList_extract]
        rfl
      unfold StoredReport.ofBytes at hread
      rw [hpart, toList_bytes] at hread
      -- A part of the text that can be read is all of it, and the bytes were cut.
      have hwhole := eq_of_decode_prefix (LawfulForm.inRange stored) (List.take_prefix cut _) hread
      have hlength :
          (stored.bytes.data.toList.take cut).length = stored.bytes.data.toList.length := by
        rw [toList_bytes]
        exact congrArg List.length hwhole
      rw [List.length_take, Array.length_toList, ByteArray.size_data] at hlength
      omega

section
variable {σ : Type} {site : Site (StateM σ)} {files : σ → FileSystem}

/-- A save that was not refused names the file of the identifier. -/
theorem eq_pathFor_of_save {made : Files (StateM σ)} {store : ReportStore} {commit : String}
    {report : VariantReport} {world after : σ} {path : Path}
    (h : (store.save made commit report).run world = (.ok path, after)) :
    path = store.pathFor report.variant.os := by
  cases hdirs : (made.createDirs store.directory).run world with
  | mk answer middle =>
      have hnext := (run_bind_of hdirs _).symm.trans h
      cases answer with
      | error error => cases hnext
      | ok _ =>
          cases hwrite : (made.write (store.pathFor report.variant.os)
              (StoredReport.mk commit report).bytes).run middle with
          | mk answer last =>
              have hlast := (run_bind_of hwrite _).symm.trans hnext
              cases answer <;> cases hlast
              rfl

/-- What was written without being refused is read. -/
theorem read_of_write (hsite : OnFiles site files) {path : Path} {content : ByteArray}
    {world after : σ} (h : (site.write path content).run world = (.ok (), after)) :
    (files after).read path = .ok content := by
  cases hwrite : (files world).write path content with
  | error error =>
      obtain ⟨hrefused, -⟩ := hsite.writeRefused path content world error hwrite
      rw [h] at hrefused
      cases hrefused
  | ok written =>
      obtain ⟨-, hwritten⟩ := hsite.write path content world written hwrite
      rw [h] at hwritten
      rw [hwritten]
      exact (write_spec hwrite).2

/-- A file that cannot be read as a report is reported as an aborted run, and says why. -/
theorem run_load_unreadable (hsite : OnFiles site files) (store : ReportStore) {bytes : ByteArray}
    {fault : Fault} (hfault : StoredReport.ofBytes bytes = .error fault) (config : Config)
    (commit : String) (variant : Variant) {world : σ}
    (hread : (files world).read (store.pathFor variant.os) = .ok bytes) :
    ∃ runId now after, (store.load site config commit variant).run world =
      (.aborted runId now variant (LoadError.unreadable (store.pathFor variant.os) fault).message,
        after) := by
  have hasked := hsite.read (store.pathFor variant.os) world
  rw [hread] at hasked
  have hrefused : (store.read site.toFiles config commit variant).run world =
      (.error (.unreadable (store.pathFor variant.os) fault), world) := by
    refine (run_bind_of hasked _).trans ?_
    simp only [hfault]
    rfl
  exact ⟨_, _, _, run_bind_of hrefused _⟩

/-- A report that was saved stands in its file with all of its bytes. If any of them at the end
are missing, in the file of whatever variant it is looked for, that variant is reported as
aborted. -/
theorem torn_reports_abort (hsite : OnFiles site files) (store : ReportStore)
    (stored : StoredReport) :
    (∀ world path after,
      (store.save site.toFiles stored.commit stored.report).run world = (.ok path, after) →
        path = store.pathFor stored.report.variant.os ∧
          (files after).read path = .ok stored.bytes) ∧
    ∀ cut, cut < stored.bytes.size → ∀ config wanted variant world,
      (files world).read (store.pathFor variant.os) = .ok (stored.bytes.extract 0 cut) →
        ∃ fault runId now after, (store.load site config wanted variant).run world =
          (.aborted runId now variant
            (LoadError.unreadable (store.pathFor variant.os) fault).message, after) := by
  refine ⟨fun world path after h => ?_, fun cut hcut config wanted variant world hread => ?_⟩
  · obtain rfl := eq_pathFor_of_save h
    exact ⟨rfl, onRecord_save_self stored hsite h⟩
  · obtain ⟨fault, hfault⟩ := ofBytes_extract hcut
    exact ⟨fault, run_load_unreadable hsite store hfault config wanted variant hread⟩

end

/-! ### A report on a bare host -/

/-- Where the reports are kept. -/
def bareStore : ReportStore :=
  .ofConfig (.ofBinary "seeker")

/-- What it comes to when a report of success is saved. -/
def bareDone : Except SaveError Path × Rehearsal.World :=
  (bareStore.save bareSite.toFiles bareOther.commit bareOther.report).run bareWorld

/-- All but the last byte of the report. -/
def barePart : ByteArray :=
  bareOther.bytes.extract 0 (bareOther.bytes.size - 1)

/-- What it comes to when the last byte does not get to the file. -/
def bareTorn : Except OsError Unit × Rehearsal.World :=
  (bareSite.write (bareStore.pathFor "linux") barePart).run bareDone.2

/-- A report of success that was saved is there as a whole, and without its last byte it says that
the variant was aborted. -/
theorem torn_reports_abort_bare :
    (∃ path, bareDone.1 = .ok path ∧ bareDone.2.files.read path = .ok bareOther.bytes) ∧
    bareTorn.1 = .ok () ∧
    ((bareStore.load bareSite (.ofBinary "seeker") "1a2b3c4" .linux).run bareTorn.2).1.stage =
      .failed .aborted := by
  have hsite : OnFiles bareSite Rehearsal.World.files := onFiles_rehearsal _
  obtain ⟨hwhole, htorn⟩ := torn_reports_abort hsite bareStore bareOther
  have hdone : bareDone.1 = .ok (bareStore.pathFor "linux") := by decide +kernel
  have hwritten : bareTorn.1 = .ok () := by decide +kernel
  have hread : bareTorn.2.files.read (bareStore.pathFor Variant.linux.os) = .ok barePart :=
    read_of_write hsite (Prod.ext hwritten rfl)
  -- One byte is missing.
  have hcut : bareOther.bytes.size - 1 < bareOther.bytes.size :=
    Nat.sub_one_lt (size_bytes_ne_zero _)
  obtain ⟨-, hstored⟩ := hwhole bareWorld _ bareDone.2 (Prod.ext hdone rfl)
  obtain ⟨fault, runId, now, after, hload⟩ :=
    htorn _ hcut (.ofBinary "seeker") "1a2b3c4" .linux bareTorn.2 hread
  exact ⟨⟨_, hdone, hstored⟩, hwritten, congrArg (fun loaded => loaded.1.stage) hload⟩

end ReleasePipeline.Proofs
