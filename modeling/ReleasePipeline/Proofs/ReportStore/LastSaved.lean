import Mathlib.Data.List.Induction
import ReleasePipeline.Proofs.ReportStore

/-!
# `ReleasePipeline.Proofs.ReportStore.LastSaved`: what is loaded is what was saved last

Reports are saved one after the other, each to the file of its identifier. `OnRecord` says what
the file of an identifier holds: the report that was saved last, or none. A save makes it so of
its own identifier (`onRecord_save_self`) and keeps it of every other one (`onRecord_save_of_ne`),
so it holds after any number of saves (`onRecord_saveAll`).

What is loaded of a variant follows from that and from whether its artifact is there
(`loaded_of_onRecord`). `loads_last_save` draws this together. It also says that one more save
changes nothing for another variant, unless it writes the report where the artifact of that
variant is looked for. A name of the program without separators rules that out, and
`saves_interfere` shows that one with separators does not.
-/

set_option autoImplicit false

namespace ReleasePipeline.Proofs

open ReleasePipeline.Path (resolve)

/-! ### Saving -/

section
variable {σ : Type}

/-- Saves reports, each for its commit. -/
def saveAll (store : ReportStore) (site : Site (StateM σ)) (saves : List StoredReport) :
    StateM σ (List (Except SaveError Path)) :=
  saves.mapM fun saved => store.save site.toFiles saved.commit saved.report

/-- The report that was saved last under an identifier. -/
def lastSave (os : String) (saves : List StoredReport) : Option StoredReport :=
  (saves.filter fun saved => saved.report.variant.os = os).getLast?

/-- One more save is the last one of its own identifier. -/
theorem lastSave_concat (os : String) (saves : List StoredReport) (saved : StoredReport) :
    lastSave os (saves ++ [saved]) =
      if saved.report.variant.os = os then some saved else lastSave os saves := by
  unfold lastSave
  rw [List.filter_append]
  by_cases hos : saved.report.variant.os = os
  · rw [if_pos hos, List.filter_cons_of_pos (by simpa using hos), List.filter_nil,
      List.getLast?_concat]
  · rw [if_neg hos, List.filter_cons_of_neg (by simpa using hos), List.filter_nil, List.append_nil]

variable {site : Site (StateM σ)} {files : σ → FileSystem}

/-- A report that was saved was written once the directory of the reports was made. -/
theorem files_save (hsite : OnFiles site files) {store : ReportStore} {saved : StoredReport}
    {world after : σ} {path : Path}
    (h : (store.save site.toFiles saved.commit saved.report).run world = (.ok path, after)) :
    ∃ made, (files world).createDirs store.directory = (.ok (), made) ∧
      made.write (store.pathFor saved.report.variant.os) saved.bytes = .ok (files after) := by
  obtain ⟨hdirs, hmade⟩ := hsite.createDirs store.directory world
  obtain ⟨answer, middle, hrun⟩ : ∃ answer middle,
      (site.createDirs store.directory).run world = (answer, middle) := ⟨_, _, rfl⟩
  rw [hrun] at hdirs hmade
  cases answer with
  | error error => cases (run_bind_of hrun _).symm.trans h
  | ok _ =>
      have hnext := (run_bind_of hrun _).symm.trans h
      refine ⟨_, Prod.ext hdirs.symm hmade.symm, ?_⟩
      cases hwrite : (files middle).write (store.pathFor saved.report.variant.os) saved.bytes with
      | error error =>
          obtain ⟨hrefused, -⟩ := hsite.writeRefused _ _ middle error hwrite
          cases (run_bind_of (Prod.ext hrefused rfl) _).symm.trans hnext
      | ok written =>
          obtain ⟨hdone, hwritten⟩ := hsite.write _ _ middle written hwrite
          cases (run_bind_of (Prod.ext hdone rfl) _).symm.trans hnext
          rw [hwritten]

/-! ### What files hold -/

/-- A file holds a report, if there is one to hold, and else there is no such file. -/
def OnRecord (fs : FileSystem) (path : Path) : Option StoredReport → Prop
  | some stored => fs.read path = .ok stored.bytes
  | none => ∀ content, ¬ Holds fs path content

variable {config : Config} {os : String} {saved : StoredReport} {entry : Option StoredReport}
  {world after : σ} {path : Path}

/-- What was saved is on record under its identifier. -/
theorem onRecord_save_self (saved : StoredReport) (hsite : OnFiles site files) {store : ReportStore}
    (h : (store.save site.toFiles saved.commit saved.report).run world = (.ok path, after)) :
    OnRecord (files after) (store.pathFor saved.report.variant.os) (some saved) := by
  obtain ⟨made, -, hwrite⟩ := files_save hsite h
  exact (write_spec hwrite).2

/-- What is on record under another identifier stays so. -/
theorem onRecord_save_of_ne (hsite : OnFiles site files) (hos : '/' ∉ os.toList)
    (hsaved : '/' ∉ saved.report.variant.os.toList) (hne : saved.report.variant.os ≠ os)
    (hrecord : OnRecord (files world) ((ReportStore.ofConfig config).pathFor os) entry)
    (h : ((ReportStore.ofConfig config).save site.toFiles saved.commit saved.report).run world =
      (.ok path, after)) :
    OnRecord (files after) ((ReportStore.ofConfig config).pathFor os) entry := by
  obtain ⟨made, hmade, hwrite⟩ := files_save hsite h
  have hfolders : MadeFolders (files world) made := by
    have hfolders := madeFolders_createDirs (files world) (ReportStore.ofConfig config).directory
    rwa [hmade] at hfolders
  have hdir := hfolders.grows.workingDir
  have helse : ∀ from', resolve from' ((ReportStore.ofConfig config).pathFor os) ≠
      resolve from' ((ReportStore.ofConfig config).pathFor saved.report.variant.os) :=
    resolve_report_ne config hos hsaved hne.symm
  -- A file that was there reads the same, and none comes to a place where there was none.
  cases entry with
  | some stored =>
      have hread := hfolders.grows.read id hrecord
      exact (write_spec hwrite).1.read (helse _) hread
  | none =>
      intro content hholds
      have helseOnly : ∀ other ∈ [(ReportStore.ofConfig config).pathFor os], ∀ from',
          resolve from' other ≠
            resolve from' ((ReportStore.ofConfig config).pathFor saved.report.variant.os) :=
        List.forall_mem_singleton.mpr helse
      have hsame := (hfolders.sameFiles _).trans (sameFiles_of_write hwrite helseOnly)
      exact hrecord content ((hsame _ (List.mem_singleton_self _) content).mp hholds)

/-- After any number of saves the last one of an identifier is on record. -/
theorem onRecord_saveAll (hsite : OnFiles site files) (hos : '/' ∉ os.toList)
    {saves : List StoredReport} (hplain : ∀ saved ∈ saves, '/' ∉ saved.report.variant.os.toList)
    (hfresh : lastSave os saves = none →
      OnRecord (files world) ((ReportStore.ofConfig config).pathFor os) none)
    (hok : ∀ result ∈ ((saveAll (.ofConfig config) site saves).run world).1,
      ∃ path, result = .ok path) :
    OnRecord (files ((saveAll (.ofConfig config) site saves).run world).2)
      ((ReportStore.ofConfig config).pathFor os) (lastSave os saves) := by
  induction saves using List.reverseRecOn with
  | nil => exact hfresh rfl
  | append_singleton saves saved ih =>
      have hrun : (saveAll (.ofConfig config) site (saves ++ [saved])).run world = _ :=
        run_mapM_concat _ saves saved world
      rw [hrun] at hok ⊢
      rw [lastSave_concat] at hfresh ⊢
      obtain ⟨path, hpath⟩ := hok _ (List.mem_append_right _ (List.mem_singleton_self _))
      -- The last save is of this variant and stands, or is of another one and leaves what stood
      -- before.
      by_cases hsaved : saved.report.variant.os = os
      · rw [if_pos hsaved]
        subst hsaved
        exact onRecord_save_self saved hsite (Prod.ext hpath rfl)
      · rw [if_neg hsaved] at hfresh ⊢
        have hearlier :=
          ih (fun other hother => hplain other (List.mem_append_left _ hother)) hfresh
          fun result hresult => hok result (List.mem_append_left _ hresult)
        have hslash := hplain saved (List.mem_append_right _ (List.mem_singleton_self _))
        exact onRecord_save_of_ne hsite hos hslash hsaved hearlier (Prod.ext hpath rfl)

/-! ### Loading -/

/-- The report that counts for a variant, if one does: the one that was saved last, if it was
saved for the commit, with the artifact at its place on this host if it is one of success. -/
def counted (config : Config) (commit : String) (variant : Variant) (there : Bool) :
    Option StoredReport → Option VariantReport
  | none => none
  | some stored =>
    if stored.commit ≠ commit then none
    else if stored.report.succeeded = false then some stored.report
    else if there then some { stored.report with artifact := some (.ofVariant config variant) }
    else none

/-- What is loaded of a variant: the report that counts, or that the variant was aborted. -/
inductive Loaded (variant : Variant) : Option VariantReport → VariantReport → Prop where
  | counted (report : VariantReport) : Loaded variant (some report) report
  | aborted (runId : RunId) (now : Instant) (reason : String) :
      Loaded variant none (.aborted runId now variant reason)

/-- Where a report counts, it is the one that is loaded. -/
theorem Loaded.eq {variant : Variant} {expected report : VariantReport}
    (h : Loaded variant (some expected) report) : report = expected := by
  cases h
  rfl

/-- Where none counts, the variant is loaded as aborted. -/
theorem Loaded.stage {variant : Variant} {report : VariantReport} (h : Loaded variant none report) :
    report.stage = .failed .aborted := by
  cases h
  rfl

variable {variant : Variant}

/-- A report that was saved for the commit is vouched for exactly if it counts. -/
theorem run_vouch_onFiles (commit : String) (hsite : OnFiles site files) (report : VariantReport) :
    ∃ result, (ReportStore.vouch site.toFiles config variant report).run world = (result, world) ∧
      result.toOption = counted config commit variant
        ((files world).isFile (Artifact.ofVariant config variant).path)
          (some ⟨commit, report⟩) := by
  have hfile := hsite.isFile (Artifact.ofVariant config variant).path world
  have hcommit : ¬ commit ≠ commit := not_not.mpr rfl
  cases hsucceeded : report.succeeded with
  | false =>
      have hnot : ¬ report.succeeded = true := Bool.eq_false_iff.mp hsucceeded
      refine ⟨.ok report, run_ite_of_not hnot _ _ _, ?_⟩
      rw [counted, if_neg hcommit, if_pos hsucceeded]
      rfl
  | true =>
      have hnot : ¬ report.succeeded = false := ne_false_of_eq_true hsucceeded
      rw [counted, if_neg hcommit, if_neg hnot]
      -- Only a report of success depends on whether the artifact is there.
      have hasked : (ReportStore.vouch site.toFiles config variant report).run world = _ :=
        run_ite_of hsucceeded _ _ world
      generalize (files world).isFile (Artifact.ofVariant config variant).path = there at hfile
      cases there with
      | true => exact ⟨_, hasked.trans (run_bind_of hfile _), rfl⟩
      | false => exact ⟨_, hasked.trans (run_bind_of hfile _), rfl⟩

/-- What is read of a variant counts exactly if the report on record does. -/
theorem run_read_onRecord (commit : String) (hsite : OnFiles site files)
    (hrecord : OnRecord (files world) ((ReportStore.ofConfig config).pathFor variant.os) entry) :
    ∃ result, ((ReportStore.ofConfig config).read site.toFiles config commit variant).run world =
        (result, world) ∧
      result.toOption = counted config commit variant
        ((files world).isFile (Artifact.ofVariant config variant).path) entry := by
  let target := (ReportStore.ofConfig config).pathFor variant.os
  have hread := hsite.read target world
  cases entry with
  | none =>
      cases hbytes : (files world).read target with
      | error error =>
          rw [hbytes] at hread
          exact ⟨_, run_bind_of hread _, rfl⟩
      | ok bytes => exact absurd (holds_of_read hbytes) (hrecord bytes)
  | some stored =>
      rw [show (files world).read target = .ok stored.bytes from hrecord] at hread
      have hrun :
          ((ReportStore.ofConfig config).read site.toFiles config commit variant).run world =
            (if stored.commit = commit then
              ReportStore.vouch site.toFiles config variant stored.report
            else pure (.error (.otherCommit target stored.commit commit))).run world := by
        refine Eq.trans (run_bind_of hread _) ?_
        simp only [ofBytes_bytes]
        rfl
      by_cases hcommit : stored.commit = commit
      · subst hcommit
        obtain ⟨result, hvouch, hcounts⟩ := run_vouch_onFiles stored.commit hsite stored.report
        exact ⟨result, (hrun.trans (run_ite_of rfl _ _ world)).trans hvouch, hcounts⟩
      · refine ⟨_, hrun.trans (run_ite_of_not hcommit _ _ world), ?_⟩
        rw [counted, if_pos hcommit]
        rfl

/-- What is loaded of a variant is what counts of the report on record. -/
theorem loaded_of_onRecord (commit : String) (hsite : OnFiles site files)
    (hrecord : OnRecord (files world) ((ReportStore.ofConfig config).pathFor variant.os) entry) :
    Loaded variant (counted config commit variant
        ((files world).isFile (Artifact.ofVariant config variant).path) entry)
      (((ReportStore.ofConfig config).load site config commit variant).run world).1 := by
  obtain ⟨result, hread, hcounted⟩ := run_read_onRecord commit hsite hrecord
  rw [← hcounted]
  cases result with
  | ok report =>
      have hload : ((ReportStore.ofConfig config).load site config commit variant).run world =
          (report, world) := run_bind_of hread _
      rw [hload]
      exact .counted report
  | error error =>
      -- The aborted report takes a new identifier and the time.
      obtain ⟨runId, now, after, hload⟩ : ∃ runId now after,
          ((ReportStore.ofConfig config).load site config commit variant).run world =
            (.aborted runId now variant error.message, after) := ⟨_, _, _, run_bind_of hread _⟩
      rw [hload]
      exact .aborted runId now error.message

/-! ### Another variant is saved -/

/-- The directory of the reports is there if one of them is on record. -/
theorem isFolder_of_onRecord {fs : FileSystem} {stored : StoredReport} (hos : '/' ∉ os.toList)
    (hrecord : OnRecord fs ((ReportStore.ofConfig config).pathFor os) (some stored)) :
    fs.isFolder (ReportStore.ofConfig config).directory = true := by
  obtain ⟨init, hnames⟩ := exists_names_join isName_reports.noSlash config.artifactPath
  have hsome : (ReportStore.ofConfig config).directory.text ≠ "" := by
    intro hempty
    have hdir : (ReportStore.ofConfig config).directory = ⟨""⟩ := congrArg Path.mk hempty
    rw [show config.artifactPath.join "reports" = ⟨""⟩ from hdir] at hnames
    have hlast := congrArg List.getLast? hnames
    rw [List.getLast?_concat] at hlast
    exact absurd hlast (by decide)
  exact isFolder_of_read_join hsome (isName_reportName hos).noSlash hrecord

/-- A save takes no artifact away and makes none, if a report was there before and the new one is
not written where the artifact is. -/
theorem isFile_save (hsite : OnFiles site files) (hos : '/' ∉ os.toList) {stored : StoredReport}
    (hrecord : OnRecord (files world) ((ReportStore.ofConfig config).pathFor os) (some stored))
    (h : ((ReportStore.ofConfig config).save site.toFiles saved.commit saved.report).run world =
      (.ok path, after)) {other : Path}
    (helse : resolve (files world).workingDir other ≠ resolve (files world).workingDir
      ((ReportStore.ofConfig config).pathFor saved.report.variant.os)) :
    (files after).isFile other = (files world).isFile other := by
  obtain ⟨made, hmade, hwrite⟩ := files_save hsite h
  obtain ⟨init, hnames⟩ := exists_names_join isName_reports.noSlash config.artifactPath
  have hsame := createDirs_of_isFolder hnames isName_reports (isFolder_of_onRecord hos hrecord)
  cases hmade.symm.trans hsame
  obtain ⟨hafter, -, hfree⟩ := eq_put_of_write hwrite
  rw [hafter]
  exact isFile_put_file _ hfree helse

/-- **The last save counts.** After any saves that went well, what is loaded of a variant depends
on the last save of its identifier and on whether its artifact is there. Saving another variant
does not change it, unless the report of that one is written where the artifact is looked for. -/
theorem loads_last_save {site : Site (StateM σ)} {files : σ → FileSystem}
    (hsite : OnFiles site files) (config : Config) (commit : String) (variant : Variant)
    (saves : List StoredReport) (world : σ) (hos : '/' ∉ variant.os.toList)
    (hplain : ∀ saved ∈ saves, '/' ∉ saved.report.variant.os.toList)
    (hfresh : lastSave variant.os saves = none → ∀ content,
      ¬ Holds (files world) ((ReportStore.ofConfig config).pathFor variant.os) content)
    (hok : ∀ result ∈ ((saveAll (.ofConfig config) site saves).run world).1,
      ∃ path, result = .ok path) :
    let store := ReportStore.ofConfig config
    let artifact := (Artifact.ofVariant config variant).path
    let after := ((saveAll store site saves).run world).2
    let expected := counted config commit variant ((files after).isFile artifact)
      (lastSave variant.os saves)
    Loaded variant expected ((store.load site config commit variant).run after).1 ∧
    ∀ other : StoredReport, '/' ∉ other.report.variant.os.toList →
      other.report.variant.os ≠ variant.os →
      '/' ∉ config.binaryName.toList ∨ resolve (files after).workingDir artifact ≠
        resolve (files after).workingDir (store.pathFor other.report.variant.os) →
      ∀ path later, (store.save site.toFiles other.commit other.report).run after =
        (.ok path, later) →
        Loaded variant expected ((store.load site config commit variant).run later).1 := by
  intro store artifact after expected
  have hrecord : OnRecord (files after) (store.pathFor variant.os) (lastSave variant.os saves) :=
    onRecord_saveAll hsite hos hplain hfresh hok
  refine ⟨loaded_of_onRecord commit hsite hrecord,
    fun other hother hne helse path later hsave => ?_⟩
  have hlater := onRecord_save_of_ne hsite hos hother hne hrecord hsave
  have hloaded := loaded_of_onRecord commit hsite hlater
  have hexpected : counted config commit variant ((files later).isFile artifact)
      (lastSave variant.os saves) = expected := by
    cases hlast : lastSave variant.os saves with
    | none =>
        -- Without a report nothing counts, whatever files there are.
        show none = counted _ _ _ _ _
        rw [hlast]
        rfl
    | some stored =>
        rw [hlast] at hrecord
        have hapart : resolve (files after).workingDir artifact ≠
            resolve (files after).workingDir (store.pathFor other.report.variant.os) :=
          helse.elim (fun hname => resolve_artifact_ne_report hname hos hother _) id
        rw [isFile_save hsite hos hrecord hsave hapart, ← hlast]
  rwa [hexpected] at hloaded

end

/-! ### Two variants on a bare host -/

/-- A site on which no command can be run. -/
def bareSite : Site (StateM Rehearsal.World) :=
  Rehearsal.World.site fun files _ => (.crashed "no shell", files)

/-- A world without any file. -/
def bareWorld : Rehearsal.World :=
  ⟨.empty [], .ofReleases [], [], 0⟩

/-- A report of success. -/
def successOf (config : Config) (commit : String) (variant : Variant) : StoredReport :=
  ⟨commit, ⟨.ofNat 0, variant, .done, [.pending, .done], [], some (.ofVariant config variant), []⟩⟩

/-- A report that a variant was aborted. -/
def abortionOf (commit : String) (variant : Variant) : StoredReport :=
  ⟨commit, .aborted (.ofNat 0) .epoch variant "no runner"⟩

/-- One variant is built for two commits, and aborted for the second one once another was built. -/
def bareSaves : List StoredReport :=
  [successOf (.ofBinary "seeker") "0ld0ld0" .osx, successOf (.ofBinary "seeker") "1a2b3c4" .linux,
    abortionOf "1a2b3c4" .osx]

/-- The other one is built again. -/
def bareOther : StoredReport :=
  successOf (.ofBinary "seeker") "1a2b3c4" .linux

/-- What the saves come to. -/
def bareSaved : List (Except SaveError Path) × Rehearsal.World :=
  (saveAll (.ofConfig (.ofBinary "seeker")) bareSite bareSaves).run bareWorld

/-- What one more save comes to. -/
def bareAgain : Except SaveError Path × Rehearsal.World :=
  ((ReportStore.ofConfig (.ofBinary "seeker")).save bareSite.toFiles bareOther.commit
    bareOther.report).run bareSaved.2

/-- None of the three saves is refused. -/
theorem bareSaved_ok : ∀ result ∈ bareSaved.1, ∃ path, result = .ok path := by
  have hall : bareSaved.1.all (fun result => result.toOption.isSome) = true := by decide +kernel
  intro result hresult
  have hsome := List.all_eq_true.mp hall result hresult
  cases result with
  | error error => cases hsome
  | ok path => exact ⟨path, rfl⟩

/-- The report that was saved last is loaded, and it stays so when another variant is saved. -/
theorem loads_last_save_bare :
    let config := Config.ofBinary "seeker"
    let load := (ReportStore.ofConfig config).load bareSite config "1a2b3c4" .osx
    (load.run bareSaved.2).1 = (abortionOf "1a2b3c4" .osx).report ∧
    (load.run bareAgain.2).1 = (abortionOf "1a2b3c4" .osx).report := by
  intro config load
  have hsite : OnFiles bareSite Rehearsal.World.files := onFiles_rehearsal _
  have hfresh : lastSave Variant.osx.os bareSaves = none → ∀ content,
      ¬ Holds bareWorld.files ((ReportStore.ofConfig config).pathFor Variant.osx.os) content :=
        nofun
  have hagain : bareAgain.1 = .ok ((ReportStore.ofConfig config).pathFor "linux") := by
    decide +kernel
  obtain ⟨hloaded, hlater⟩ := loads_last_save hsite config "1a2b3c4" .osx bareSaves bareWorld
    (by decide) (by decide) hfresh bareSaved_ok
  have hloadedAgain := hlater bareOther (by decide) (by decide) (.inl (by decide)) _ bareAgain.2
    (Prod.ext hagain rfl)
  -- The last report is none of success, so it does not matter whether the artifact is there.
  have hcounted : ∀ there, counted config "1a2b3c4" .osx there (lastSave Variant.osx.os bareSaves) =
      some (abortionOf "1a2b3c4" .osx).report := fun there => rfl
  rw [hcounted] at hloaded hloadedAgain
  exact ⟨hloaded.eq, hloadedAgain.eq⟩

/-- A variant of a program whose name has a separator. -/
def meddledFirst : Variant :=
  { Variant.osx with os := "b.json" }

/-- The other variant of the program. -/
def meddledSecond : Variant :=
  { Variant.linux with os := "a-b" }

/-- The artifact of the first one is looked for at `dist/reports/a-b.json`, which is the file of
the report of the second one. -/
def meddledConfig : Config :=
  { Config.ofBinary "reports/a" with variants := [meddledFirst, meddledSecond] }

/-- A report of success of one of them. -/
def meddledReport (variant : Variant) : StoredReport :=
  successOf meddledConfig "1a2b3c4" variant

/-- What it comes to when the first variant is saved. -/
def meddledSaved : Except SaveError Path × Rehearsal.World :=
  ((ReportStore.ofConfig meddledConfig).save bareSite.toFiles (meddledReport meddledFirst).commit
    (meddledReport meddledFirst).report).run bareWorld

/-- What it comes to when the second one is saved behind it. -/
def meddledAgain : Except SaveError Path × Rehearsal.World :=
  ((ReportStore.ofConfig meddledConfig).save bareSite.toFiles (meddledReport meddledSecond).commit
    (meddledReport meddledSecond).report).run meddledSaved.2

/-- The first save goes well, and no file stands where the artifact of its variant is looked for. -/
theorem meddledSaved_ok :
    meddledSaved.1 = .ok ((ReportStore.ofConfig meddledConfig).pathFor "b.json") ∧
      meddledSaved.2.files.isFile (Artifact.ofVariant meddledConfig meddledFirst).path = false := by
  decide +kernel

/-- So does the second one, and now a file stands there. -/
theorem meddledAgain_ok :
    meddledAgain.1 = .ok ((ReportStore.ofConfig meddledConfig).pathFor "a-b") ∧
      meddledAgain.2.files.isFile (Artifact.ofVariant meddledConfig meddledFirst).path = true := by
  decide +kernel

/-- What is loaded of the first variant. -/
def meddledLoad (world : Rehearsal.World) : VariantReport :=
  (((ReportStore.ofConfig meddledConfig).load
    bareSite meddledConfig "1a2b3c4" meddledFirst).run world).1

/-- The report of the first variant counts exactly if a file stands where its artifact is looked
for. -/
theorem meddledLoad_spec {world : Rehearsal.World} {there : Bool}
    (hrecord : OnRecord world.files ((ReportStore.ofConfig meddledConfig).pathFor meddledFirst.os)
      (some (meddledReport meddledFirst)))
    (hthere : world.files.isFile (Artifact.ofVariant meddledConfig meddledFirst).path = there) :
    (meddledLoad world).stage = if there then .done else .failed .aborted := by
  have hsite : OnFiles bareSite Rehearsal.World.files := onFiles_rehearsal _
  have hloaded : Loaded meddledFirst _ (meddledLoad world) :=
    loaded_of_onRecord "1a2b3c4" hsite hrecord
  have hcounted : counted meddledConfig "1a2b3c4" meddledFirst there
      (some (meddledReport meddledFirst)) =
        if there then some (meddledReport meddledFirst).report else none := rfl
  rw [hthere, hcounted] at hloaded
  cases there with
  | true => exact congrArg VariantReport.stage hloaded.eq
  | false => exact hloaded.stage

/-- Under a name with a separator, saving the report of one variant can make that of another one
count. -/
theorem saves_interfere :
    meddledConfig.variants.map (·.os) = ["b.json", "a-b"] ∧
    (∃ path, meddledSaved.1 = .ok path) ∧ (meddledLoad meddledSaved.2).stage = .failed .aborted ∧
    (∃ path, meddledAgain.1 = .ok path) ∧ (meddledLoad meddledAgain.2).stage = .done := by
  have hsite : OnFiles bareSite Rehearsal.World.files := onFiles_rehearsal _
  obtain ⟨hsaved, hmissing⟩ := meddledSaved_ok
  obtain ⟨hagain, hthere⟩ := meddledAgain_ok
  have hfirstRun : ((ReportStore.ofConfig meddledConfig).save bareSite.toFiles
      (meddledReport meddledFirst).commit (meddledReport meddledFirst).report).run bareWorld =
      (.ok ((ReportStore.ofConfig meddledConfig).pathFor "b.json"), meddledSaved.2) :=
    Prod.ext hsaved rfl
  have hrecord : OnRecord (Rehearsal.World.files meddledSaved.2)
      ((ReportStore.ofConfig meddledConfig).pathFor meddledFirst.os)
        (some (meddledReport meddledFirst)) :=
    onRecord_save_self (meddledReport meddledFirst) hsite hfirstRun
  have hsecondRun : ((ReportStore.ofConfig meddledConfig).save bareSite.toFiles
      (meddledReport meddledSecond).commit
      (meddledReport meddledSecond).report).run meddledSaved.2 =
      (.ok ((ReportStore.ofConfig meddledConfig).pathFor "a-b"), meddledAgain.2) :=
    Prod.ext hagain rfl
  -- The second save is of another variant, so what was saved of the first one still stands.
  have hdiffers : (meddledReport meddledSecond).report.variant.os ≠ meddledFirst.os := by decide
  have hfirst : '/' ∉ meddledFirst.os.toList := by decide
  have hsecond : '/' ∉ (meddledReport meddledSecond).report.variant.os.toList := by decide
  have hlater := onRecord_save_of_ne hsite hfirst hsecond hdiffers hrecord hsecondRun
  exact ⟨by decide, ⟨_, hsaved⟩, meddledLoad_spec hrecord hmissing, ⟨_, hagain⟩,
    meddledLoad_spec hlater hthere⟩

end ReleasePipeline.Proofs
