import ReleasePipeline.Proofs.Folders
import ReleasePipeline.Proofs.Json.Reports
import ReleasePipeline.Proofs.Outputs
import ReleasePipeline.Proofs.Pipeline.Aggregate
import ReleasePipeline.Rehearsal.World

/-!
# `ReleasePipeline.Proofs.ReportStore`: reports that are saved and read again

`OnFiles` says that a site works on a tree of files that is part of its world. A rehearsal is such
a site (`onFiles_rehearsal`). On such a site `save_spec` says all that saving a report does: nothing
but the file of the report is changed, and if nothing was refused, the file holds the report, under
the commit it is about. By `ofBytes_bytes` it is read back as it was.
-/

set_option autoImplicit false

namespace ReleasePipeline.Proofs

section
variable {σ : Type}

/-- A site that works on the files of its world. What else there is in the world may change as it
likes, and reading the clock or drawing an identifier leaves the files alone. -/
structure OnFiles (site : Site (StateM σ)) (files : σ → FileSystem) : Prop where
  read : ∀ path world, (site.read path).run world = ((files world).read path, world)
  isFile : ∀ path world, (site.isFile path).run world = ((files world).isFile path, world)
  createDirs : ∀ path world,
    ((site.createDirs path).run world).1 = ((files world).createDirs path).1 ∧
      files ((site.createDirs path).run world).2 = ((files world).createDirs path).2
  write : ∀ path content world after, (files world).write path content = .ok after →
    ((site.write path content).run world).1 = .ok () ∧
      files ((site.write path content).run world).2 = after
  writeRefused : ∀ path content world error, (files world).write path content = .error error →
    ((site.write path content).run world).1 = .error error ∧
      files ((site.write path content).run world).2 = files world
  now : Keeps files site.now
  newRunId : Keeps files site.newRunId

/-- A rehearsal writes to the files of its world, and leaves them as they are where that is refused.
-/
theorem run_write_rehearsal (play : FileSystem → Invocation → Answer × FileSystem) (path : Path)
    (content : ByteArray) (world : Rehearsal.World) :
    ((Rehearsal.World.site play).write path content).run world =
      let written := Rehearsal.World.orSame world.files
        ((world.files.write path content).map ((), ·))
      (written.1, { world with files := written.2 }) :=
  rfl

/-- A rehearsal works on the files of its world, whatever commands do in it. -/
theorem onFiles_rehearsal (play : FileSystem → Invocation → Answer × FileSystem) :
    OnFiles (Rehearsal.World.site play) Rehearsal.World.files where
  read _ _ := rfl
  isFile _ _ := rfl
  createDirs _ _ := ⟨rfl, rfl⟩
  write path content world after h := by
    rw [run_write_rehearsal, h]
    exact ⟨rfl, rfl⟩
  writeRefused path content world error h := by
    rw [run_write_rehearsal, h]
    exact ⟨rfl, rfl⟩
  now _ := rfl
  newRunId _ := rfl

/-- What can be seen of a tree of files without changing it. -/
def snapshotOf (fs : FileSystem) : Snapshot :=
  ⟨fs.read, fs.isFile⟩

variable {site : Site (StateM σ)} {files : σ → FileSystem}

/-- What can be seen on a site that works on files is what can be seen of the files. -/
theorem OnFiles.legible (h : OnFiles site files) :
    Legible site fun world => snapshotOf (files world) where
  read := h.read
  isFile := h.isFile
  newRunId world := congrArg snapshotOf (h.newRunId world)
  now world := congrArg snapshotOf (h.now world)

/-- Writing a file changes no other one, and leaves a note if it is refused. -/
theorem attempt_write_spec (hsite : OnFiles site files) (path : Path) (content : ByteArray)
    (watched : Watched σ) :
    let after := ((attempt (site.write path content)).run watched).2
    Grows (· = Path.resolve (files watched.world).workingDir path) (files watched.world)
      (files after.world) ∧
    ∃ refusals, after.refusals = watched.refusals ++ refusals ∧
      (refusals = [] → (files after.world).read path = .ok content) := by
  intro after
  have hworld : files after.world = files ((site.write path content).run watched.world).2 := rfl
  have hrefusals : after.refusals =
      watched.refusals ++ refusalOf ((site.write path content).run watched.world).1 := rfl
  cases hwrite : (files watched.world).write path content with
  | error error =>
      obtain ⟨hrefused, hsame⟩ := hsite.writeRefused path content watched.world error hwrite
      rw [hrefused] at hrefusals
      rw [hworld, hsame]
      exact ⟨grows_refl _ _, [error], hrefusals, nofun⟩
  | ok changed =>
      obtain ⟨hdone, hchanged⟩ := hsite.write path content watched.world changed hwrite
      obtain ⟨hgrows, hread⟩ := write_spec hwrite
      rw [hdone] at hrefusals
      rw [hworld, hchanged]
      exact ⟨hgrows, [], hrefusals, fun _ => hread⟩

/-- Saving a report changes no file but its own, which then holds it unless something was
refused. -/
theorem save_spec (hsite : OnFiles site files) (store : ReportStore) (commit : String)
    (report : VariantReport) (watched : Watched σ) :
    let path := store.pathFor report.variant.os
    let after := ((store.save (watchedSite site).toFiles commit report).run watched).2
    Grows (· = Path.resolve (files watched.world).workingDir path) (files watched.world)
      (files after.world) ∧
    ∃ refusals, after.refusals = watched.refusals ++ refusals ∧
      (refusals = [] →
        (files after.world).read path = .ok (StoredReport.mk commit report).bytes) := by
  intro path after
  let content := (StoredReport.mk commit report).bytes
  let made := (attempt (site.createDirs store.directory)).run watched
  have hmade : Grows (fun _ => False) (files watched.world) (files made.2.world) := by
    have hfiles := (hsite.createDirs store.directory watched.world).2
    show Grows _ _ (files ((site.createDirs store.directory).run watched.world).2)
    rw [hfiles]
    exact grows_createDirs _ _
  have hnoted : made.2.refusals = watched.refusals ++ refusalOf made.1 := rfl
  -- If the directory cannot be made nothing is written, and the refusal is on the account.
  cases hdone : made.1 with
  | error error =>
      rw [hdone] at hnoted
      have hrun : (attempt (site.createDirs store.directory)).run watched =
          (.error error, made.2) :=
        Prod.ext hdone rfl
      have hafter : after = made.2 := congrArg Prod.snd (run_bind_of hrun _)
      rw [hafter]
      exact ⟨hmade.mono fun _ h => h.elim, [error], hnoted, nofun⟩
  | ok _ =>
      rw [hdone] at hnoted
      have hrun : (attempt (site.createDirs store.directory)).run watched = (.ok (), made.2) :=
        Prod.ext hdone rfl
      have hwritten : after = ((attempt (site.write path content)).run made.2).2 := by
        obtain ⟨answer, written, hwrite⟩ : ∃ answer written,
            (attempt (site.write path content)).run made.2 = (answer, written) := ⟨_, _, rfl⟩
        refine Eq.trans (congrArg Prod.snd ((run_bind_of hrun _).trans (run_bind_of hwrite _))) ?_
        rw [hwrite]
        cases answer <;> rfl
      obtain ⟨hgrows, refusals, hrefusals, hread⟩ := attempt_write_spec hsite path content made.2
      rw [hmade.workingDir] at hgrows
      rw [hwritten]
      refine ⟨(hmade.mono fun _ h => h.elim).trans hgrows, refusals, ?_, hread⟩
      rw [hrefusals, hnoted, refusalOf, List.append_nil]

end

end ReleasePipeline.Proofs
