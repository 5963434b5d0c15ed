import ReleasePipeline.Proofs.Execution.Shape
import ReleasePipeline.Proofs.Folders
import ReleasePipeline.Proofs.Pipeline.Collect

/-!
# `ReleasePipeline.Proofs.Pipeline.Artifact`: a variant run and its own artifact

The last step of a variant run copies what was built to the place of the artifact, and nothing
else of the run writes a file there, as long as the tools do not (`Workbench`). So a run that is
done leaves what was built when it was collected, and after any other run the artifact is what it
was before: an older one, or none (`artifact_collected_or_kept`).

One thing may come to the place where nothing stood. The run makes the artifact directory, and the
path of that directory may lead through the place of the artifact and back again. Then a folder
stands there afterwards (`failed_run_makes_folder`).
-/

set_option autoImplicit false

namespace ReleasePipeline.Proofs

open Execution (perform execute)
open ReleasePipeline.Path (resolve)

/-- What stands where the artifact of a variant is looked for is kept, but for a folder on the way
to the artifact directory that was missing. -/
structure KeepsArtifact (config : Config) (variant : Variant)
    (before after : FileSystem) : Prop where
  workingDir : after.workingDir = before.workingDir
  kept : KeptBut (placesOn (before.start config.artifactPath) config.artifactPath.names)
    (resolve before.workingDir (Artifact.ofVariant config variant).path) before after

section
variable {config : Config} {variant : Variant} {before after fs : FileSystem}

/-- It is enough that its place holds what it held before. -/
theorem keepsArtifact_of_get? (hdir : after.workingDir = before.workingDir)
    (hsame : after.get? (resolve before.workingDir (Artifact.ofVariant config variant).path) =
      before.get? (resolve before.workingDir (Artifact.ofVariant config variant).path)) :
    KeepsArtifact config variant before after :=
  ⟨hdir, .inl hsame⟩

/-- What is kept up to some moment, and from then on, is kept in the end. Both look at the same
place, since the working directory stays. -/
theorem KeepsArtifact.trans {middle : FileSystem}
    (first : KeepsArtifact config variant before middle)
    (second : KeepsArtifact config variant middle after) :
    KeepsArtifact config variant before after := by
  refine ⟨second.workingDir.trans first.workingDir, first.kept.trans ?_⟩
  have hkept := second.kept
  unfold FileSystem.start at hkept ⊢
  rwa [first.workingDir] at hkept

/-- A file that lies there is the same as before, and none comes there. -/
theorem KeepsArtifact.holds (h : KeepsArtifact config variant before after) (content : ByteArray) :
    Holds after (Artifact.ofVariant config variant).path content ↔
      Holds before (Artifact.ofVariant config variant).path content := by
  unfold Holds
  rw [h.workingDir]
  exact h.kept.sameAt content

end

section
variable {σ τ : Type}

/-- The files of one world keep the artifact of those of another one. -/
def KeepsArtifactIn (files : τ → FileSystem) (config : Config) (variant : Variant)
    (before after : τ) :
    Prop :=
  KeepsArtifact config variant (files before) (files after)

instance isPreorder_keepsArtifactIn (files : τ → FileSystem) (config : Config) (variant : Variant) :
    IsPreorder τ (KeepsArtifactIn files config variant) where
  refl _ := keepsArtifact_of_get? rfl rfl
  trans _ _ _ := KeepsArtifact.trans

/-- A site on whose files a variant is run. Tools change nothing where its artifact is looked for,
and to copy what was built there either copies everything, or fails and changes nothing there. -/
structure Workbench (site : Site (StateM σ)) (files : σ → FileSystem) (config : Config)
    (variant : Variant) : Prop extends OnFiles site files where
  stopwatch : Keeps files site.stopwatch
  invoke : ∀ invocation world,
    let after := files ((site.invoke invocation).run world).2
    let place := resolve (files world).workingDir (Artifact.ofVariant config variant).path
    after.workingDir = (files world).workingDir ∧ after.get? place = (files world).get? place
  copy : ∀ world,
    let target := (Artifact.ofVariant config variant).path
    let copied := (site.copy config.buildOutput target).run world
    let place := resolve (files world).workingDir target
    (∃ error, copied.1 = .error error ∧ (files copied.2).workingDir = (files world).workingDir ∧
      (files copied.2).get? place = (files world).get? place) ∨
    ∃ size after, (files world).copy config.buildOutput target = .ok (size, after) ∧
      copied.1 = .ok size ∧ files copied.2 = after

/-- Neither the files nor the deeds of a run are different. -/
def NothingDone (files : σ → FileSystem) (before after : Logged (Deed σ) σ) : Prop :=
  files after.world = files before.world ∧ after.log = before.log

instance isPreorder_nothingDone (files : σ → FileSystem) :
    IsPreorder (Logged (Deed σ) σ) (NothingDone files) where
  refl _ := ⟨rfl, rfl⟩
  trans _ _ _ first second := ⟨second.1.trans first.1, second.2.trans first.2⟩

/-- What keeps the files and is not logged does nothing. -/
theorem nothingDone_unlogged {α : Type} {files : σ → FileSystem} {action : StateM σ α}
    (h : Keeps files action) : Moves (NothingDone files) (unlogged action) :=
  fun logged => ⟨h logged.world, rfl⟩

variable {site : Site (StateM σ)} {files : σ → FileSystem} {config : Config} {variant : Variant}

/-- The files of a world in which deeds are written down. -/
abbrev filesOf (files : σ → FileSystem) (logged : Logged (Deed σ) σ) : FileSystem :=
  files logged.world

/-- Where nothing is done, the artifact is kept. -/
theorem keepsArtifact_of_nothingDone (before after : Logged (Deed σ) σ)
    (h : NothingDone files before after) :
    KeepsArtifactIn (filesOf files) config variant before after := by
  obtain ⟨hfiles, -⟩ := h
  show KeepsArtifact config variant (files before.world) (files after.world)
  rw [hfiles]
  exact keepsArtifact_of_get? rfl rfl

variable (hsite : Workbench site files config variant)
include hsite

/-- An action that copies nothing keeps the artifact. -/
theorem keepsArtifact_perform {action : StepAction}
    (hcopy : ∀ source target, action ≠ .copy source target)
    (hdir : ∀ path, action = .createDir path → path = config.artifactPath) :
    Moves (KeepsArtifactIn (filesOf files) config variant)
      (perform (loggedSite site) config action) := by
  cases action with
  | run command =>
      intro logged
      obtain ⟨hdir, hsame⟩ := hsite.invoke (Execution.invocation config command) logged.world
      exact keepsArtifact_of_get? hdir hsame
  | createDir path =>
      intro logged
      -- Making the artifact directory may put a folder where the artifact is looked for, but only
      -- where nothing stood.
      obtain rfl := hdir path rfl
      have hmade := (hsite.createDirs config.artifactPath logged.world).2
      obtain ⟨hdir, hkept⟩ := keptBut_createDirs (files logged.world) config.artifactPath
        (resolve (files logged.world).workingDir (Artifact.ofVariant config variant).path)
      rw [← hmade] at hdir hkept
      exact ⟨hdir, hkept⟩
  | copy source target => exact absurd rfl (hcopy source target)

/-- So do the steps in front of the one that collects. -/
theorem keepsArtifact_preparation {step : PlannedStep} (h : step ∈ preparation config variant) :
    Moves (KeepsArtifactIn (filesOf files) config variant)
      (perform (loggedSite site) config step.action) := by
  refine keepsArtifact_perform hsite (not_copy_of_mem_preparation h) fun path hpath => ?_
  simp only [preparation, Plan.ofVariant, Plan.runStep, List.dropLast, List.mem_cons,
    List.not_mem_nil, or_false] at h
  rcases h with rfl | rfl | rfl | rfl | rfl | rfl | rfl | rfl | rfl <;> cases hpath
  rfl

/-- A copy that fails keeps it as well. -/
theorem keepsArtifact_copy {before after : Logged (Deed σ) σ} {outcome : Except Crash ActionOutcome}
    (hrun : (perform (loggedSite site) config
        (.copy config.buildOutput (Artifact.ofVariant config variant).path)).run before =
      (outcome, after))
    (hfailed : ∀ left, outcome = .ok left → (!left.timedOut && left.exitCode == some 0) = false) :
    KeepsArtifactIn (filesOf files) config variant before after := by
  cases hrun
  obtain ⟨error, -, hdir, hsame⟩ | ⟨size, made, -, hok, -⟩ := hsite.copy before.world
  · exact keepsArtifact_of_get? hdir hsame
  · have hsuccess := hfailed _ rfl
    rw [hok] at hsuccess
    cases hsuccess

/-- A copy that succeeds leaves what was read at the target, and is the last deed so far. -/
theorem read_of_collect {before after : Logged (Deed σ) σ} {outcome : ActionOutcome}
    (hplace : resolve (files before.world).workingDir (Artifact.ofVariant config variant).path ≠
      resolve (files before.world).workingDir config.buildOutput)
    (hrun : (perform (loggedSite site) config
      (.copy config.buildOutput (Artifact.ofVariant config variant).path)).run before =
        (.ok outcome, after)) (hcode : outcome.exitCode = some 0) :
    ∃ deed size content, after.log.getLast? = some deed ∧
      deed.act = .copy config.buildOutput (Artifact.ofVariant config variant).path (.ok size) ∧
      (files deed.world).read config.buildOutput = .ok content ∧
      (files after.world).read (Artifact.ofVariant config variant).path = .ok content := by
  cases hrun
  obtain ⟨error, herror, -, -⟩ | ⟨size, made, hcopy, hok, hmade⟩ := hsite.copy before.world
  · -- A copy that was refused leaves no exit code.
    rw [herror] at hcode
    cases hcode
  · obtain ⟨content, hread, hwrite⟩ := write_of_copy hcopy
    rw [if_neg hplace] at hwrite
    refine ⟨_, size, content, List.getLast?_concat, congrArg _ hok, hread, ?_⟩
    have hfiles : files ((site.copy config.buildOutput (Artifact.ofVariant config variant).path).run
        before.world).2 = made := hmade
    rw [← hfiles] at hwrite
    exact (write_spec hwrite).2

/-- **The artifact is what was built, or what it was before.** A run that is done collected what
it built with its last deed, and the artifact that it names has been that since. Any other run
leaves what stands where the artifact is looked for, unless the way to the artifact directory
leads through there. -/
theorem artifact_collected_or_kept (world : σ)
    (hplace : resolve (files world).workingDir (Artifact.ofVariant config variant).path ≠
      resolve (files world).workingDir config.buildOutput) :
    let artifact := Artifact.ofVariant config variant
    let run := (execute site config variant).run world
    ∃ deeds, (execute (loggedSite site) config variant).run ⟨world, []⟩ = (run.1, ⟨run.2, deeds⟩) ∧
      (∀ report, run.1 = .ok report → report.stage = .done → report.artifact = some artifact ∧
        ∃ deed size content, deeds.getLast? = some deed ∧
          deed.act = .copy config.buildOutput artifact.path (.ok size) ∧
          (files deed.world).read config.buildOutput = .ok content ∧
          (files run.2).read artifact.path = .ok content) ∧
      ((∀ report, run.1 = .ok report → report.stage ≠ .done) →
        KeepsArtifact config variant (files world) (files run.2)) := by
  intro artifact run
  obtain ⟨deeds, ended, hexecute, -, htold⟩ := run_execute_coherent site config variant world []
  rw [List.nil_append] at hexecute
  -- The report that a run leaves names its artifact exactly if the run is done.
  have hnames : ∀ report, run.1 = .ok report →
      report.artifact = if report.stage = .done then some artifact else none := by
    intro report hreport
    rw [show ((execute site config variant).run world).1 = .ok report from hreport] at htold
    exact htold.artifact
  have hnow : Moves (NothingDone files) (loggedSite site).now := nothingDone_unlogged hsite.now
  have hwatch : Moves (NothingDone files) (loggedSite site).stopwatch :=
    nothingDone_unlogged hsite.stopwatch
  have hrunId : Moves (NothingDone files) (loggedSite site).newRunId :=
    nothingDone_unlogged hsite.newRunId
  have hmono : ∀ before after, NothingDone files before after →
      KeepsArtifactIn (filesOf files) config variant before after := keepsArtifact_of_nothingDone
  have hfront : ∀ step ∈ preparation config variant, Moves _ _ := fun step hstep =>
    keepsArtifact_preparation hsite hstep
  refine ⟨deeds, hexecute, fun report hreport hdone => ?_, fun hnot => ?_⟩
  · have hartifact := hnames report hreport
    rw [if_pos hdone] at hartifact
    have hsucceeded : report.succeeded = true := by
      rw [VariantReport.succeeded, hdone, hartifact]
      rfl
    rw [hreport] at hexecute
    obtain ⟨first, outcome, second, hfirst, hperform, hcode, hfiles, hlog⟩ :=
      execute_succeeded hmono hnow hwatch (fun logged => hmono _ _ (hrunId logged))
        (ofVariant_eq_concat config variant) hfront hexecute hsucceeded
    have hdir : (files first.world).workingDir = (files world).workingDir := hfirst.workingDir
    rw [← hdir] at hplace
    obtain ⟨deed, size, content, hlast, hact, hread, hleft⟩ :=
      read_of_collect hsite hplace hperform hcode
    refine ⟨hartifact, deed, size, content, ?_, hact, hread, ?_⟩
    · rw [← hlast]
      exact congrArg List.getLast? hlog
    · rw [← hleft]
      exact congrArg (FileSystem.read · artifact.path) hfiles
  · have hwatched := fun logged => hmono _ _ (hwatch logged)
    have hcollect : FailsTo _ (loggedSite site) config ⟨.collect, _⟩ :=
      failsTo_of_perform hwatched fun _ _ _ hrun hfailed => keepsArtifact_copy hsite hrun hfailed
    have hnone : ∀ report, run.1 = .ok report → report.artifact = none := fun report hreport => by
      rw [hnames report hreport, if_neg (hnot report hreport)]
    have hkept : KeepsArtifactIn (filesOf files) config variant ⟨world, []⟩ ⟨run.2, deeds⟩ :=
      execute_stopped (fun logged => hmono _ _ (hnow logged)) hwatched
        (fun logged => hmono _ _ (hrunId logged)) (ofVariant_eq_concat config variant) hfront
        hcollect
        hexecute hnone
    exact hkept

end

/-! ### Runs with tools that change nothing -/

/-- A site whose tools change nothing, and end with some codes. -/
def idleSite (code : Command → Int32) : Site (StateM Rehearsal.World) :=
  Rehearsal.World.site fun files invocation =>
    (.finished ⟨some (code invocation.command), "", "", false⟩, files)

/-- The codes of tools that find the program unformatted. -/
def unformatted (command : Command) : Int32 :=
  if command.args.head? = some "fmt" then 1 else 0

/-- A world with some files in it. -/
def benchWorld (files : FileSystem) : Rehearsal.World :=
  ⟨files, .ofReleases [], [], 0⟩

/-- Tools that change no file leave the artifact alone, so that any variant can be run there. -/
theorem workbench_idleSite (code : Command → Int32) (config : Config) (variant : Variant) :
    Workbench (idleSite code) Rehearsal.World.files config variant where
  toOnFiles := onFiles_rehearsal _
  stopwatch _ := rfl
  invoke _ _ := ⟨rfl, rfl⟩
  copy world := by
    intro target copied place
    have hcopied : copied =
        let left := Rehearsal.World.orSame world.files (world.files.copy config.buildOutput target)
        (left.1, { world with files := left.2 }) := rfl
    cases hcopy : world.files.copy config.buildOutput target with
    | error error =>
        rw [hcopy] at hcopied
        rw [hcopied]
        exact .inl ⟨error, rfl, rfl, rfl⟩
    | ok left =>
        rw [hcopy] at hcopied
        rw [hcopied]
        exact .inr ⟨left.1, left.2, rfl, rfl, rfl⟩

/-- A world where the program was built, beside an older artifact of it. -/
def builtWorld : Rehearsal.World :=
  benchWorld (((FileSystem.empty []).place ⟨"target/release/seeker"⟩ "new".toUTF8).place
    ⟨"dist/seeker-linux"⟩ "old".toUTF8)

/-- What the run of a variant comes to there. -/
def builtRun (code : Command → Int32) : Except Crash VariantReport × Rehearsal.World :=
  (execute (idleSite code) (.ofBinary "seeker") .linux).run builtWorld

/-- A run that came to a stage ended on a report of it. -/
theorem exists_report {result : Except Crash VariantReport} {stage : Stage}
    (h : result.toOption.map (·.stage) = some stage) :
    ∃ report, result = .ok report ∧ report.stage = stage := by
  cases result with
  | error message => cases h
  | ok report => exact ⟨report, rfl, Option.some.inj h⟩

/-- A run that is done leaves what was built, and one that failed leaves the older artifact. -/
theorem artifact_collected_or_kept_built :
    let path := (Artifact.ofVariant (.ofBinary "seeker") .linux).path
    (∃ report content, (builtRun fun _ => 0).1 = .ok report ∧ report.stage = .done ∧
      (builtRun fun _ => 0).2.files.read path = .ok content) ∧
    (∃ report, (builtRun unformatted).1 = .ok report ∧ report.stage = .failed .formatViolation) ∧
    Holds builtWorld.files path "old".toUTF8 ∧
      Holds (builtRun unformatted).2.files path "old".toUTF8 := by
  intro path
  have hplace : resolve builtWorld.files.workingDir path ≠
      resolve builtWorld.files.workingDir (Config.ofBinary "seeker").buildOutput := by
    decide +kernel
  have holder : builtWorld.files.read path = .ok "old".toUTF8 := by decide +kernel
  have hdone : (builtRun fun _ => 0).1.toOption.map (·.stage) = some .done := by decide +kernel
  have hfailed :
      (builtRun unformatted).1.toOption.map (·.stage) = some (.failed .formatViolation) := by
    decide +kernel
  obtain ⟨report, hreport, hstage⟩ := exists_report hdone
  obtain ⟨other, hother, hstopped⟩ := exists_report hfailed
  have hnot : ∀ report, (builtRun unformatted).1 = .ok report → report.stage ≠ .done := by
    intro report hreport hdone
    cases hother.symm.trans hreport
    cases hstopped.symm.trans hdone
  unfold builtRun at hreport hnot ⊢
  obtain ⟨deeds, -, hleft, -⟩ :=
    artifact_collected_or_kept (workbench_idleSite (fun _ => 0) _ .linux) builtWorld hplace
  obtain ⟨others, -, -, hkept⟩ :=
    artifact_collected_or_kept (workbench_idleSite unformatted _ .linux) builtWorld hplace
  obtain ⟨-, deed, size, content, -, -, -, hcontent⟩ := hleft report hreport hstage
  have hheld := holds_of_read holder
  exact ⟨⟨report, content, hreport, hstage, hcontent⟩, ⟨other, hother, hstopped⟩,
    hheld, ((hkept hnot).holds _).mpr hheld⟩

/-- The artifact directory of a configuration whose path leads through the place of the artifact. -/
def detourConfig : Config :=
  { Config.ofBinary "seeker" with artifactDir := ⟨"dist/seeker-linux/.."⟩ }

/-- What a run comes to that finds the program unformatted. -/
def detourRun : Except Crash VariantReport × Rehearsal.World :=
  (execute (idleSite unformatted) detourConfig .linux).run (benchWorld (.empty []))

/-- Nothing stands where the artifact is looked for, the run fails, and a folder stands there. -/
theorem failed_run_makes_folder :
    let place := resolve [] (Artifact.ofVariant detourConfig .linux).path
    detourConfig.validate = .ok () ∧
    Workbench (idleSite unformatted) Rehearsal.World.files detourConfig .linux ∧
    place ≠ resolve [] detourConfig.buildOutput ∧
    (∃ report, detourRun.1 = .ok report ∧ report.stage = .failed .formatViolation) ∧
    (FileSystem.empty []).get? place = none ∧ detourRun.2.files.get? place = some .folder := by
  intro place
  have hvalid : detourConfig.validate = .ok () := by decide +kernel
  have hplace : place ≠ resolve [] detourConfig.buildOutput := by decide +kernel
  have hfailed : detourRun.1.toOption.map (·.stage) = some (.failed .formatViolation) := by
    decide +kernel
  have hfree : ((FileSystem.empty []).get? place).isNone = true := by decide +kernel
  have hfolder : detourRun.2.files.checkFolder place = .ok () := by decide +kernel
  exact ⟨hvalid, workbench_idleSite _ _ _, hplace, exists_report hfailed,
    Option.isNone_iff_eq_none.mp hfree, checkFolder_eq_ok.mp hfolder⟩

end ReleasePipeline.Proofs
