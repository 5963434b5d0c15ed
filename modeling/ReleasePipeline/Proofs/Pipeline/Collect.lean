import ReleasePipeline.Proofs.Execution.Turns
import ReleasePipeline.Proofs.Folders
import ReleasePipeline.Proofs.Pipeline.Steady

/-!
# `ReleasePipeline.Proofs.Pipeline.Collect`: what a variant run collects

The last step of a plan copies what was built to the place of the artifact. Everything else that a
variant run does lets the outputs of all variants be, as long as tools write nothing into the
artifact directory. A `Workplace` is a site where they do not, and where a copy is made as a whole
or not at all.

`Spares` says that a stretch of a run lets some files be and collects nothing at some path. It is
a preorder, so it holds of a run if it holds of its actions. A move of a variant spares the
outputs of every other one (`spares_move`). Of its own artifact `Collected` says that it was
copied once, from what was built, and that what was copied lies there since. `Tracked` is what is
known of a variant whose run is on its way, beside whichever others: so far its outputs were
spared, or it has ended, and if it has ended in success it has collected its artifact. Its own
moves preserve this, the ones that prepare and the one that collects (`Tracked.prepare`,
`Tracked.collect`, `Tracked.move`), and so does whatever spares its outputs (`Tracked.spares`).
-/

set_option autoImplicit false

namespace ReleasePipeline.Proofs

open Execution (perform)

/-! ### What is spared and what is collected -/

/-- An act copied something to a path. -/
def Act.collects (target : Path) : Act → Prop
  | .copy _ path (.ok _) => path = target
  | _ => False

/-- A place lies below a folder. -/
def Inside (folder place : Place) : Prop :=
  ∃ name rest, place = folder ++ name :: rest

/-- No file inside a directory was changed, and none came there. -/
structure Untouched (directory : Path) (before after : FileSystem) : Prop where
  workingDir : after.workingDir = before.workingDir
  sameAt : ∀ place, Inside (Path.resolve before.workingDir directory) place →
    SameAt place before after

instance isPreorder_untouched (directory : Path) :
    IsPreorder FileSystem (Untouched directory) where
  refl _ := ⟨rfl, fun _ _ => sameAt_refl _ _⟩
  trans _ _ _ first second := by
    refine ⟨second.workingDir.trans first.workingDir, fun place hplace => ?_⟩
    refine (first.sameAt place hplace).trans (second.sameAt place ?_)
    rwa [first.workingDir]

section
variable {σ α : Type}

/-- An action writes nothing inside a directory. -/
def StaysOut (files : σ → FileSystem) (directory : Path) (action : StateM σ α) : Prop :=
  ∀ world, Untouched directory (files world) (files (action.run world).2)

/-- A site on whose files variants are run. Tools write nothing inside the artifact directory, and a
copy is made as a whole or not at all. -/
structure Workplace (site : Site (StateM σ)) (files : σ → FileSystem) (directory : Path) : Prop
    extends OnFiles site files where
  stopwatch : Keeps files site.stopwatch
  invoke : ∀ invocation, StaysOut files directory (site.invoke invocation)
  copy : ∀ source target world,
    (∃ error, ((site.copy source target).run world).1 = .error error ∧
      files ((site.copy source target).run world).2 = files world) ∨
    ∃ size after, (files world).copy source target = .ok (size, after) ∧
      ((site.copy source target).run world).1 = .ok size ∧
      files ((site.copy source target).run world).2 = after

variable (files : σ → FileSystem)

/-- In a stretch of a run the files at some paths are let be, and nothing is collected at some
path. -/
structure Spares (paths : List Path) (target : Path) (before after : Logged (Deed σ) σ) : Prop where
  same : SameFiles paths (files before.world) (files after.world)
  quiet : ∃ during, after.log = before.log ++ during ∧ ∀ deed ∈ during, ¬ deed.act.collects target

/-- In a stretch of a run there was one copy to the target. What the source held then is what the
target holds in the end. -/
structure Collected (source target : Path) (content : ByteArray)
    (before after : Logged (Deed σ) σ) : Prop where
  copied : ∃ front deed back size, after.log = before.log ++ (front ++ deed :: back) ∧
    deed.act = .copy source target (.ok size) ∧ (files deed.world).read source = .ok content ∧
    ∀ other ∈ front ++ back, ¬ other.act.collects target
  held : Holds (files after.world) target content

/-- In a stretch of a run a lane was on its way. Until it has ended some files were let be, and if
it has ended in success something was collected. -/
structure Tracked (paths : List Path) (source target : Path) (before : Logged (Deed σ) σ)
    (lane : Lane) (after : Logged (Deed σ) σ) : Prop where
  spared : (∀ result, lane ≠ .ended result) → Spares files paths target before after
  collected : ∀ report, lane = .ended (.ok report) → report.succeeded = true →
    ∃ content, Collected files source target content before after

end

section
variable {σ α : Type} {files : σ → FileSystem} {paths : List Path} {source target : Path}
  {content : ByteArray} {before middle after : Logged (Deed σ) σ}

/-- What is spared up to some moment, and from then on, is spared in the end: the deeds of the
second stretch stand behind those of the first. -/
theorem Spares.trans (first : Spares files paths target before middle)
    (second : Spares files paths target middle after) : Spares files paths target before after := by
  obtain ⟨front, hfront, hquiet⟩ := first.quiet
  obtain ⟨back, hback, hstill⟩ := second.quiet
  refine ⟨first.same.trans second.same, front ++ back, ?_,
    List.forall_mem_append.mpr ⟨hquiet, hstill⟩⟩
  rw [hback, hfront, List.append_assoc]

instance isPreorder_spares :
    IsPreorder (Logged (Deed σ) σ) (Spares files paths target) where
  refl _ := ⟨sameFiles_refl _ _, [], (List.append_nil _).symm, nofun⟩
  trans _ _ _ := Spares.trans

/-- What is collected behind something that spares it is collected by both together. -/
theorem Spares.collected (first : Spares files paths target before middle)
    (second : Collected files source target content middle after) :
    Collected files source target content before after := by
  obtain ⟨during, hduring, hquiet⟩ := first.quiet
  obtain ⟨front, deed, back, size, hlog, hact, hread, hothers⟩ := second.copied
  refine ⟨⟨during ++ front, deed, back, size, ?_, hact, hread, ?_⟩, second.held⟩
  · rw [hlog, hduring, List.append_assoc, List.append_assoc]
  · rw [List.append_assoc]
    exact List.forall_mem_append.mpr ⟨hquiet, hothers⟩

/-- What was collected stays so where it is spared. -/
theorem Collected.spares (first : Collected files source target content before middle)
    (second : Spares files paths target middle after) (htarget : target ∈ paths) :
    Collected files source target content before after := by
  obtain ⟨during, hduring, hquiet⟩ := second.quiet
  obtain ⟨front, deed, back, size, hlog, hact, hread, hothers⟩ := first.copied
  refine ⟨⟨front, deed, back ++ during, size, ?_, hact, hread, ?_⟩,
    (second.same target htarget content).mpr first.held⟩
  · rw [hduring, hlog, List.append_assoc, List.append_assoc, List.cons_append]
  · rw [← List.append_assoc]
    exact List.forall_mem_append.mpr ⟨hothers, hquiet⟩

/-- What is known of a lane stays so where the files are spared. -/
theorem Tracked.spares {lane : Lane} (first : Tracked files paths source target before lane middle)
    (second : Spares files paths target middle after) (htarget : target ∈ paths) :
    Tracked files paths source target before lane after where
  spared hopen := (first.spared hopen).trans second
  collected report hended hsucceeded := by
    obtain ⟨content, hcollected⟩ := first.collected report hended hsucceeded
    exact ⟨content, hcollected.spares second htarget⟩

/-- What is not written down is no deed. -/
theorem spares_unlogged {action : StateM σ α}
    (h : ∀ world, SameFiles paths (files world) (files (action.run world).2)) :
    Moves (Spares files paths target) (unlogged action) :=
  fun logged => ⟨h logged.world, [], (List.append_nil _).symm, nofun⟩

/-- What is written down spares the target unless it is a copy to it. -/
theorem spares_logging {entry : σ → α → Deed σ} {action : StateM σ α}
    (h : ∀ world, SameFiles paths (files world) (files (action.run world).2))
    (hentry : ∀ world a, ¬ (entry world a).act.collects target) :
    Moves (Spares files paths target) (logging entry action) := by
  intro logged
  refine ⟨h logged.world, [entry logged.world (action.run logged.world).1], rfl, ?_⟩
  intro deed hdeed
  rw [List.mem_singleton.mp hdeed]
  exact hentry _ _

/-- Where all files are kept those at some paths are the same. -/
theorem sameFiles_of_keeps {action : StateM σ α} (h : Keeps files action) (world : σ) :
    SameFiles paths (files world) (files (action.run world).2) := by
  rw [h world]
  exact sameFiles_refl _ _

/-- A site where deeds are written down works on the same files. -/
theorem onFiles_logged {site : Site (StateM σ)} (h : OnFiles site files) :
    OnFiles (loggedSite site) fun logged => files logged.world where
  read path logged := by
    show (((site.read path).run logged.world).1,
      Logged.mk ((site.read path).run logged.world).2 logged.log) = _
    rw [h.read]
  isFile path logged := by
    show (((site.isFile path).run logged.world).1,
      Logged.mk ((site.isFile path).run logged.world).2 logged.log) = _
    rw [h.isFile]
  createDirs path logged := h.createDirs path logged.world
  write path content logged after hwrite := h.write path content logged.world after hwrite
  writeRefused path content logged error hwrite :=
    h.writeRefused path content logged.world error hwrite
  now logged := h.now logged.world
  newRunId logged := h.newRunId logged.world

end

/-! ### The actions of a plan -/

section
variable {σ : Type} {files : σ → FileSystem} {site : Site (StateM σ)} {config : Config}
  {variant other : Variant} {before after : FileSystem}

/-- Where nothing is written inside the artifact directory, the outputs of a variant are the
same. -/
theorem Untouched.sameFiles (h : Untouched config.artifactPath before after)
    (hname : '/' ∉ config.binaryName.toList) (hos : '/' ∉ variant.os.toList) :
    SameFiles (outputsOf config variant) before after := by
  refine sameFiles_of_sameAt h.workingDir fun path hpath => h.sameAt _ ?_
  simp only [outputsOf, List.mem_cons, List.not_mem_nil, or_false] at hpath
  rcases hpath with rfl | rfl
  · exact ⟨_, [], resolve_artifact hname hos _⟩
  · exact ⟨_, _, resolve_report config hos _⟩

/-- The artifact of one variant is none of the outputs of another one. -/
theorem resolve_outputs_ne_artifact (hname : '/' ∉ config.binaryName.toList)
    (hvariant : '/' ∉ variant.os.toList) (hother : '/' ∉ other.os.toList)
    (hne : other.os ≠ variant.os) {path : Path} (hpath : path ∈ outputsOf config variant)
    (from' : Place) :
    Path.resolve from' path ≠ Path.resolve from' (Artifact.ofVariant config other).path := by
  simp only [outputsOf, List.mem_cons, List.not_mem_nil, or_false] at hpath
  rcases hpath with rfl | rfl
  · exact resolve_artifact_ne hname hvariant hother hne.symm from'
  · exact (resolve_artifact_ne_report hname hother hvariant from').symm

/-- The steps of a plan in front of the one that collects. -/
def preparation (config : Config) (variant : Variant) : List PlannedStep :=
  (Plan.ofVariant config variant).dropLast

/-- Collecting is the last step of a plan, and the only one with this target. -/
theorem ofVariant_eq_concat (config : Config) (variant : Variant) :
    Plan.ofVariant config variant = preparation config variant ++
      [⟨.collect, .copy config.buildOutput (Artifact.ofVariant config variant).path⟩] :=
  rfl

/-- Nothing is copied in front of the last step. -/
theorem not_copy_of_mem_preparation {step : PlannedStep} (h : step ∈ preparation config variant)
    (source target : Path) : step.action ≠ .copy source target := by
  simp only [preparation, Plan.ofVariant, Plan.runStep, List.dropLast, List.mem_cons,
    List.not_mem_nil, or_false] at h
  rcases h with rfl | rfl | rfl | rfl | rfl | rfl | rfl | rfl | rfl <;> exact nofun

/-- What is spared where the outputs of a variant are: the files are let be, and its artifact is not
collected. -/
abbrev SparesOutputs (files : σ → FileSystem) (config : Config) (variant : Variant) :
    Logged (Deed σ) σ → Logged (Deed σ) σ → Prop :=
  Spares files (outputsOf config variant) (Artifact.ofVariant config variant).path

/-- A lane that is at its last step is about to collect. -/
theorem collect_of_isAt {lane : Lane} {next : PlannedStep} (hat : lane.IsAt next [])
    (hsound : lane.Sound config variant) :
    next = ⟨.collect, .copy config.buildOutput (Artifact.ofVariant config variant).path⟩ := by
  obtain ⟨progress, results, rfl⟩ := hat
  obtain ⟨front, hplan⟩ := hsound.1
  rw [ofVariant_eq_concat] at hplan
  exact List.singleton_inj.mp (List.append_inj_right' hplan rfl)

/-- A lane that is at another one is about to prepare. -/
theorem mem_preparation_of_isAt {lane : Lane} {next step : PlannedStep} {behind : List PlannedStep}
    (hat : lane.IsAt next (step :: behind)) (hsound : lane.Sound config variant) :
    next ∈ preparation config variant := by
  obtain ⟨progress, results, rfl⟩ := hat
  obtain ⟨front, hplan⟩ := hsound.1
  unfold preparation
  rw [← hplan, List.dropLast_append_of_ne_nil (List.cons_ne_nil _ _), List.dropLast_cons_cons]
  exact List.mem_append_right _ List.mem_cons_self

/-- What is known of the outputs of a variant at some moment of a run in which it takes turns with
others. -/
abbrev TracksOutputs (files : σ → FileSystem) (config : Config) (variant : Variant) :
    Logged (Deed σ) σ → Lane → Logged (Deed σ) σ → Prop :=
  Tracked files (outputsOf config variant) config.buildOutput
    (Artifact.ofVariant config variant).path

section
variable {paths : List Path} {directory target : Path} (hsite : Workplace site files directory)
include hsite

/-- Asking for the time spares everything. -/
theorem spares_now : Moves (Spares files paths target) (loggedSite site).now :=
  spares_unlogged (sameFiles_of_keeps hsite.now)

/-- So does the stopwatch. -/
theorem spares_stopwatch : Moves (Spares files paths target) (loggedSite site).stopwatch :=
  spares_unlogged (sameFiles_of_keeps hsite.stopwatch)

/-- So does a new identifier of a run. -/
theorem spares_newRunId : Moves (Spares files paths target) (loggedSite site).newRunId :=
  spares_unlogged (sameFiles_of_keeps hsite.newRunId)

/-- Making directories spares everything. -/
theorem spares_createDirs (path : Path) :
    Moves (Spares files paths target) ((loggedSite site).createDirs path) := by
  refine spares_logging ?_ fun _ _ => nofun
  intro world
  rw [(hsite.createDirs path world).2]
  exact (madeFolders_createDirs _ path).sameFiles _

/-- Writing a file spares those that lie elsewhere. -/
theorem spares_write {path : Path} (content : ByteArray)
    (helse : ∀ other ∈ paths, ∀ from', Path.resolve from' other ≠ Path.resolve from' path) :
    Moves (Spares files paths target) ((loggedSite site).write path content) := by
  refine spares_unlogged ?_
  intro world
  cases hwrite : (files world).write path content with
  | error error =>
      rw [(hsite.writeRefused path content world error hwrite).2]
      exact sameFiles_refl _ _
  | ok after =>
      rw [(hsite.write path content world after hwrite).2]
      exact sameFiles_of_write hwrite helse

end

section
variable (hsite : Workplace site files config.artifactPath)
  (hname : '/' ∉ config.binaryName.toList) (hvariant : '/' ∉ variant.os.toList)
include hsite hname hvariant

/-- Running a command spares all outputs. -/
theorem spares_invoke (invocation : Invocation) :
    Moves (SparesOutputs files config variant) ((loggedSite site).invoke invocation) := by
  refine spares_logging ?_ fun _ _ => nofun
  intro world
  exact (hsite.invoke invocation world).sameFiles hname hvariant

/-- Copying something to the artifact of another variant spares the outputs of this one. -/
theorem spares_copy (hother : '/' ∉ other.os.toList) (hne : other.os ≠ variant.os) (source : Path) :
    Moves (SparesOutputs files config variant)
      ((loggedSite site).copy source (Artifact.ofVariant config other).path) := by
  have helse : ∀ path ∈ outputsOf config variant, ∀ from', Path.resolve from' path ≠
      Path.resolve from' (Artifact.ofVariant config other).path :=
    fun path hpath => resolve_outputs_ne_artifact hname hvariant hother hne hpath
  refine spares_logging ?_ ?_
  · intro world
    obtain ⟨error, -, hsame⟩ | ⟨size, after, hcopy, -, hafter⟩ :=
      hsite.copy source (Artifact.ofVariant config other).path world
    · rw [hsame]
      exact sameFiles_refl _ _
    · rw [hafter]
      exact sameFiles_of_copy hcopy helse
  · -- What is copied to another path is not collected.
    intro world result hcollects
    cases result with
    | error error => exact hcollects
    | ok size =>
        refine helse _ (artifact_mem_outputs config variant) [] ?_
        exact congrArg (Path.resolve []) (Eq.symm hcollects)

/-- An action that copies nothing spares all outputs. -/
theorem spares_perform {action : StepAction} (h : ∀ source target, action ≠ .copy source target) :
    Moves (SparesOutputs files config variant) (perform (loggedSite site) config action) := by
  cases action with
  | run command => exact (spares_invoke hsite hname hvariant _).bind fun _ => moves_pure _
  | createDir path => exact (spares_createDirs hsite path).bind fun _ => moves_pure _
  | copy source target => exact absurd rfl (h source target)

/-- A move of a variant spares the outputs of every other one. -/
theorem spares_move (hother : '/' ∉ other.os.toList) (hne : other.os ≠ variant.os) {lane : Lane}
    (hsound : lane.Sound config other) :
    Moves (SparesOutputs files config variant) (lane.move (loggedSite site) config other) := by
  refine Lane.moves_move (spares_now hsite) (spares_stopwatch hsite) (spares_newRunId hsite) lane ?_
  intro next behind hat
  have hstep := hat.mem_plan hsound
  rw [ofVariant_eq_concat, List.mem_append, List.mem_singleton] at hstep
  rcases hstep with hstep | rfl
  · exact spares_perform hsite hname hvariant (not_copy_of_mem_preparation hstep)
  · exact (spares_copy hsite hname hvariant hother hne _).bind fun _ => moves_pure _

/-- A copy of what was built that succeeds collects it. -/
theorem collected_perform {before after : Logged (Deed σ) σ} {outcome : ActionOutcome}
    (hrun : (perform (loggedSite site) config
      (.copy config.buildOutput (Artifact.ofVariant config variant).path)).run before =
        (.ok outcome, after)) (hcode : outcome.exitCode = some 0) :
    ∃ content, Collected files config.buildOutput (Artifact.ofVariant config variant).path content
      before after := by
  let target := (Artifact.ofVariant config variant).path
  let copied := (site.copy config.buildOutput target).run before.world
  have hperform : (perform (loggedSite site) config (.copy config.buildOutput target)).run before =
      (.ok (.ofCopy config.buildOutput target copied.1),
        ⟨copied.2, before.log ++ [⟨.copy config.buildOutput target copied.1, before.world⟩]⟩) := rfl
  cases hperform.symm.trans hrun
  obtain ⟨error, hrefused, -⟩ | ⟨size, afterwards, hcopy, hresult, hfiles⟩ :=
    hsite.copy config.buildOutput target before.world
  · -- A copy that was refused leaves no exit code.
    have hresult : copied.1 = .error error := hrefused
    rw [hresult] at hcode
    cases hcode
  · have hresult : copied.1 = .ok size := hresult
    obtain ⟨content, hread, hheld⟩ :=
      holds_of_copy hcopy (resolve_artifact_ne_buildOutput hname hvariant _)
    refine ⟨content, ⟨[], _, [], size, rfl, ?_, hread, nofun⟩, ?_⟩
    · rw [hresult]
    · show Holds (files copied.2) target content
      rw [show files copied.2 = afterwards from hfiles]
      exact hheld

/-- So does a move of the variant itself, unless it is about to collect. -/
theorem spares_move_of_prepares {lane : Lane}
    (hprepares : ∀ next behind, lane.IsAt next behind → next ∈ preparation config variant) :
    Moves (SparesOutputs files config variant)
      (lane.move (loggedSite site) config variant) := by
  refine Lane.moves_move (spares_now hsite) (spares_stopwatch hsite) (spares_newRunId hsite) lane ?_
  intro next behind hat
  have hstep := hprepares next behind hat
  exact spares_perform hsite hname hvariant (not_copy_of_mem_preparation hstep)

section
variable {origin now : Logged (Deed σ) σ} {progress : Progress} {results : List StepResult}
  {next step : PlannedStep} {behind : List PlannedStep}

/-- A move that prepares keeps track of its variant. It can end in failure only. -/
theorem Tracked.prepare
    (h : TracksOutputs files config variant origin
      (.underway progress results next (step :: behind)) now)
    (hsound : (Lane.underway progress results next (step :: behind)).Sound config variant) :
    let moved := ((Lane.underway progress results next (step :: behind)).move (loggedSite site)
      config variant).run now
    TracksOutputs files config variant origin moved.1 moved.2 := by
  intro moved
  have hspared : SparesOutputs files config variant now moved.2 := by
    refine spares_move_of_prepares hsite hname hvariant (fun other others hat => ?_) now
    obtain ⟨_, _, hlane⟩ := hat
    cases hlane
    exact mem_preparation_of_isAt ⟨_, _, rfl⟩ hsound
  have hnext : Lane.Next config variant _ moved.1 := Lane.next_move _ now
  refine ⟨fun _ => (h.spared nofun).trans hspared, fun report hended hsucceeded => ?_⟩
  rw [hended] at hnext
  cases hnext with
  | failed _ failed =>
      exact absurd ((succeeded_iff report).mp hsucceeded).1 (failed hsound.2)

/-- A move that collects keeps track of its variant. It ends the run, and in success only if the
artifact was copied. -/
theorem Tracked.collect
    (h : TracksOutputs files config variant origin (.underway progress results next []) now)
    (hsound : (Lane.underway progress results next []).Sound config variant) :
    let moved := ((Lane.underway progress results next []).move (loggedSite site) config
      variant).run now
    TracksOutputs files config variant origin moved.1 moved.2 := by
  intro moved
  have hat : (Lane.underway progress results next []).IsAt next [] := ⟨_, _, rfl⟩
  obtain ⟨first, outcome, second, hfirst, hperform, hlast, hdone⟩ :=
    Lane.move_action (R := SparesOutputs files config variant) (spares_now hsite)
      (spares_stopwatch hsite) hat hsound now
  rw [collect_of_isAt hat hsound] at hperform
  have hnext : Lane.Next config variant _ moved.1 := Lane.next_move _ now
  refine ⟨fun hopen => ?_, fun report hended hsucceeded => ?_⟩
  · -- Behind the last step no lane is still under way.
    generalize moved.1 = lane at hnext hopen
    cases hnext <;> exact absurd rfl (hopen _)
  · have hmoved : moved.1.isDone = true := by
      rw [hended]
      exact (Bool.and_eq_true_iff.mp hsucceeded).1
    obtain ⟨success, rfl, hcode⟩ := hdone hmoved
    obtain ⟨content, hcollected⟩ := collected_perform hsite hname hvariant hperform hcode
    have hspared := (h.spared nofun).trans hfirst
    exact ⟨content,
      hspared.collected (hcollected.spares hlast (artifact_mem_outputs config variant))⟩

end

/-- A move keeps track of its own variant. The last step collects, and all steps in front of it
spare the outputs. -/
theorem Tracked.move {before now later : Logged (Deed σ) σ} {lane moved : Lane}
    (h : TracksOutputs files config variant before lane now) (hsound : lane.Sound config variant)
    (hmove : (lane.move (loggedSite site) config variant).run now = (moved, later)) :
    TracksOutputs files config variant before moved later := by
  obtain ⟨rfl, rfl⟩ := Prod.mk.inj hmove.symm
  -- A lane that waits is only started, and one that has ended stays.
  cases lane with
  | waiting =>
      have hprepares : ∀ next behind, Lane.waiting.IsAt next behind →
          next ∈ preparation config variant := nofun
      have hspared := spares_move_of_prepares hsite hname hvariant hprepares now
      exact ⟨fun _ => (h.spared nofun).trans hspared, nofun⟩
  | underway progress results next behind =>
      cases behind with
      | nil => exact h.collect hsite hname hvariant hsound
      | cons step behind => exact h.prepare hsite hname hvariant hsound
  | ended result => exact h

end

end

end ReleasePipeline.Proofs
