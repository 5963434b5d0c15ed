import ReleasePipeline.Artifact
import ReleasePipeline.Rehearsal.World
import ReleasePipeline.Proofs.Execution.Race
import ReleasePipeline.Proofs.FileSystem

/-!
# `ReleasePipeline.Proofs.Execution.Interference`: what a variant collects beside others

The variants of a host build in one source directory, so the program lies at one path for all of
them. Only the artifacts have paths of their own. The tools are functions of their command and the
files, and may be any ones.

A variant that is done has built, stripped, compressed and collected in four of its turns
(`OwnTurns`). `collected_content` says what it has collected: what lay at the path of the program
just before. This is what the variant left there itself, unless another one has written it since
(`Handed`). If no other variant had a turn from the build to the end, the program is what the
three commands make of the files one after the other.
-/

set_option autoImplicit false

namespace ReleasePipeline.Proofs

open Execution (invocation perform)
open Rehearsal (World)

section
variable (tools : FileSystem → Invocation → Answer × FileSystem) (config : Config) (world : World)

/-- A race of variants with some tools, after the turns of a schedule. -/
def raceAfter (schedule : List Variant) : Race World :=
  (Race.opening world).play (World.site tools) config schedule

/-- The files after the turns of a schedule. -/
def filesAfter (schedule : List Variant) : FileSystem :=
  (raceAfter tools config world schedule).world.files

/-- What an action does to the files. -/
def actionFiles (files : FileSystem) : StepAction → FileSystem
  | .run command => (tools files (invocation config command)).2
  | .createDir path => (files.createDirs path).2
  | .copy source target => (World.orSame files (files.copy source target)).2

end

section
variable {tools : FileSystem → Invocation → Answer × FileSystem} {config : Config} {world : World}
  {variant : Variant} {schedule : List Variant}

/-- An action leaves the files as `actionFiles` says, whatever else is in the world. -/
theorem files_perform (action : StepAction) (world : World) :
    ((perform (World.site tools) config action).run world).2.files =
      actionFiles tools config world.files action := by
  cases action with
  | run command | createDir path | copy source target => rfl

/-- The lanes of a race are as far as their plans say. -/
theorem sound_raceAfter (schedule : List Variant) (variant : Variant) :
    ((raceAfter tools config world schedule).lanes variant).Sound config variant :=
  Race.sound_play trivial

/-- In a turn of a variant the action of its next step is done, and nothing else happens to the
files. A variant that is done behind it has done the action well. -/
theorem turn_spec {step : PlannedStep} {behind : List PlannedStep}
    (hat : ((raceAfter tools config world schedule).lanes variant).IsAt step behind) :
    ∃ first outcome second, first.files = filesAfter tools config world schedule ∧
      (perform (World.site tools) config step.action).run first = (outcome, second) ∧
      filesAfter tools config world (schedule ++ [variant]) = second.files ∧
      (((raceAfter tools config world (schedule ++ [variant])).lanes variant).isDone = true →
        ∃ success, outcome = .ok success ∧ success.exitCode = some 0) := by
  -- No clock touches a file, so the action finds the files as the turns before it left them.
  have hnow : Moves (fun before after : World => after.files = before.files)
      (World.site tools).now :=
    fun _ => rfl
  have hwatch : Moves (fun before after : World => after.files = before.files)
      (World.site tools).stopwatch := fun _ => rfl
  obtain ⟨first, outcome, second, hfirst, hperform, hafter, hdone⟩ :=
    Lane.move_action hnow hwatch hat (sound_raceAfter schedule variant)
      (raceAfter tools config world schedule).world
  refine ⟨first, outcome, second, hfirst, hperform, ?_, ?_⟩
  · unfold filesAfter raceAfter
    rw [Race.play_concat]
    exact hafter
  · unfold raceAfter
    rw [Race.play_concat, Race.lanes_turn_self]
    exact hdone

/-- A turn of a lane that stands at a step does to the files what the action of the step does. -/
theorem filesAfter_turn {step : PlannedStep} {behind : List PlannedStep}
    (hat : ((raceAfter tools config world schedule).lanes variant).IsAt step behind) :
    filesAfter tools config world (schedule ++ [variant]) =
      actionFiles tools config (filesAfter tools config world schedule) step.action := by
  obtain ⟨first, outcome, second, hfirst, hperform, hafter, -⟩ := turn_spec hat
  rw [hafter, ← hfirst, ← files_perform, hperform]

end

/-! ### The steps at the end of a plan -/

/-- The step that builds the program. -/
def buildStep : PlannedStep :=
  Plan.runStep .build "cargo" ["build", "--release"]

/-- The step that strips the program. -/
def stripStep (config : Config) : PlannedStep :=
  Plan.runStep .strip "strip" [config.buildOutput.text]

/-- The step that compresses the program. -/
def compressStep (config : Config) : PlannedStep :=
  Plan.runStep .compress "upx" ["--best", config.buildOutput.text]

/-- The step that collects the program. -/
def collectStep (config : Config) (variant : Variant) : PlannedStep :=
  ⟨.collect, .copy config.buildOutput (Artifact.ofVariant config variant).path⟩

/-- A lane is at the step that as many others stand behind in its plan. -/
theorem Lane.next_eq {config : Config} {variant : Variant} {lane : Lane} {next : PlannedStep}
    {behind : List PlannedStep} (hat : lane.IsAt next behind) (hsound : lane.Sound config variant) :
    next :: behind = (Plan.ofVariant config variant).drop (10 - (behind.length + 1)) := by
  obtain ⟨progress, results, rfl⟩ := hat
  exact List.suffix_iff_eq_drop.mp hsound.1

section
variable (tools : FileSystem → Invocation → Answer × FileSystem) (config : Config) (world : World)
  (variant : Variant)

/-- The last turn of a variant before some moment of a race, in which it took a step, and the
turns that others had since. -/
structure LastTurn (moment : List Variant) (step : PlannedStep) (behind : List PlannedStep) where
  before : List Variant
  since : List Variant
  split : moment = before ++ [variant] ++ since
  others : variant ∉ since
  isAt : ((raceAfter tools config world before).lanes variant).IsAt step behind

/-- The turns in which a variant has built, stripped, compressed and collected the program. -/
structure OwnTurns (schedule : List Variant) where
  beforeCollect : List Variant
  late : List Variant
  split : schedule = beforeCollect ++ variant :: late
  collect : ((raceAfter tools config world beforeCollect).lanes variant).IsAt
    (collectStep config variant) []
  compress : LastTurn tools config world variant beforeCollect (compressStep config)
    [collectStep config variant]
  strip : LastTurn tools config world variant compress.before (stripStep config)
    [compressStep config, collectStep config variant]
  build : LastTurn tools config world variant strip.before buildStep
    [stripStep config, compressStep config, collectStep config variant]

/-- Where the file at a path has its content from, after turns that were not those of a variant.
It was there before them and was left alone, or another variant has put it there and it was left
alone since. -/
inductive Handed (path : Path) (content : ByteArray) (before since : List Variant) : Prop where
  | kept (all : ∀ front, front <+: since →
      Holds (filesAfter tools config world (before ++ front)) path content)
  | written {front other back} (split : since = front ++ other :: back) (foreign : other ≠ variant)
      (new : ¬ Holds (filesAfter tools config world (before ++ front)) path content)
      (all : ∀ more, more <+: back →
        Holds (filesAfter tools config world (before ++ (front ++ other :: more))) path content)

end

section
variable {tools : FileSystem → Invocation → Answer × FileSystem} {config : Config} {world : World}
  {variant : Variant} {schedule : List Variant}

/-- The content of a file has come from somewhere. -/
theorem handed_of_holds {path : Path} {content : ByteArray} {before since : List Variant}
    (hothers : variant ∉ since)
    (h : Holds (filesAfter tools config world (before ++ since)) path content) :
    Handed tools config world variant path content before since := by
  -- From the last turn backwards: the content was there before it, or it has put it there.
  induction since using List.reverseRecOn with
  | nil =>
      refine .kept fun front hfront => ?_
      rw [List.prefix_nil.mp hfront]
      exact h
  | append_singleton init last ih =>
      rw [List.mem_append, List.mem_singleton, not_or] at hothers
      by_cases hinit : Holds (filesAfter tools config world (before ++ init)) path content
      · cases ih hothers.1 hinit with
        | kept all =>
            refine .kept fun front hfront => ?_
            rcases List.prefix_concat_iff.mp hfront with rfl | hfront
            · exact h
            · exact all front hfront
        | @written front other back split foreign new all =>
            subst split
            refine .written (List.append_assoc _ _ _) foreign new fun more hmore => ?_
            rcases List.prefix_concat_iff.mp hmore with rfl | hmore
            · rw [List.append_assoc] at h
              exact h
            · exact all more hmore
      · -- The last turn has put the content there.
        refine .written rfl (Ne.symm hothers.2) hinit fun more hmore => ?_
        rw [List.prefix_nil.mp hmore]
        exact h

/-- A variant that is about to take a step, but not its first one, has taken the step before. -/
theorem lastTurn_of_isAt (front : List PlannedStep) (step : PlannedStep) {moment : List Variant}
    {next : PlannedStep} {behind : List PlannedStep}
    (hplan : Plan.ofVariant config variant = front ++ step :: next :: behind)
    (hat : ((raceAfter tools config world moment).lanes variant).IsAt next behind) :
    Nonempty (LastTurn tools config world variant moment step (next :: behind)) := by
  have hnotFirst : Plan.ofVariant config variant ≠ next :: behind := by
    intro hfirst
    have hlength := congrArg List.length (hplan.symm.trans hfirst)
    simp only [List.length_append, List.length_cons] at hlength
    omega
  obtain ⟨before, since, taken, hsplit, hothers, htaken⟩ := Race.turn_of_underway hnotFirst hat
  -- The step and what is behind it are an end of the plan, and so is what the lane stood at. The
  -- two are equally long.
  have hnamed : step :: next :: behind =
      (Plan.ofVariant config variant).drop (10 - ((next :: behind).length + 1)) :=
    List.suffix_iff_eq_drop.mp ⟨front, hplan.symm⟩
  cases (Lane.next_eq htaken (sound_raceAfter before variant)).trans hnamed.symm
  exact ⟨before, since, hsplit.trans (List.append_cons _ _ _), hothers, htaken⟩

/-- What a turn has left is still there if nobody else had a turn since. -/
theorem LastTurn.files_of_alone {moment : List Variant} {step : PlannedStep}
    {behind : List PlannedStep} (turn : LastTurn tools config world variant moment step behind)
    (halone : turn.since = []) :
    filesAfter tools config world moment =
      actionFiles tools config (filesAfter tools config world turn.before) step.action := by
  have hsplit := turn.split
  rw [halone, List.append_nil] at hsplit
  exact (congrArg (filesAfter tools config world) hsplit).trans (filesAfter_turn turn.isAt)

/-- What lies at a path has come there in the turn or since. -/
theorem LastTurn.handed {moment : List Variant} {step : PlannedStep} {behind : List PlannedStep}
    (turn : LastTurn tools config world variant moment step behind) {path : Path}
    {content : ByteArray} (h : Holds (filesAfter tools config world moment) path content) :
    Handed tools config world variant path content (turn.before ++ [variant]) turn.since := by
  refine handed_of_holds turn.others ?_
  rw [← turn.split]
  exact h

/-! ### What is collected -/

/-- A variant that is done has taken the last four steps of its plan in turns of its own. The last
one of them went well. -/
theorem ownTurns_of_done
    (hdone : ((raceAfter tools config world schedule).lanes variant).isDone = true) :
    ∃ turns : OwnTurns tools config world variant schedule,
      ((raceAfter tools config world (turns.beforeCollect ++ [variant])).lanes variant).isDone =
        true := by
  obtain ⟨beforeCollect, late, step, hsplit, hat, hend⟩ := Race.turn_of_done hdone
  cases Lane.next_eq hat (sound_raceAfter beforeCollect variant)
  let steps := Plan.ofVariant config variant
  obtain ⟨compress⟩ := lastTurn_of_isAt (steps.take 8) (compressStep config) rfl hat
  obtain ⟨strip⟩ := lastTurn_of_isAt (steps.take 7) (stripStep config) rfl compress.isAt
  obtain ⟨build⟩ := lastTurn_of_isAt (steps.take 6) buildStep rfl strip.isAt
  exact ⟨⟨beforeCollect, late, hsplit, hat, compress, strip, build⟩, hend⟩

/-- A copy that went well was made. -/
theorem copied_of_perform {source target : Path} {first second : World} {success : ActionOutcome}
    (h : (perform (World.site tools) config (.copy source target)).run first =
      (.ok success, second))
    (hcode : success.exitCode = some 0) :
    ∃ size, first.files.copy source target = .ok (size, second.files) := by
  have hrun : (perform (World.site tools) config (.copy source target)).run first =
      let copied := World.orSame first.files (first.files.copy source target)
      (.ok (.ofCopy source target copied.1), { first with files := copied.2 }) := rfl
  -- A copy that is refused has no exit code of success.
  cases hcopy : first.files.copy source target with
  | error error =>
      rw [hcopy] at hrun
      cases hrun.symm.trans h
      cases hcode
  | ok copied =>
      rw [hcopy] at hrun
      cases hrun.symm.trans h
      exact ⟨copied.1, rfl⟩

/-- A variant that collects well takes what lies at the path of the program. -/
theorem holds_collected {moment : List Variant}
    (hat : ((raceAfter tools config world moment).lanes variant).IsAt
      (collectStep config variant) [])
    (hdone : ((raceAfter tools config world (moment ++ [variant])).lanes variant).isDone = true) :
    let from' := (filesAfter tools config world moment).workingDir
    let path := (Artifact.ofVariant config variant).path
    ∃ content, Holds (filesAfter tools config world moment) config.buildOutput content ∧
      Holds (filesAfter tools config world (moment ++ [variant])) path
        (if Path.resolve from' path = Path.resolve from' config.buildOutput then ByteArray.empty
          else content) := by
  intro from' path
  obtain ⟨first, outcome, second, hfirst, hperform, hafter, hwell⟩ := turn_spec hat
  obtain ⟨success, rfl, hcode⟩ := hwell hdone
  obtain ⟨size, hcopy⟩ := copied_of_perform hperform hcode
  obtain ⟨content, hread, htarget⟩ := holds_target_of_copy hcopy
  rw [hfirst] at hread htarget
  rw [hafter]
  exact ⟨content, holds_of_read hread, htarget⟩

/-- What the commands that build, strip and compress the program make of some files. -/
def ownWork (tools : FileSystem → Invocation → Answer × FileSystem) (config : Config)
    (files : FileSystem) : FileSystem :=
  [buildStep, stripStep config, compressStep config].foldl
    (fun files step => actionFiles tools config files step.action) files

/-- What a variant has collected, and where that came from. -/
structure Collects (turns : OwnTurns tools config world variant schedule) (content : ByteArray) :
    Prop where
  found : Holds (filesAfter tools config world turns.beforeCollect) config.buildOutput content
  /-- A program that is collected onto itself is lost. -/
  collected : let from' := (filesAfter tools config world turns.beforeCollect).workingDir
    let path := (Artifact.ofVariant config variant).path
    Holds (filesAfter tools config world (turns.beforeCollect ++ [variant])) path
      (if Path.resolve from' path = Path.resolve from' config.buildOutput then ByteArray.empty
        else content)
  handedToStrip : ∀ built,
    Holds (filesAfter tools config world turns.strip.before) config.buildOutput built →
      Handed tools config world variant config.buildOutput built (turns.build.before ++ [variant])
        turns.build.since
  handedToCompress : ∀ stripped,
    Holds (filesAfter tools config world turns.compress.before) config.buildOutput stripped →
      Handed tools config world variant config.buildOutput stripped
        (turns.strip.before ++ [variant]) turns.strip.since
  handedToCollect : Handed tools config world variant config.buildOutput content
    (turns.compress.before ++ [variant]) turns.compress.since
  alone : turns.build.since = [] → turns.strip.since = [] → turns.compress.since = [] →
    filesAfter tools config world turns.beforeCollect =
      ownWork tools config (filesAfter tools config world turns.build.before)

end

/-- **What a variant collects.** Whatever the tools do and in whichever order the variants have
their turns: a variant that is done has collected what lay at the path of the program when it did
so. What it stripped, compressed and collected there was left by its own turn before, unless
another variant has written it since. -/
theorem collected_content {tools : FileSystem → Invocation → Answer × FileSystem} {config : Config}
    {world : World} {variant : Variant} {schedule : List Variant}
    (hdone : ((raceAfter tools config world schedule).lanes variant).isDone = true) :
    ∃ (turns : OwnTurns tools config world variant schedule) (content : ByteArray),
      Collects turns content := by
  obtain ⟨turns, hend⟩ := ownTurns_of_done hdone
  obtain ⟨content, hfound, hcollected⟩ := holds_collected turns.collect hend
  refine ⟨turns, content, hfound, hcollected, fun _ => turns.build.handed,
    fun _ => turns.strip.handed, turns.compress.handed hfound, fun hbuild hstrip hcompress => ?_⟩
  rw [turns.compress.files_of_alone hcompress, turns.strip.files_of_alone hstrip,
    turns.build.files_of_alone hbuild]
  rfl

/-- A build that adds a mark to the program, beside tools that do nothing. -/
def markingTools (files : FileSystem) (invocation : Invocation) : Answer × FileSystem :=
  let path : Path := ⟨"target/release/seeker"⟩
  let answer := Answer.finished ⟨some 0, "", "", false⟩
  if invocation.command = ⟨"cargo", ["build", "--release"]⟩ then
    match files.write path (((files.read path).toOption.getD ByteArray.empty).push 1) with
    | .ok written => (answer, written)
    | .error _ => (answer, files)
  else (answer, files)

/-- A world with a folder for the program, and no program. -/
def emptyYard : World where
  files := ⟨[], [(["target"], .folder), (["target", "release"], .folder)]⟩
  host := .ofReleases []
  invocations := []
  drawn := 0

/-- The turns of a variant that builds and compresses before another one builds, and collects
after. -/
def overtaken : List Variant :=
  List.replicate 10 .osx ++ (List.replicate 8 .linux ++ [.osx])

/-- The variant that was overtaken is done, and has collected what the other one has built. -/
theorem overtaken_collects_other :
    let config := Config.ofBinary "seeker"
    let files := filesAfter markingTools config emptyYard
    ((raceAfter markingTools config emptyYard overtaken).lanes .osx).isDone = true ∧
    (∃ (turns : OwnTurns markingTools config emptyYard .osx overtaken) (content : ByteArray),
      Collects turns content) ∧
    (files (List.replicate 10 .osx)).read config.buildOutput = .ok ⟨#[1]⟩ ∧
    (files overtaken).read (Artifact.ofVariant config .osx).path = .ok ⟨#[1, 1]⟩ := by
  intro config files
  have hdone : ((raceAfter markingTools config emptyYard overtaken).lanes .osx).isDone = true := by
    decide +kernel
  exact ⟨hdone, collected_content hdone, by decide +kernel, by decide +kernel⟩

end ReleasePipeline.Proofs
