import ReleasePipeline.Cli.Command
import ReleasePipeline.Proofs.Execution.Planned
import ReleasePipeline.Proofs.Hosting.Client
import ReleasePipeline.Proofs.Pipeline.Run

/-!
# `ReleasePipeline.Proofs.Cli.DryRun`: the plan that is shown is the plan that is carried out

One command shows the plans of some variants, another one runs these variants. Each has its own
way to tell which variants are selected. `selectVariants_eq` says that they come to the same: the
shown configuration is `planned`, which is the one that the tasks of a run are given, and a
selection that is refused by one command is refused by the other.

The tasks of a run follow their plans (`run_tasks_follow`), and nothing else in a run invokes a
tool: saving reports makes directories and writes files, and publishing reads files and sends
requests. So the tools that a whole run invokes are those of its tasks, one after the other
(`run_follows`).
-/

set_option autoImplicit false

namespace ReleasePipeline.Proofs

open Cli (CommandError CommandResult RunArgs checkSelection loadConfig planJson printJson publisher?
  runCommand runVariants selectVariants showOutcome)
open Execution (execute)
open Pipeline (selectedVariants)

/-! ### What is selected -/

/-- The configuration of the variants that a selection names. -/
def planned (config : Config) (only : List String) : Config :=
  { config with variants := selectedVariants config only }

/-- A selection is accepted when all that it names is configured. -/
theorem checkSelection_eq_ok {config : Config} {only : List String} :
    checkSelection config only = .ok () ↔
      ∀ os ∈ only, ∃ variant ∈ config.variants, variant.os = os := by
  unfold checkSelection
  cases hfind : only.find? fun os => !config.variants.any (·.os == os) with
  | none => simpa using hfind
  | some unknown =>
      have hmem := List.mem_of_find?_eq_some hfind
      have hunknown := List.find?_some hfind
      simp only [reduceCtorEq, false_iff, not_forall]
      exact ⟨unknown, hmem, by simpa using hunknown⟩

/-- A selection is refused for something in it that is not configured. -/
theorem checkSelection_eq_error {config : Config} {only : List String} {error : CommandError}
    (h : checkSelection config only = .error error) :
    ∃ os ∈ only, (∀ variant ∈ config.variants, variant.os ≠ os) ∧
      error = .unknownVariant os (config.variants.map (·.os)) := by
  unfold checkSelection at h
  cases hfind : only.find? fun os => !config.variants.any (·.os == os) with
  | none =>
      rw [hfind] at h
      cases h
  | some unknown =>
      rw [hfind] at h
      cases h
      exact ⟨unknown, List.mem_of_find?_eq_some hfind, by simpa using List.find?_some hfind, rfl⟩

/-- Both ways to tell which variants are selected come to the same. -/
theorem selectVariants_eq (config : Config) (only : List String) :
    selectVariants config only = (checkSelection config only).map fun _ => planned config only := by
  unfold selectVariants planned
  cases only with
  | nil =>
      rw [selectedVariants_eq (.inl rfl)]
      rfl
  | cons os rest =>
      cases checkSelection config (os :: rest) <;> rfl

/-! ### What the tasks of a run invoke -/

section
variable {σ : Type}

/-- The tools that were invoked in a world where deeds are written down. -/
def invokedIn (logged : Logged (Deed σ) σ) : List Invocation :=
  invocationsOf logged.log

/-- The invocations of a longer log are those of its parts. -/
theorem invokedIn_append (world : σ) (log deeds : List (Deed σ)) :
    invokedIn ⟨world, log ++ deeds⟩ = invocationsOf log ++ invocationsOf deeds :=
  List.filterMap_append

/-- Tasks that are run one after the other follow their plans, and what they invoke comes one
after the other as well. -/
theorem run_tasks_follow (site : Site (StateM σ)) (config : Config) (variants : List Variant)
    (before : Logged (Deed σ) σ) :
    let run := (variants.mapM (execute (loggedSite site) config)).run before
    ∃ tasks : List (TaskEnd × List Invocation), run.1 = tasks.map (·.1) ∧
      invokedIn run.2 = invokedIn before ++ tasks.flatMap (·.2) ∧
      List.Forall₂
        (fun variant task => FollowsPlan config variant task.1 task.2) variants tasks := by
  -- A task begins with the log of those before it, which stays in front.
  induction variants generalizing before with
  | nil => exact ⟨[], rfl, (List.append_nil _).symm, .nil⟩
  | cons variant rest ih =>
      obtain ⟨deeds, hexecute, hfollows⟩ :=
        run_execute_follows site config variant before.world before.log
      obtain ⟨tasks, hends, hinvoked, hall⟩ := ih
        ((execute (loggedSite site) config variant).run before).2
      refine ⟨(_, invocationsOf deeds) :: tasks, ?_, ?_, .cons hfollows hall⟩
      · rw [run_mapM_cons, hends, List.map_cons]
        exact congrArg (·.1 :: tasks.map (·.1)) hexecute
      · rw [run_mapM_cons, hinvoked, List.flatMap_cons, ← List.append_assoc]
        refine congrArg (· ++ tasks.flatMap (·.2)) ?_
        exact (congrArg (invokedIn ·.2) hexecute).trans (invokedIn_append _ _ _)

end

section
variable {config : Config}

/-- A report follows the plan if the end of its task does. A task that broke down is not reported as
done. -/
theorem FollowsPlan.reportTask {variant : Variant} {result : TaskEnd} {invoked : List Invocation}
    (h : FollowsPlan config variant result invoked) {τ : Type} (now : StateM τ Instant)
    (newRunId : StateM τ RunId) (number : Nat) (world : τ) :
    FollowsPlan config variant
      (.ok ((reportTask now newRunId number variant result).run world).1) invoked := by
  cases result with
  | ok report => exact h
  | error message =>
      refine ⟨?_, h.begun, ?_⟩
      · rintro report ⟨⟩
        rfl
      · rintro report ⟨⟩ hdone
        cases hdone

/-- The reports of tasks that follow their plans follow them. -/
theorem collect_follows {variants : List Variant} {tasks : List (TaskEnd × List Invocation)}
    (h : List.Forall₂ (fun variant task => FollowsPlan config variant task.1 task.2) variants tasks)
    {τ : Type} (now : StateM τ Instant) (newRunId : StateM τ RunId) (number : Nat) (world : τ) :
    ∃ reported : List (VariantReport × List Invocation),
      ((collect now newRunId number variants (tasks.map (·.1))).run world).1 =
        reported.map (·.1) ∧
      tasks.flatMap (·.2) = reported.flatMap (·.2) ∧
      List.Forall₂ (fun variant report => FollowsPlan config variant (.ok report.1) report.2)
        variants reported := by
  induction h generalizing number world with
  | nil => exact ⟨[], rfl, rfl, .nil⟩
  | @cons variant task variants tasks hfirst _ ih =>
      obtain ⟨report, second, hreport⟩ : ∃ report second,
          (reportTask now newRunId number variant task.1).run world = (report, second) :=
        ⟨_, _, rfl⟩
      obtain ⟨reported, hcollect, hinvoked, hall⟩ := ih (number + 1) second
      -- The report of a task that crashed is made up here, and nothing is invoked for it.
      have hfollows := hfirst.reportTask now newRunId number world
      rw [hreport] at hfollows
      refine ⟨(report, task.2) :: reported, ?_, ?_, .cons hfollows hall⟩
      · rw [List.map_cons, collect, run_bind_of hreport, run_bind, hcollect]
        rfl
      · rw [List.flatMap_cons, List.flatMap_cons, hinvoked]

end

/-! ### What else a run does -/

section
variable {σ : Type} (site : Site (StateM σ)) (transport : Http.Transport (StateM σ))

/-- A transport in a world where deeds are written down. Sending a request is none. -/
def quietTransport : Http.Transport (StateM (Logged (Deed σ) σ)) where
  send request := unlogged (transport.send request)

/-- Making a directory invokes no tool. -/
theorem keeps_invoked_createDirs (path : Path) :
    Keeps invokedIn ((loggedSite site).createDirs path) := by
  rintro ⟨world, log⟩
  show invokedIn ⟨_, log ++ [_]⟩ = invokedIn ⟨world, log⟩
  rw [invokedIn_append]
  exact List.append_nil _

/-- What is not written down invokes no tool. -/
theorem keeps_invoked_unlogged {α : Type} (action : StateM σ α) :
    Keeps invokedIn (unlogged action : StateM (Logged (Deed σ) σ) α) :=
  fun _ => rfl

/-- Publishing invokes no tool. -/
theorem keeps_invoked_publisher (config : Config)
    (publisher : Publisher (StateM (Logged (Deed σ) σ)))
    (h : publisher ∈ publisher? (loggedSite site) (quietTransport transport) config)
    (descriptor : ReleaseDescriptor) (artifacts : List Artifact) :
    Keeps invokedIn (publisher.publish descriptor artifacts) := by
  unfold publisher? at h
  cases hvalid : config.validateForPublish with
  | error error =>
      rw [hvalid] at h
      cases h
  | ok found =>
      rw [hvalid] at h
      cases h
      -- To keep the invoked tools is to move along a preorder, and sending and reading both do.
      refine moves_publish
        (R := fun before after : Logged (Deed σ) σ => invokedIn after = invokedIn before)
        (hostMoves_client ?_ _) ?_ descriptor artifacts
      · intro request
        exact keeps_invoked_unlogged (transport.send request)
      · intro path
        exact keeps_invoked_unlogged (site.read path)

/-- The pipeline that the command line runs. -/
def commandPipeline {m : Type → Type} [Monad m] (site : Site m) (transport : Http.Transport m)
    (config : Config) (args : RunArgs) : Pipeline m where
  config := config
  selection := args.only
  deferPublish := args.noPublish
  cap := args.jobs
  publisher := if args.noPublish then none else publisher? site transport config
  clock := site.now

/-- Ending a run invokes no tool. -/
theorem keeps_invoked_finish (config : Config) (args : RunArgs) (trigger : Trigger)
    (reports : List VariantReport) (defer : Bool) :
    Keeps invokedIn
      ((commandPipeline (loggedSite site) (quietTransport transport) config args).finish
        trigger reports defer) := by
  refine moves_end (R := fun before after : Logged (Deed σ) σ => invokedIn after = invokedIn before)
    (keeps_invoked_unlogged site.now) ?_
  intro publisher hpublisher descriptor artifacts
  unfold commandPipeline at hpublisher
  cases hnone : args.noPublish with
  | true => simp [hnone] at hpublisher
  | false =>
      simp only [hnone, Bool.false_eq_true, if_false] at hpublisher
      exact keeps_invoked_publisher site transport config publisher hpublisher descriptor artifacts

/-- How the outcome of a run and the tools that it invoked go together with the plans of the
variants. -/
def RunFollows (config : Config) (outcome : PipelineOutcome) (invoked : List Invocation) : Prop :=
  ∃ reported : List (VariantReport × List Invocation),
    outcome.variants = reported.map (·.1) ∧ invoked = reported.flatMap (·.2) ∧
    List.Forall₂ (fun variant report => FollowsPlan config variant (.ok report.1) report.2)
      config.variants reported

/-- The tools that a run invokes are those of its tasks. -/
theorem run_follows (config : Config) (args : RunArgs) (trigger : Trigger)
    (htag : trigger.tagBlank = true)
    (hplaces : ¬ maxPlaces < places args.jobs (planned config args.only).variants.length)
    (world : σ) :
    ∃ outcome after,
      ((commandPipeline (loggedSite site) (quietTransport transport) config args).run
        (loggedSite site) (execute (loggedSite site)) trigger).run ⟨world, []⟩ =
          (.ok outcome, after) ∧
      RunFollows (planned config args.only) outcome (invokedIn after) := by
  let logged := loggedSite site
  let selected := (planned config args.only).variants
  let start : Logged (Deed σ) σ := ⟨world, []⟩
  let pipeline := commandPipeline logged (quietTransport transport) config args
  let defer := decide (selected.length < config.variants.length) || args.noPublish
  obtain ⟨ends, ran, hran⟩ : ∃ ends ran,
      (selected.mapM (execute logged (planned config args.only))).run start = (ends, ran) :=
    ⟨_, _, rfl⟩
  obtain ⟨reports, collected, hcollect⟩ : ∃ reports collected,
      (collect logged.now logged.newRunId 1 selected ends).run ran = (reports, collected) :=
    ⟨_, _, rfl⟩
  obtain ⟨recorded, hrecord⟩ : ∃ recorded,
      (Pipeline.record logged config trigger.commit reports).run collected = ((), recorded) :=
    ⟨_, rfl⟩
  obtain ⟨outcome, ended, hfinish⟩ : ∃ outcome ended,
      (pipeline.finish trigger reports defer).run recorded = (outcome, ended) := ⟨_, _, rfl⟩
  -- The run is its tasks, the reports on them, the saving of these, and the end.
  have hrun : (pipeline.run logged (execute logged) trigger).run start = (.ok outcome, ended) := by
    unfold Pipeline.run Gate.isEnabled
    rw [htag, if_pos rfl]
    exact (run_ite_of_not hplaces _ _ start).trans ((run_bind_of ((run_bind_of hran _).trans
      hcollect) _).trans ((run_bind_of hrecord _).trans (run_bind_of hfinish _)))
  obtain ⟨tasks, hends, hinvoked, htasks⟩ :=
    run_tasks_follow site (planned config args.only) selected start
  obtain ⟨reported, hreports, hflat, hall⟩ :=
    collect_follows htasks logged.now logged.newRunId 1 ran
  rw [hran] at hends hinvoked
  rw [← hends, hcollect] at hreports
  refine ⟨outcome, ended, hrun, reported, ?_, ?_, hall⟩
  · have hvariants : ((pipeline.finish trigger reports defer).run recorded).1.variants = reports :=
      variants_end recorded
    rw [hfinish] at hvariants
    exact hvariants.trans hreports
  · -- Only the tasks invoke tools.
    have hcollected : invokedIn collected = invokedIn ran :=
      (moves_collect (keeps_invoked_unlogged site.now).moves
        (keeps_invoked_unlogged site.newRunId).moves 1 selected ends).of_run hcollect
    have hrecorded : invokedIn recorded = invokedIn collected :=
      (moves_record (fun path => (keeps_invoked_createDirs site path).moves)
        (fun path content => (keeps_invoked_unlogged (site.write path content)).moves) config
        trigger.commit reports).of_run hrecord
    have hended : invokedIn ended = invokedIn recorded :=
      (keeps_invoked_finish site transport config args trigger reports defer).moves.of_run hfinish
    rw [hended, hrecorded, hcollected, ← hflat]
    exact hinvoked

/-- The run of a command ends on an outcome, and the tools that it invoked are those of its tasks. A
tagged trigger runs nothing, and neither does a run that asks for too many places. -/
theorem runVariants_follows (color : Bool) (config : Config) (args : RunArgs) (world : σ) :
    let asked := places args.jobs (planned config args.only).variants.length
    let run := (runVariants (loggedSite site) (quietTransport transport) color config args).run
      ⟨world, []⟩
    if args.push.trigger.tagBlank = false then
      run = (.ok (showOutcome color args.json .skippedByGate), ⟨world, []⟩)
    else if maxPlaces < asked then run = (.error (.tooManyPlaces asked), ⟨world, []⟩)
    else
      ∃ outcome, run.1 = .ok (showOutcome color args.json outcome) ∧
        RunFollows (planned config args.only) outcome (invokedIn run.2) := by
  intro asked run
  let start : Logged (Deed σ) σ := ⟨world, []⟩
  let command := (commandPipeline (loggedSite site) (quietTransport transport) config args).run
    (loggedSite site) (execute (loggedSite site)) args.push.trigger
  have hrun {ended : Except RunError PipelineOutcome} {after : Logged (Deed σ) σ}
      (h : command.run start = (ended, after)) :
      run = (ended.map (showOutcome color args.json), after) :=
    run_bind_of h _
  -- Two gates stand in front of the tasks: the tag, and the number of places.
  split
  next htag =>
    have hcommand : command.run start = (.ok .skippedByGate, start) := by
      unfold command Pipeline.run Gate.isEnabled
      rw [htag]
      rfl
    exact hrun hcommand
  next htag =>
    have htag : args.push.trigger.tagBlank = true := by simpa using htag
    split
    next hplaces =>
      have hcommand : command.run start = (.error (.tooManyPlaces asked), start) := by
        unfold command Pipeline.run Gate.isEnabled
        rw [htag, if_pos rfl]
        exact run_ite_of hplaces _ _ start
      exact hrun hcommand
    next hplaces =>
      obtain ⟨outcome, after, hcommand, hfollows⟩ :=
        run_follows site transport config args args.push.trigger htag hplaces world
      rw [hrun hcommand]
      exact ⟨outcome, rfl, hfollows⟩

end

/-! ### Both commands -/

section
variable {m : Type → Type} [Monad m] (site : Site m) (transport : Http.Transport m)
  {env : String → Option String} {config : Config} (color : Bool)

/-- What is shown of the plans of a configuration. -/
def planShown (color json : Bool) (config : Config) : CommandResult :=
  ⟨if json then printJson (.arr (config.variants.map (planJson config)))
    else Console.plansText color config, 0⟩

/-- The plans are shown of the variants that a selection names, if it is accepted. -/
theorem runCommand_plan (hload : loadConfig env = .ok config) (only : List String) (json : Bool) :
    runCommand site transport env color (.plan only json) =
      pure (.ok ((checkSelection config only).map fun _ => planShown color json
        (planned config only))) := by
  unfold runCommand Cli.showPlan
  rw [hload]
  show pure (Except.ok (selectVariants config only >>= _)) = _
  rw [selectVariants_eq]
  cases checkSelection config only with
  | error error => rfl
  | ok _ => cases json <;> rfl

/-- Variants are run once the selection is accepted. -/
theorem runCommand_run (hload : loadConfig env = .ok config) (args : RunArgs) :
    runCommand site transport env color (.run args) =
      match checkSelection config args.only with
      | .error error => pure (.ok (.error error))
      | .ok () => runVariants site transport color config args >>= fun result =>
        pure (result.map .ok) := by
  unfold runCommand
  rw [hload]
  cases hcheck : checkSelection config args.only <;>
    simp [hcheck, bind, Except.bind, pure, Except.pure]

end

/-- **The plan that is shown is the plan that is carried out.** Take any configuration and any
selection. If the selection names a variant that is not configured, the command that shows plans
and the one that runs variants refuse it with the same error, and do nothing else. Any other
selection comes to the same variants, in the order of the configuration, for both commands. One
shows the plans of these variants. The other one runs them, and the tools that it invokes are,
variant by variant, the first ones of the commands in the plan, and all of them where the variant
is reported as done. This is also so for the run of any single variant, in any world and whatever
the tools and the file system answer. -/
theorem dry_run_agrees (config : Config) (only : List String) :
    match checkSelection config only with
    | .error error =>
      (∃ os ∈ only, (∀ variant ∈ config.variants, variant.os ≠ os) ∧
        error = .unknownVariant os (config.variants.map (·.os))) ∧
      ∀ {m : Type → Type} [Monad m] (site : Site m) (transport : Http.Transport m)
        (env : String → Option String) (color json : Bool) (args : RunArgs),
        loadConfig env = .ok config → args.only = only →
        runCommand site transport env color (.plan only json) = pure (.ok (.error error)) ∧
        runCommand site transport env color (.run args) = pure (.ok (.error error))
    | .ok () =>
      (∀ os ∈ only, ∃ variant ∈ config.variants, variant.os = os) ∧
      selectVariants config only = .ok (planned config only) ∧
      (∀ {m : Type → Type} [Monad m] (site : Site m) (transport : Http.Transport m)
        (env : String → Option String) (color json : Bool) (args : RunArgs),
        loadConfig env = .ok config → args.only = only →
        runCommand site transport env color (.plan only json) =
          pure (.ok (.ok (planShown color json (planned config only)))) ∧
        runCommand site transport env color (.run args) =
          runVariants site transport color config args >>= fun result => pure (result.map .ok)) ∧
      (∀ {σ : Type} (site : Site (StateM σ)) (transport : Http.Transport (StateM σ)) (color : Bool)
        (args : RunArgs) (world : σ), args.only = only →
        let asked := places args.jobs (planned config only).variants.length
        let run := (runVariants (loggedSite site) (quietTransport transport) color config args).run
          ⟨world, []⟩
        if args.push.trigger.tagBlank = false then
          run = (.ok (showOutcome color args.json .skippedByGate), ⟨world, []⟩)
        else if maxPlaces < asked then run = (.error (.tooManyPlaces asked), ⟨world, []⟩)
        else
          ∃ outcome, run.1 = .ok (showOutcome color args.json outcome) ∧
            RunFollows (planned config only) outcome (invokedIn run.2)) ∧
      ∀ {σ : Type} (site : Site (StateM σ)) (variant : Variant) (world : σ),
        let run := (execute site (planned config only) variant).run world
        ∃ deeds, (execute (loggedSite site) (planned config only) variant).run ⟨world, []⟩ =
            (run.1, ⟨run.2, deeds⟩) ∧
          FollowsPlan (planned config only) variant run.1 (invocationsOf deeds) := by
  cases hcheck : checkSelection config only with
  | error error =>
      -- Both commands check the selection before they do anything else.
      refine ⟨checkSelection_eq_error hcheck, ?_⟩
      intro m _ site transport env color json args hload honly
      rw [runCommand_plan site transport color hload, runCommand_run site transport color hload,
        honly, hcheck]
      exact ⟨rfl, rfl⟩
  | ok _ =>
      refine ⟨checkSelection_eq_ok.mp hcheck, ?_, ?_, ?_, ?_⟩
      · rw [selectVariants_eq, hcheck]
        rfl
      · intro m _ site transport env color json args hload honly
        rw [runCommand_plan site transport color hload, runCommand_run site transport color hload,
          honly, hcheck]
        exact ⟨rfl, rfl⟩
      · intro σ site transport color args world honly
        rw [← honly]
        exact runVariants_follows site transport color config args world
      · intro σ site variant world
        exact run_execute_follows site (planned config only) variant world []

end ReleasePipeline.Proofs
