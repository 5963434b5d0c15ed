import ReleasePipeline.Proofs.Execution.Shape

/-!
# `ReleasePipeline.Proofs.Execution.Planned`: a variant run does what was planned

The plan of a variant can be shown without carrying it out. `plannedInvocations` are the commands
in it, each under the conditions that the configuration sets. The tools that a run of the variant
invokes are the first ones of these, as far as the run came, and all of them if it ended as done:
`FollowsPlan`.

This rests on `Walked.invocations`: the acts of a walk invoke the commands of the steps that were
taken. It is an induction over the walk, whatever its end.
-/

set_option autoImplicit false

namespace ReleasePipeline.Proofs

open Execution (invocation execute)

/-- The tool that an act invokes, if it invokes one. -/
def Act.invocation? : Act → Option Invocation
  | .invoke invocation _ => some invocation
  | _ => none

/-- The tools that were invoked, in their order. -/
def invocationsOf {σ : Type} (deeds : List (Deed σ)) : List Invocation :=
  deeds.filterMap (·.act.invocation?)

/-- The commands in the plan of a variant: each is to be run in the source directory, with the
variables that are passed on, and within the time of a step. -/
def plannedInvocations (config : Config) (variant : Variant) : List Invocation :=
  ((Plan.ofVariant config variant).filterMap (·.action.command?)).map fun command =>
    ⟨command, config.sourceDir, config.passthroughEnv, config.stepTimeoutSeconds⟩

/-- How what was invoked in the run of a variant goes together with its plan and its end. -/
structure FollowsPlan (config : Config) (variant : Variant) (result : Except Crash VariantReport)
    (invoked : List Invocation) : Prop where
  subject : ∀ report, result = .ok report → report.variant = variant
  begun : invoked <+: plannedInvocations config variant
  whole : ∀ report, result = .ok report → report.stage = .done →
    invoked = plannedInvocations config variant

section
variable {config : Config}

/-- An attempt at a step invokes its command, if it has one, and nothing else. -/
theorem Attempted.invocation?_eq {step : PlannedStep} {act : Act} {result : Except Crash StepResult}
    (h : Attempted config step act result) :
    act.invocation? = step.action.command?.map (invocation config) := by
  have performed {action : StepAction} {outcome : Except Crash ActionOutcome}
      (h : Performed config action act outcome) :
      act.invocation? = action.command?.map (invocation config) := by
    cases h <;> rfl
  cases h with
  | crashed h => exact performed h
  | ended h _ => exact performed h

/-- A walk invokes the commands of the steps that were taken, in their order. -/
theorem Walked.invocations {steps : List PlannedStep} {acts : List Act}
    {ended : Except Crash (List StepResult × Bool)} (h : Walked config steps acts ended) :
    acts.filterMap Act.invocation? =
      ((steps.take acts.length).filterMap (·.action.command?)).map (invocation config) := by
  -- However a walk goes on, its first attempt is put in front of the rest.
  have hcons {step : PlannedStep} {taken : List PlannedStep} {act : Act} {others : List Act}
      {result : Except Crash StepResult} (attempt : Attempted config step act result)
      (hothers : others.filterMap Act.invocation? =
        (taken.filterMap (·.action.command?)).map (invocation config)) :
      (act :: others).filterMap Act.invocation? =
        ((step :: taken).filterMap (·.action.command?)).map (invocation config) := by
    rw [List.filterMap_cons, List.filterMap_cons, attempt.invocation?_eq]
    cases step.action.command? with
    | none => exact hothers
    | some command => exact congrArg (invocation config command :: ·) hothers
  induction h with
  | finished => rfl
  | crashed attempt => exact hcons attempt rfl
  | stopped attempt _ => exact hcons attempt rfl
  | next attempt _ _ ih => exact hcons attempt ih

/-- The run of a variant follows its plan, whatever the tools and the file system answer. -/
theorem run_execute_follows {σ : Type} (site : Site (StateM σ)) (config : Config)
    (variant : Variant) (world : σ) (log : List (Deed σ)) :
    let run := (execute site config variant).run world
    ∃ deeds, (execute (loggedSite site) config variant).run ⟨world, log⟩ =
        (run.1, ⟨run.2, log ++ deeds⟩) ∧
      FollowsPlan config variant run.1 (invocationsOf deeds) := by
  intro run
  obtain ⟨deeds, ended, hexecute, hwalked, hreport⟩ :=
    run_execute_coherent site config variant world log
  have hinvoked : invocationsOf deeds =
      (((Plan.ofVariant config variant).take deeds.length).filterMap (·.action.command?)).map
        (invocation config) := by
    have hall := hwalked.invocations
    rw [List.filterMap_map, List.length_map] at hall
    exact hall
  have hcoherent : ∀ report, run.1 = .ok report →
      Coherent config variant (deeds.map (·.act)) report := by
    intro report hrun
    rw [show ((execute site config variant).run world).1 = .ok report from hrun] at hreport
    exact hreport
  refine ⟨deeds, hexecute, fun report hrun => (hcoherent report hrun).subject, ?_, ?_⟩
  · rw [hinvoked]
    exact ((List.take_prefix _ _).filterMap _).map _
  · intro report hrun hdone
    have hlength := (hcoherent report hrun).length
    have hkinds := ((hcoherent report hrun).done.mp hdone).1
    -- All ten steps were taken, so there is nothing left of the plan.
    have hten : report.steps.length = 10 := by
      rw [← List.length_map, hkinds]
      rfl
    rw [List.length_map, hten] at hlength
    rw [hinvoked, hlength]
    rfl

end

end ReleasePipeline.Proofs
