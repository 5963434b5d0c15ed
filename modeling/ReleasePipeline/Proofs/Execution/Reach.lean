import ReleasePipeline.Proofs.Execution.Deeds

/-!
# `ReleasePipeline.Proofs.Execution.Reach`: where a variant run leads

What a variant run does to the world comes from its actions, from the clocks and from the
identifier that it draws. So whatever preorder holds of these from one world to the next holds of
a step as well (`moves_runStep`). A run that ended in success completed all steps of its plan, so
there was a moment at which the action of the last one was done, and it was done well
(`execute_succeeded`). Such a moment is found by going along the plan, which is
`runSteps_completed_concat`. A run that left no artifact did not come that far, so what the last
step does where it succeeds does not matter (`execute_stopped`).
-/

set_option autoImplicit false

namespace ReleasePipeline.Proofs

open Execution (perform runStep noteNow beginStep completeStep failStep runSteps execute)

/-! ### A step that succeeded -/

section
variable {σ : Type} {R : σ → σ → Prop} {site : Site (StateM σ)} {config : Config} {world after : σ}

/-- A step that succeeded did its action, between two looks at the stopwatch. -/
theorem runStep_succeeded (hwatch : Moves R site.stopwatch) {step : PlannedStep}
    {result : StepResult} (hrun : (runStep site config step).run world = (.ok result, after))
    (hsucceeded : result.succeeded = true) :
    ∃ first outcome second, R world first ∧
      (perform site config step.action).run first = (.ok outcome, second) ∧
      outcome.exitCode = some 0 ∧ R second after := by
  obtain ⟨started, first, hstarted⟩ : ∃ started first,
      site.stopwatch.run world = (started, first) := ⟨_, _, rfl⟩
  obtain ⟨outcome, second, hperform⟩ : ∃ outcome second,
      (perform site config step.action).run first = (outcome, second) := ⟨_, _, rfl⟩
  have hstep : (runStep site config step).run world = _ :=
    (run_bind_of hstarted _).trans (run_bind_of hperform _)
  cases outcome with
  | error message => cases hstep.symm.trans hrun
  | ok outcome =>
      cases hstep.symm.trans hrun
      refine ⟨first, outcome, second, hwatch.of_run hstarted, hperform, ?_, hwatch second⟩
      simpa [StepResult.succeeded] using (Bool.and_eq_true_iff.mp hsucceeded).2

/-! ### Where a run leads -/

variable [IsPreorder σ R]

/-- Noting a line leads where the clock does. -/
theorem moves_noteNow (hnow : Moves R site.now) (level : LogLevel) (message : String)
    (progress : Progress) : Moves R (noteNow site level message progress) :=
  hnow.bind fun _ => moves_pure _

/-- So does noting an output, line by line. -/
theorem moves_noteOutput (hnow : Moves R site.now) (level : LogLevel) (output : String)
    (progress : Progress) : Moves R (progress.noteOutput site.now level output) := by
  refine (moves_mapM ?_).bind fun _ => moves_pure _
  intro line _
  exact hnow.bind fun _ => moves_pure _

/-- So does beginning a step, which notes one line. -/
theorem moves_beginStep (hnow : Moves R site.now) (kind : StepKind) (progress : Progress) :
    Moves R (beginStep site kind progress) :=
  moves_noteNow hnow _ _ _

/-- So does the end of a step that succeeded. -/
theorem moves_completeStep (hnow : Moves R site.now) (result : StepResult) (progress : Progress) :
    Moves R (completeStep site result progress) :=
  (moves_noteOutput hnow _ _ _).bind fun _ => moves_noteNow hnow _ _ _

/-- So does the end of a step that failed. -/
theorem moves_failStep (hnow : Moves R site.now) (result : StepResult) (progress : Progress) :
    Moves R (failStep site result progress) :=
  (moves_noteNow hnow _ _ _).bind fun _ => (moves_noteOutput hnow _ _ _).bind fun _ => moves_pure _

/-- A step leads where its action does. -/
theorem moves_runStep (hwatch : Moves R site.stopwatch) {step : PlannedStep}
    (haction : Moves R (perform site config step.action)) : Moves R (runStep site config step) := by
  refine hwatch.bind fun started => haction.bind fun outcome => ?_
  cases outcome with
  | error message => exact moves_pure _
  | ok outcome => exact hwatch.bind fun _ => moves_pure _

/-! ### A run that succeeded -/

/-- Where all steps of a plan were completed, the first one succeeded, and the others were completed
behind it. -/
theorem runSteps_completed (hnow : Moves R site.now) {step : PlannedStep} {rest : List PlannedStep}
    {progress : Progress} {walk : Execution.Walk}
    (hrun : (runSteps site config (step :: rest) progress).run world = (.ok walk, after))
    (hcompleted : walk.completed = true) :
    ∃ first result second noted third others, R world first ∧
      (runStep site config step).run first = (.ok result, second) ∧ result.succeeded = true ∧
      R second third ∧ (runSteps site config rest noted).run third = (.ok others, after) ∧
      others.completed = true := by
  obtain ⟨begun, first, hbegin⟩ : ∃ begun first,
      (beginStep site step.kind progress).run world = (begun, first) := ⟨_, _, rfl⟩
  obtain ⟨result, second, hstep⟩ : ∃ result second,
      (runStep site config step).run first = (result, second) := ⟨_, _, rfl⟩
  cases result with
  | error message => cases (run_runSteps_crashed hbegin hstep).symm.trans hrun
  | ok result =>
      cases hsucceeded : result.succeeded with
      | false =>
          -- A walk that was stopped is not completed.
          cases (run_runSteps_stopped hbegin hstep hsucceeded rfl).symm.trans hrun
          cases hcompleted
      | true =>
          obtain ⟨noted, third, hnotes⟩ : ∃ noted third,
              (completeStep site result begun).run second = (noted, third) := ⟨_, _, rfl⟩
          obtain ⟨ended, last, hrest⟩ : ∃ ended last,
              (runSteps site config rest noted).run third = (ended, last) := ⟨_, _, rfl⟩
          have hall := (run_runSteps_next hbegin hstep hsucceeded hnotes hrest).symm.trans hrun
          cases ended with
          | error message => cases hall
          | ok others =>
              cases hall
              exact ⟨first, result, second, noted, third, others,
                (moves_beginStep hnow _ _).of_run hbegin, hstep, hsucceeded,
                (moves_completeStep hnow _ _).of_run hnotes, hrest, hcompleted⟩

section
variable {N : σ → σ → Prop} [IsPreorder σ N]
  (hmono : ∀ before after, N before after → R before after)
include hmono

/-- Where all steps of a plan were completed, the last one did its action, behind what the others
did and in front of what was noted in the end. -/
theorem runSteps_completed_concat (hnow : Moves N site.now) (hwatch : Moves N site.stopwatch)
    {front : List PlannedStep} {last : PlannedStep}
    (hfront : ∀ step ∈ front, Moves R (perform site config step.action)) {progress : Progress}
    {walk : Execution.Walk}
    (hrun : (runSteps site config (front ++ [last]) progress).run world = (.ok walk, after))
    (hcompleted : walk.completed = true) :
    ∃ first outcome second, R world first ∧
      (perform site config last.action).run first = (.ok outcome, second) ∧
      outcome.exitCode = some 0 ∧ N second after := by
  induction front generalizing progress walk world with
  | nil =>
      obtain ⟨first, result, second, noted, third, others, hbegin, hstep, hsucceeded, hnotes, hrest,
        -⟩ := runSteps_completed hnow hrun hcompleted
      obtain ⟨begun, outcome, done, hstarted, hperform, hcode, hstopped⟩ :=
        runStep_succeeded hwatch hstep hsucceeded
      cases hrest
      exact ⟨begun, outcome, done, hmono _ _ (trans_of N hbegin hstarted), hperform, hcode,
        trans_of N hstopped hnotes⟩
  | cons step rest ih =>
      obtain ⟨hone, hothers⟩ := List.forall_mem_cons.mp hfront
      obtain ⟨first, result, second, noted, third, others, hbegin, hstep, -, hnotes, hrest,
        hcompleted⟩ := runSteps_completed hnow hrun hcompleted
      obtain ⟨begun, outcome, done, hreached, hperform⟩ := ih hothers hrest hcompleted
      -- What the first step did comes in front of what the others did.
      have hwatched : Moves R site.stopwatch := fun world => hmono _ _ (hwatch world)
      have hfirst : R world third := trans_of R (hmono _ _ hbegin)
        (trans_of R ((moves_runStep hwatched hone).of_run hstep) (hmono _ _ hnotes))
      exact ⟨begun, outcome, done, trans_of R hfirst hreached, hperform⟩

/-- A run that ended in success did the action of its last step, behind what the others did and in
front of what was noted in the end. -/
theorem execute_succeeded (hnow : Moves N site.now) (hwatch : Moves N site.stopwatch)
    (hrunId : Moves R site.newRunId) {variant : Variant} {front : List PlannedStep}
    {last : PlannedStep} (hplan : Plan.ofVariant config variant = front ++ [last])
    (hfront : ∀ step ∈ front, Moves R (perform site config step.action)) {report : VariantReport}
    (hrun : (execute site config variant).run world = (.ok report, after))
    (hsucceeded : report.succeeded = true) :
    ∃ first outcome second, R world first ∧
      (perform site config last.action).run first = (.ok outcome, second) ∧
      outcome.exitCode = some 0 ∧ N second after := by
  obtain ⟨runId, named, hname⟩ : ∃ runId named,
      site.newRunId.run world = (runId, named) := ⟨_, _, rfl⟩
  obtain ⟨progress, started, hstart⟩ : ∃ progress started,
      (noteNow site .info ("Starting variant: " ++ variant.text)
        (Progress.start runId variant.os)).run named = (progress, started) := ⟨_, _, rfl⟩
  obtain ⟨ended, walked, hsteps⟩ : ∃ ended walked,
      (runSteps site config (front ++ [last]) progress).run started = (ended, walked) := ⟨_, _, rfl⟩
  have hplanned := hsteps
  rw [← hplan] at hplanned
  have hexecute : (execute site config variant).run world = _ :=
    (run_bind_of hname _).trans ((run_bind_of hstart _).trans (run_bind_of hplanned _))
  cases ended with
  | error message => cases hexecute.symm.trans hrun
  | ok walk =>
      cases hcompleted : walk.completed with
      | false =>
          -- The report of a walk that was stopped has no artifact.
          have hnot : ¬ walk.completed = true := by simp [hcompleted]
          cases (hexecute.trans (run_ite_of_not hnot _ _ _)).symm.trans hrun
          simp [VariantReport.succeeded, Execution.report] at hsucceeded
      | true =>
          have hended := (hexecute.trans (run_ite_of hcompleted _ _ _)).symm.trans hrun
          cases hended
          obtain ⟨first, outcome, second, hreached, hperform, hcode, hlast⟩ :=
            runSteps_completed_concat hmono hnow hwatch hfront hsteps hcompleted
          have hfirst : R world first := trans_of R (hrunId.of_run hname)
            (trans_of R (hmono _ _ ((moves_noteNow hnow _ _ _).of_run hstart)) hreached)
          exact ⟨first, outcome, second, hfirst, hperform, hcode,
            trans_of N hlast (hnow walked)⟩

end

/-! ### A run that was stopped -/

/-- A step that does not succeed leads from a world to one that stands in a relation to it. -/
def FailsTo (R : σ → σ → Prop) (site : Site (StateM σ)) (config : Config)
    (step : PlannedStep) : Prop :=
  ∀ world result after, (runStep site config step).run world = (result, after) →
    (∀ left, result = .ok left → left.succeeded = false) → R world after

/-- A step whose action leads somewhere in any case leads there when it fails. -/
theorem failsTo_of_moves (hwatch : Moves R site.stopwatch) {step : PlannedStep}
    (haction : Moves R (perform site config step.action)) : FailsTo R site config step :=
  fun _ _ _ hrun _ => (moves_runStep hwatch haction).of_run hrun

/-- A step fails to where its action leads without success. -/
theorem failsTo_of_perform (hwatch : Moves R site.stopwatch) {step : PlannedStep}
    (haction : ∀ world outcome after,
      (perform site config step.action).run world = (outcome, after) →
        (∀ left, outcome = .ok left → (!left.timedOut && left.exitCode == some 0) = false) →
          R world after) : FailsTo R site config step := by
  intro world result after hrun hfailed
  obtain ⟨started, first, hstarted⟩ : ∃ started first,
      site.stopwatch.run world = (started, first) := ⟨_, _, rfl⟩
  obtain ⟨outcome, second, hperform⟩ : ∃ outcome second,
      (perform site config step.action).run first = (outcome, second) := ⟨_, _, rfl⟩
  have hstep : (runStep site config step).run world = _ :=
    (run_bind_of hstarted _).trans (run_bind_of hperform _)
  cases outcome with
  | error message =>
      cases hstep.symm.trans hrun
      exact trans_of R (hwatch.of_run hstarted) (haction _ _ _ hperform nofun)
  | ok outcome =>
      cases hstep.symm.trans hrun
      have hacted : R first second := by
        refine haction _ _ _ hperform ?_
        rintro _ ⟨⟩
        exact hfailed _ rfl
      exact trans_of R (hwatch.of_run hstarted) (trans_of R hacted (hwatch second))

/-- Where the steps of a plan were not all completed, either the first one did not succeed, or the
others were not all completed behind it. -/
theorem runSteps_stopped (hnow : Moves R site.now) {step : PlannedStep} {rest : List PlannedStep}
    (hstep : FailsTo R site config step) {progress : Progress} {ended : Except Crash Execution.Walk}
    (hrun : (runSteps site config (step :: rest) progress).run world = (ended, after))
    (hstopped : ∀ walk, ended = .ok walk → walk.completed = false) :
    R world after ∨ ∃ first result second noted third others, R world first ∧
      (runStep site config step).run first = (.ok result, second) ∧ R second third ∧
      (runSteps site config rest noted).run third = (others, after) ∧
      ∀ walk, others = .ok walk → walk.completed = false := by
  obtain ⟨begun, first, hbegin⟩ : ∃ begun first,
      (beginStep site step.kind progress).run world = (begun, first) := ⟨_, _, rfl⟩
  obtain ⟨result, second, hrunStep⟩ : ∃ result second,
      (runStep site config step).run first = (result, second) := ⟨_, _, rfl⟩
  have hbegun : R world first := (moves_beginStep hnow _ _).of_run hbegin
  -- Others are only taken behind a step that succeeded.
  cases result with
  | error message =>
      cases (run_runSteps_crashed hbegin hrunStep).symm.trans hrun
      exact .inl (trans_of R hbegun (hstep _ _ _ hrunStep nofun))
  | ok result =>
      cases hsucceeded : result.succeeded with
      | false =>
          obtain ⟨noted, third, hnotes⟩ : ∃ noted third,
              (failStep site result begun).run second = (noted, third) := ⟨_, _, rfl⟩
          cases (run_runSteps_stopped hbegin hrunStep hsucceeded hnotes).symm.trans hrun
          have hfailed : R first second := by
            refine hstep _ _ _ hrunStep ?_
            rintro _ ⟨⟩
            exact hsucceeded
          exact .inl (trans_of R hbegun
            (trans_of R hfailed ((moves_failStep hnow _ _).of_run hnotes)))
      | true =>
          obtain ⟨noted, third, hnotes⟩ : ∃ noted third,
              (completeStep site result begun).run second = (noted, third) := ⟨_, _, rfl⟩
          obtain ⟨others, last, hrest⟩ : ∃ others last,
              (runSteps site config rest noted).run third = (others, last) := ⟨_, _, rfl⟩
          cases (run_runSteps_next hbegin hrunStep hsucceeded hnotes hrest).symm.trans hrun
          refine .inr ⟨first, result, second, noted, third, others, hbegun, hrunStep,
            (moves_completeStep hnow _ _).of_run hnotes, hrest, ?_⟩
          rintro walk rfl
          exact hstopped { walk with results := result :: walk.results } rfl

/-- Where the steps of a plan were not all completed, the last one was not reached, or did not
succeed. -/
theorem runSteps_stopped_concat (hnow : Moves R site.now) (hwatch : Moves R site.stopwatch)
    {front : List PlannedStep} {last : PlannedStep}
    (hfront : ∀ step ∈ front, Moves R (perform site config step.action))
    (hlast : FailsTo R site config last) {progress : Progress} {ended : Except Crash Execution.Walk}
    (hrun : (runSteps site config (front ++ [last]) progress).run world = (ended, after))
    (hstopped : ∀ walk, ended = .ok walk → walk.completed = false) : R world after := by
  induction front generalizing progress ended world with
  | nil =>
      obtain hreached | ⟨first, result, second, noted, third, others, -, -, -, hrest, hnone⟩ :=
        runSteps_stopped hnow hlast hrun hstopped
      · exact hreached
      · -- Nothing is left to be stopped behind the last step.
        cases hrest
        cases hnone _ rfl
  | cons step rest ih =>
      obtain ⟨hone, hothers⟩ := List.forall_mem_cons.mp hfront
      obtain hreached | ⟨first, result, second, noted, third, others, hbegin, hstep, hnotes, hrest,
        hleft⟩ := runSteps_stopped hnow (failsTo_of_moves hwatch hone) hrun hstopped
      · exact hreached
      · have hfirst : R first second := (moves_runStep hwatch hone).of_run hstep
        exact trans_of R hbegin (trans_of R hfirst (trans_of R hnotes (ih hothers hrest hleft)))

/-- A run that left no artifact leads where the actions in front of the last one do, if the last
step does so where it does not succeed. -/
theorem execute_stopped (hnow : Moves R site.now) (hwatch : Moves R site.stopwatch)
    (hrunId : Moves R site.newRunId) {variant : Variant} {front : List PlannedStep}
    {last : PlannedStep} (hplan : Plan.ofVariant config variant = front ++ [last])
    (hfront : ∀ step ∈ front, Moves R (perform site config step.action))
    (hlast : FailsTo R site config last) {result : Except Crash VariantReport}
    (hrun : (execute site config variant).run world = (result, after))
    (hnone : ∀ report, result = .ok report → report.artifact = none) : R world after := by
  obtain ⟨runId, named, hname⟩ : ∃ runId named,
      site.newRunId.run world = (runId, named) := ⟨_, _, rfl⟩
  obtain ⟨progress, started, hstart⟩ : ∃ progress started,
      (noteNow site .info ("Starting variant: " ++ variant.text)
        (Progress.start runId variant.os)).run named = (progress, started) := ⟨_, _, rfl⟩
  obtain ⟨ended, walked, hsteps⟩ : ∃ ended walked,
      (runSteps site config (front ++ [last]) progress).run started = (ended, walked) := ⟨_, _, rfl⟩
  have hplanned := hsteps
  rw [← hplan] at hplanned
  have hexecute : (execute site config variant).run world = _ :=
    (run_bind_of hname _).trans ((run_bind_of hstart _).trans (run_bind_of hplanned _))
  have hbegun : R world started :=
    trans_of R (hrunId.of_run hname) ((moves_noteNow hnow _ _ _).of_run hstart)
  have hwalked (hstopped : ∀ walk, ended = .ok walk → walk.completed = false) : R world walked :=
    trans_of R hbegun (runSteps_stopped_concat hnow hwatch hfront hlast hsteps hstopped)
  cases ended with
  | error message =>
      cases hexecute.symm.trans hrun
      exact hwalked nofun
  | ok walk =>
      cases hcompleted : walk.completed with
      | false =>
          have hnot : ¬ walk.completed = true := by simp [hcompleted]
          cases (hexecute.trans (run_ite_of_not hnot _ _ _)).symm.trans hrun
          refine hwalked ?_
          rintro _ ⟨⟩
          exact hcompleted
      | true =>
          -- The report of a walk that was completed has an artifact.
          cases (hexecute.trans (run_ite_of hcompleted _ _ _)).symm.trans hrun
          cases hnone _ rfl

end

end ReleasePipeline.Proofs
