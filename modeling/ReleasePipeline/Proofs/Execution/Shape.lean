import ReleasePipeline.Proofs.Execution.Trail

/-!
# `ReleasePipeline.Proofs.Execution.Shape`: what the report of a variant run looks like

The site is arbitrary here: a command may end in any way, and the file system may refuse anything at
any moment. `Coherent` gathers what every report has in common, with the acts of the run beside it.
The steps are the first ones of the plan, in its order, and each of them is one act. All of them
succeeded but possibly the last. Either all ten succeeded, and then the run is done and has its
artifact, or the last one did not, and then the run failed in the way of that step. The history goes
through the stages of the steps, and then to the end.

`coherent_report` says that there is a report, and that it is coherent, unless running commands
broke down altogether. What Walked says of a plan is drawn together in `Walked.taken`, and the
order of the stages is that of `Stage.plain`.
-/

set_option autoImplicit false

namespace ReleasePipeline.Proofs

open Execution (runSteps execute noteNow)

/-! ### The results of a plan -/

/-- What the results of a plan have in common. -/
structure Taken (config : Config) (steps : List PlannedStep) (acts : List Act)
    (results : List StepResult) (completed : Bool) : Prop where
  length : acts.length = results.length
  attempts : List.Forall₂ (fun step attempt => Attempted config step attempt.1 (.ok attempt.2))
    (steps.take results.length) (acts.zip results)
  before : ∀ result ∈ results.dropLast, result.succeeded = true
  /-- All steps were taken, or the last one that was did not succeed. -/
  ending : if completed then results.length = steps.length ∧ ∀ result ∈ results,
      result.succeeded = true
    else ∃ front last, results = front ++ [last] ∧ last.succeeded = false

/-- What a walk along a plan gives. -/
theorem Walked.taken {config : Config} {steps : List PlannedStep} {acts : List Act}
    {results : List StepResult} {completed : Bool}
    (h : Walked config steps acts (.ok (results, completed))) :
    Taken config steps acts results completed := by
  generalize hended : (Except.ok (results, completed) :
    Except Crash (List StepResult × Bool)) = ended at h
  induction h generalizing results completed with
  | finished =>
      cases hended
      exact ⟨rfl, .nil, List.forall_mem_nil _, rfl, List.forall_mem_nil _⟩
  | crashed attempt => cases hended
  | @stopped step rest act result attempt failed =>
      cases hended
      exact ⟨rfl, .cons attempt .nil, List.forall_mem_nil _, [], result, rfl, failed⟩
  | @next step rest act acts result ended attempt succeeded others ih =>
      cases ended with
      | error message => cases hended
      | ok ended =>
          obtain ⟨rest, whole⟩ := ended
          cases hended
          obtain ⟨hlength, hattempts, hbefore, hending⟩ := ih rfl
          -- The first step succeeded, so whatever holds of the steps behind it carries over to all.
          refine ⟨congrArg (· + 1) hlength, .cons attempt hattempts, ?_, ?_⟩
          · cases rest with
            | nil => exact List.forall_mem_nil _
            | cons other others =>
                rw [List.dropLast_cons_cons, List.forall_mem_cons]
                exact ⟨succeeded, hbefore⟩
          · cases completed with
            | true =>
                obtain ⟨hall, hrest⟩ := hending
                exact ⟨congrArg (· + 1) hall, List.forall_mem_cons.mpr ⟨succeeded, hrest⟩⟩
            | false =>
                obtain ⟨front, last, rfl, hlast⟩ := hending
                exact ⟨result :: front, last, rfl, hlast⟩

/-- An action breaks down only where running a command does. -/
theorem Performed.crash {config : Config} {action : StepAction} {act : Act} {message : Crash}
    (h : Performed config action act (.error message)) :
    ∃ invocation, act = .invoke invocation (.crashed message) := by
  generalize hleft : (Except.error message : Except Crash ActionOutcome) = left at h
  cases h with
  | createDir _ => cases hleft
  | copy _ => cases hleft
  | run answer =>
      cases answer with
      | finished _ => cases hleft
      | failed _ => cases hleft
      | crashed _ =>
          cases hleft
          exact ⟨_, rfl⟩

/-- A walk breaks down where running a command does, and nothing is done after that. -/
theorem Walked.crash {config : Config} {steps : List PlannedStep} {acts : List Act}
    {message : Crash} (h : Walked config steps acts (.error message)) :
    ∃ invocation, acts.getLast? = some (.invoke invocation (.crashed message)) := by
  generalize hended : (Except.error message :
    Except Crash (List StepResult × Bool)) = ended at h
  induction h with
  | finished => cases hended
  | @crashed step rest act other attempt =>
      cases hended
      cases attempt with
      | crashed performed =>
          obtain ⟨invocation, rfl⟩ := performed.crash
          exact ⟨invocation, rfl⟩
  | stopped attempt failed => cases hended
  | @next _ _ act acts _ ended _ _ _ ih =>
      -- A crash behind this step is one of the steps behind it, and its act is still the last one.
      cases ended with
      | ok _ => cases hended
      | error _ =>
          cases hended
          obtain ⟨invocation, hlast⟩ := ih rfl
          refine ⟨invocation, ?_⟩
          rw [List.getLast?_cons, hlast]
          rfl

/-- Steps that all succeeded enter their own stages. -/
theorem entered_of_succeeded {results : List StepResult}
    (h : ∀ result ∈ results, result.succeeded = true) :
    entered results = (results.map (·.step)).filterMap StepKind.stage? := by
  induction results with
  | nil => rfl
  | cons result rest ih =>
      rw [List.forall_mem_cons] at h
      rw [entered, h.1, if_pos rfl, ih h.2, List.map_cons, List.filterMap_cons]
      cases result.step.stage? <;> rfl

/-- Where the last step did not succeed the failure comes behind them. -/
theorem entered_of_failed {front : List StepResult} {last : StepResult}
    (h : ∀ result ∈ front, result.succeeded = true) (hlast : last.succeeded = false) :
    entered (front ++ [last]) = ((front ++ [last]).map (·.step)).filterMap StepKind.stage? ++
      [.failed last.step.failureKind] := by
  induction front with
  | nil =>
      rw [List.nil_append, entered, hlast, if_neg Bool.false_ne_true, List.map_singleton,
        List.filterMap_cons]
      cases last.step.stage? <;> rfl
  | cons result rest ih =>
      rw [List.forall_mem_cons] at h
      rw [List.cons_append, entered, h.1, if_pos rfl, ih h.2, List.map_cons, List.filterMap_cons]
      cases result.step.stage? <;> rfl

/-! ### The report -/

/-- What a report has in common with every other one, and with the acts of its run. -/
structure Coherent (config : Config) (variant : Variant) (acts : List Act)
    (report : VariantReport) : Prop where
  subject : report.variant = variant
  nonempty : report.steps ≠ []
  kinds : report.steps.map (·.step) <+: StepKind.all
  before : ∀ step ∈ report.steps.dropLast, step.succeeded = true
  /-- Each step that was taken is one act, and there is no other act. -/
  length : acts.length = report.steps.length
  attempts : List.Forall₂ (fun step attempt => Attempted config step attempt.1 (.ok attempt.2))
    ((Plan.ofVariant config variant).take report.steps.length) (acts.zip report.steps)
  done : report.stage = .done ↔ report.steps.map (·.step) = StepKind.all ∧
    ∀ step ∈ report.steps, step.succeeded = true
  artifact : report.artifact =
    if report.stage = .done then some (Artifact.ofVariant config variant) else none
  failed : report.stage ≠ .done → ∃ last, report.steps.getLast? = some last ∧
    report.failedStep? = some last ∧ report.stage = .failed last.step.failureKind
  history : report.history =
    .pending :: (report.steps.filterMap (·.step.stage?)).destutter (· ≠ ·) ++
      if report.stage = .done then [.collected, .done] else [report.stage]
  inOrder : (if report.stage = .done then report.history else report.history.dropLast) <+:
    Stage.plain
  ends : report.history.getLast? = some report.stage
  timedOut : ∀ step ∈ report.steps, step.timedOut = true →
    report.stage = .failed step.step.failureKind

/-- The stages of the first steps are in the order of the stages. -/
theorem stages_inOrder {kinds : List StepKind} (h : kinds <+: StepKind.all) :
    .pending :: (kinds.filterMap StepKind.stage?).destutter (· ≠ ·) <+: Stage.plain := by
  have hcheck : ∀ count ∈ List.range 11, .pending ::
      ((StepKind.all.take count).filterMap StepKind.stage?).destutter (· ≠ ·) <+: Stage.plain := by
    decide
  have hlength : kinds.length ≤ 10 := h.length_le
  rw [List.prefix_iff_eq_take.mp h]
  exact hcheck kinds.length (List.mem_range.mpr (by omega))

/-- What the end of a walk along the plan of a variant makes of its report. -/
structure Told (config : Config) (variant : Variant) (results : List StepResult) (completed : Bool)
    (report : VariantReport) : Prop where
  subject : report.variant = variant
  steps : report.steps = results
  artifact : report.artifact =
    if completed then some (Artifact.ofVariant config variant) else none
  trail : (report.stage, report.history) =
    (entered results ++ if completed then [Stage.collected, .done] else []).foldl advance
      (.pending, [.pending])

/-- The run of a variant is a walk along its plan, of which the report tells. -/
theorem run_execute_told {σ : Type} (site : Site (StateM σ)) (config : Config) (variant : Variant)
    (world : σ) (log : List (Deed σ)) :
    ∃ during ended after, (execute (loggedSite site) config variant).run ⟨world, log⟩ =
        (ended, ⟨after, log ++ during⟩) ∧
      match ended with
      | .error message =>
        Walked config (Plan.ofVariant config variant) (during.map (·.act)) (.error message)
      | .ok report => ∃ results completed,
        Walked config (Plan.ofVariant config variant) (during.map (·.act))
          (.ok (results, completed)) ∧
        Told config variant results completed report := by
  obtain ⟨runId, named, hname⟩ : ∃ runId named,
      (loggedSite site).newRunId.run ⟨world, log⟩ = (runId, ⟨named, log⟩) := ⟨_, _, rfl⟩
  let started := (site.now.run named).2
  let progress := (Progress.start runId variant.os).note (site.now.run named).1 .info
    ("Starting variant: " ++ variant.text)
  obtain ⟨during, ended, after, hsteps, hwalked⟩ := run_runSteps_walked site config
    (Plan.ofVariant config variant) progress started log
  have hrun : (execute (loggedSite site) config variant).run ⟨world, log⟩ = _ :=
    (run_bind_of hname _).trans ((run_bind _ _ _).trans (run_bind_of hsteps _))
  cases ended with
  | error message => exact ⟨during, .error message, after, hrun, hwalked⟩
  | ok walk =>
      have htrail := trail_runSteps _ hsteps
      cases hcompleted : walk.completed with
      | false =>
          have hnot : ¬ walk.completed = true := by simp [hcompleted]
          refine ⟨during, _, after, hrun.trans (run_ite_of_not hnot _ _ _), walk.results, false, ?_,
            rfl, rfl, rfl, ?_⟩
          · rw [← hcompleted]
            exact hwalked
          · rw [if_neg Bool.false_ne_true, List.append_nil]
            exact htrail
      | true =>
          refine ⟨during, _, _, hrun.trans (run_ite_of hcompleted _ _ _), walk.results, true, ?_,
            rfl, rfl, rfl, ?_⟩
          · rw [← hcompleted]
            exact hwalked
          · -- The notes about the artifact leave the trail alone.
            rw [if_pos rfl, List.foldl_append]
            refine (trail_enter _ .done).trans ?_
            refine congrArg (advance · .done) ((trail_enter walk.progress .collected).trans ?_)
            exact congrArg (advance · .collected) htrail

/-- The result of a step is under its kind. -/
theorem Attempted.step_eq {config : Config} {step : PlannedStep} {act : Act} {result : StepResult}
    (h : Attempted config step act (.ok result)) : result.step = step.kind := by
  cases h
  rfl

/-- The steps that were taken are the first ones of all. -/
theorem Taken.kinds {config : Config} {variant : Variant} {acts : List Act}
    {results : List StepResult} {completed : Bool}
    (h : Taken config (Plan.ofVariant config variant) acts results completed) :
    results.map (·.step) = StepKind.all.take results.length := by
  have hstep {steps : List PlannedStep} {attempts : List (Act × StepResult)}
      (hattempts : List.Forall₂ (fun step attempt =>
        Attempted config step attempt.1 (.ok attempt.2)) steps attempts) :
      attempts.map (·.2.step) = steps.map (·.kind) := by
    induction hattempts with
    | nil => rfl
    | cons attempt _ ih =>
        rw [List.map_cons, List.map_cons, ih, attempt.step_eq]
  have hresults : ((acts.zip results).map (·.2)).map (·.step) = results.map (·.step) := by
    rw [List.map_snd_zip h.length.ge]
  rw [← hresults, List.map_map]
  exact (hstep h.attempts).trans List.map_take

section
variable {config : Config} {variant : Variant} {acts : List Act} {report : VariantReport}

/-- The report of a run whose steps all succeeded is coherent. -/
theorem Told.coherent_of_completed (h : Told config variant report.steps true report)
    (htaken : Taken config (Plan.ofVariant config variant) acts report.steps true) :
    Coherent config variant acts report := by
  obtain ⟨hlength, hall⟩ := htaken.ending
  have hkinds : report.steps.map (·.step) = StepKind.all := by
    rw [htaken.kinds, hlength]
    rfl
  have htrail := h.trail
  rw [if_pos rfl, entered_of_succeeded hall, foldl_advance_done] at htrail
  obtain ⟨hstage, hhistory⟩ := Prod.mk.inj htrail
  have hdone : report.stage = .done := hstage
  refine ⟨h.subject, ?_, hkinds ▸ List.prefix_rfl, htaken.before, htaken.length, htaken.attempts,
    ⟨fun _ => ⟨hkinds, hall⟩, fun _ => hdone⟩, ?_, fun hnot => absurd hdone hnot, ?_, ?_, ?_, ?_⟩
  · intro hnil
    rw [hnil] at hkinds
    cases hkinds
  · rw [h.artifact, if_pos rfl, if_pos hdone]
  · rw [hhistory, if_pos hdone, List.filterMap_map]
    rfl
  · rw [if_pos hdone, hhistory, hkinds]
    decide
  · rw [hhistory, hdone, hkinds]
    rfl
  · -- A step that timed out did not succeed.
    intro step hstep htimedOut
    have hsucceeded := hall step hstep
    simp [StepResult.succeeded, htimedOut] at hsucceeded

/-- The report of a run with a step that did not succeed is coherent. -/
theorem Told.coherent_of_failed (h : Told config variant report.steps false report)
    (htaken : Taken config (Plan.ofVariant config variant) acts report.steps false) :
    Coherent config variant acts report := by
  obtain ⟨front, last, hsteps, hlast⟩ := htaken.ending
  have hbefore : ∀ result ∈ front, result.succeeded = true := by
    have := htaken.before
    rwa [hsteps, List.dropLast_concat] at this
  have hprefix : report.steps.map (·.step) <+: StepKind.all :=
    htaken.kinds ▸ List.take_prefix _ _
  have htrail := h.trail
  rw [if_neg Bool.false_ne_true, List.append_nil, hsteps, entered_of_failed hbefore hlast,
    foldl_advance_failed, ← hsteps] at htrail
  obtain ⟨hstage, hhistory⟩ := Prod.mk.inj htrail
  have hfailed : report.stage = .failed last.step.failureKind := hstage
  have hnot : report.stage ≠ .done := by
    rw [hfailed]
    nofun
  have hgetLast : report.steps.getLast? = some last := by
    rw [hsteps, List.getLast?_concat]
  have hmem : last ∈ report.steps := List.mem_of_getLast? hgetLast
  refine ⟨h.subject, ?_, hprefix, htaken.before, htaken.length, htaken.attempts, ?_, ?_, ?_, ?_, ?_,
    ?_, ?_⟩
  · exact List.ne_nil_of_mem hmem
  · refine ⟨fun hdone => absurd hdone hnot, fun ⟨_, hall⟩ => ?_⟩
    rw [hall last hmem] at hlast
    cases hlast
  · rw [h.artifact, if_neg Bool.false_ne_true, if_neg hnot]
  · refine fun _ => ⟨last, hgetLast, ?_, hfailed⟩
    rw [VariantReport.failedStep?, hgetLast]
    simp [hlast]
  · rw [hhistory, if_neg hnot, List.filterMap_map, hfailed]
    rfl
  · rw [if_neg hnot, hhistory, List.dropLast_concat]
    exact stages_inOrder hprefix
  · rw [hhistory, hfailed]
    exact List.getLast?_concat
  · -- A step that timed out did not succeed, so it is the last one.
    intro step hstep htimedOut
    rw [hsteps] at hstep
    rcases List.mem_append.mp hstep with hfront | hend
    · have hsucceeded := hbefore step hfront
      simp [StepResult.succeeded, htimedOut] at hsucceeded
    · rw [List.mem_singleton.mp hend]
      exact hfailed

end

/-- A run with its deeds written down does what it does anyway. It is a walk along the plan, which
ends where running a command breaks down, or with a report that is coherent with the deeds. -/
theorem run_execute_coherent {σ : Type} (site : Site (StateM σ)) (config : Config)
    (variant : Variant) (world : σ) (log : List (Deed σ)) :
    let run := (execute site config variant).run world
    ∃ deeds ended, (execute (loggedSite site) config variant).run ⟨world, log⟩ =
        (run.1, ⟨run.2, log ++ deeds⟩) ∧
      Walked config (Plan.ofVariant config variant) (deeds.map (·.act)) ended ∧
      match run.1 with
      | .ok report => Coherent config variant (deeds.map (·.act)) report
      | .error message => ended = .error message := by
  intro run
  obtain ⟨deeds, ended, after, hexecute, htold⟩ := run_execute_told site config variant world log
  -- What is told of the run in which deeds are written down is told of the run itself.
  obtain ⟨hended, hafter⟩ :=
    shadows_execute (siteShadows_logged site) config variant ⟨world, log⟩
  rw [hexecute] at hended hafter
  have hrun : run = (ended, after) := Prod.ext hended.symm hafter.symm
  rw [hrun]
  cases ended with
  | error message => exact ⟨deeds, .error message, hexecute, htold, rfl⟩
  | ok report =>
      obtain ⟨results, completed, hwalked, htold⟩ := htold
      obtain rfl := htold.steps
      refine ⟨deeds, .ok (report.steps, completed), hexecute, hwalked, ?_⟩
      cases completed with
      | true => exact htold.coherent_of_completed hwalked.taken
      | false => exact htold.coherent_of_failed hwalked.taken

/-- **The report of a variant run has one shape.** Take any site: commands may end in any way,
time out or not start at all, and the file system may refuse anything. Unless running commands
breaks down altogether, the run of a variant has a report, and the report is `Coherent` with the
deeds of the run. If it does break down, that was the last thing the run did, and there is no
report. Writing the deeds down changes neither the report nor what is done. -/
theorem coherent_report {σ : Type} (site : Site (StateM σ)) (config : Config) (variant : Variant)
    (world : σ) :
    let run := (execute site config variant).run world
    ∃ deeds, (execute (loggedSite site) config variant).run ⟨world, []⟩ =
        (run.1, ⟨run.2, deeds⟩) ∧
      match run.1 with
      | .ok report => Coherent config variant (deeds.map (·.act)) report
      | .error message => ∃ invocation,
        (deeds.map (·.act)).getLast? = some (.invoke invocation (.crashed message)) := by
  intro run
  obtain ⟨deeds, ended, hexecute, hwalked, hreport⟩ :=
    run_execute_coherent site config variant world []
  refine ⟨deeds, hexecute, ?_⟩
  generalize run.1 = result at hreport ⊢
  cases result with
  | error message =>
      subst hreport
      exact hwalked.crash
  | ok report => exact hreport

end ReleasePipeline.Proofs
