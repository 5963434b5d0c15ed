import ReleasePipeline.Proofs.Execution.Shape
import ReleasePipeline.Proofs.Text.Lines

/-!
# `ReleasePipeline.Proofs.Execution.Journal`: what the log of a variant run tells

The log of a run is told by its report alone: `account` is the list of levels and messages that
belong to the steps of the report and to its end. The moments of the entries are left out, since
they come from the clock.

Only notes are added to the buffer of a run, so what is in there can be followed from note to
note: `notes_runSteps` is the induction over the plan, and `notes_execute` says it of the log in
the report.

The output of a command is on the log line by line. `written` are the lines of a text that hold more
than blanks, without the blanks at their ends. Those of the captured output are those of what the
command printed, first the output and then the error output (`written_combined`). `log_is_complete`
puts both together.
-/

set_option autoImplicit false

namespace ReleasePipeline.Proofs

open Execution (runStep noteNow beginStep completeStep failStep runSteps execute)

/-! ### What the log should tell -/

/-- What the log tells of a step: that it began, what it printed, and how it ended. A failure is
told before what the step printed, and what it printed is part of the failure. -/
def accountOfStep (result : StepResult) : List (LogLevel × String) :=
  (.info, "Starting step: " ++ result.step.id) ::
    if result.succeeded then
      (notedLines result.output).map (fun line => (.debug, line)) ++
        [(.info, "Step '" ++ result.step.id ++ "' completed")]
    else
      (.error, "Step '" ++ result.step.id ++ "' failed: " ++ result.step.failureKind.name) ::
        (notedLines result.output).map fun line => (.error, line)

/-- What the log tells of a run: what was to be run, every step, and the artifact if there is
one. -/
def account (config : Config) (report : VariantReport) : List (LogLevel × String) :=
  (.info, "Starting variant: " ++ report.variant.text) ::
    report.steps.flatMap accountOfStep ++
    if report.stage = .done then
      [(.info, "Collected artifact " ++ config.artifactName report.variant)]
    else []

/-- The level and the message of an entry. -/
def told (entry : LogEntry) : LogLevel × String :=
  (entry.level, entry.message)

/-! ### From note to note -/

/-- What was noted so far. -/
def notes (progress : Progress) : List (LogLevel × String) :=
  progress.buffered.map told

/-- Entering a stage leaves the buffer alone. -/
theorem buffered_enter (progress : Progress) (next : Stage) :
    (progress.enter next).buffered = progress.buffered := by
  unfold Progress.enter
  split <;> rfl

/-- Entering a stage notes nothing. -/
theorem notes_enter (progress : Progress) (next : Stage) :
    notes (progress.enter next) = notes progress :=
  congrArg (List.map told) (buffered_enter progress next)

section
variable {σ : Type} (site : Site (StateM σ))

/-- Noting a line adds it at the end. Only its time is left open. -/
theorem notes_noteNow (level : LogLevel) (message : String) (progress : Progress) (world : σ) :
    notes ((noteNow site level message progress).run world).1 =
      notes progress ++ [(level, message)] := by
  show (progress.buffered ++ [_]).map told = _
  rw [List.map_append]
  rfl

/-- An output is noted line by line. -/
theorem notes_noteOutput (level : LogLevel) (output : String) (progress : Progress) (world : σ) :
    notes ((progress.noteOutput site.now level output).run world).1 =
      notes progress ++ (notedLines output).map fun line => (level, line) := by
  show (progress.buffered ++ _).map told = _
  rw [List.map_append]
  exact congrArg (notes progress ++ ·) (map_run_mapM (fun _ _ => rfl) (notedLines output) world)

/-- Beginning a step adds the line that names it. -/
theorem notes_beginStep (kind : StepKind) (progress : Progress) (world : σ) :
    notes ((beginStep site kind progress).run world).1 =
      notes progress ++ [(.info, "Starting step: " ++ kind.id)] := by
  unfold beginStep
  rw [notes_noteNow]
  cases kind.stage? with
  | none => rfl
  | some stage => rw [notes_enter]

/-- Completing a step notes what it printed, and that it is completed. -/
theorem notes_completeStep (result : StepResult) (progress : Progress) (world : σ) :
    notes ((completeStep site result progress).run world).1 =
      notes progress ++ ((notedLines result.output).map (fun line => (.debug, line)) ++
        [(.info, "Step '" ++ result.step.id ++ "' completed")]) := by
  unfold completeStep
  rw [run_bind, notes_noteNow, notes_noteOutput, List.append_assoc]

/-- Failing a step notes how it failed, and what it printed. -/
theorem notes_failStep (result : StepResult) (progress : Progress) (world : σ) :
    notes ((failStep site result progress).run world).1 =
      notes progress ++
        (.error, "Step '" ++ result.step.id ++ "' failed: " ++ result.step.failureKind.name) ::
          (notedLines result.output).map fun line => (.error, line) := by
  unfold failStep
  rw [run_bind, run_bind]
  show notes (Progress.enter _ _) = _
  rw [notes_enter, notes_noteOutput, notes_noteNow, List.append_assoc]
  rfl

variable {site} {config : Config}

/-- The steps of a plan note what their results tell. -/
theorem notes_runSteps (steps : List PlannedStep) {progress : Progress} {world after : σ}
    {walk : Execution.Walk}
    (h : (runSteps site config steps progress).run world = (.ok walk, after)) :
    notes walk.progress = notes progress ++ walk.results.flatMap accountOfStep := by
  induction steps generalizing progress world walk with
  | nil =>
      cases h
      simp
  | cons step rest ih =>
      obtain ⟨begun, first, hbegin⟩ : ∃ begun first,
          (beginStep site step.kind progress).run world = (begun, first) := ⟨_, _, rfl⟩
      obtain ⟨result, second, hstep⟩ : ∃ result second,
          (runStep site config step).run first = (result, second) := ⟨_, _, rfl⟩
      have hbegun :
          notes begun = notes progress ++ [(.info, "Starting step: " ++ step.kind.id)] := by
        rw [← notes_beginStep site step.kind progress world, hbegin]
      cases result with
      | error message =>
          rw [run_runSteps_crashed hbegin hstep] at h
          cases h
      | ok result =>
          have hkind := step_of_runStep hstep
          cases hsucceeded : result.succeeded with
          | false =>
              obtain ⟨failed, last, hfail⟩ : ∃ failed last,
                  (failStep site result begun).run second = (failed, last) := ⟨_, _, rfl⟩
              rw [run_runSteps_stopped hbegin hstep hsucceeded hfail] at h
              cases h
              -- The failure and the output are the last notes.
              have hnoted := notes_failStep site result begun second
              rw [hfail] at hnoted
              show notes failed = _
              rw [hnoted, hbegun, ← hkind]
              simp [accountOfStep, hsucceeded]
          | true =>
              obtain ⟨ended, last, hrest⟩ : ∃ ended last, (runSteps site config rest
                ((completeStep site result begun).run second).1).run
                ((completeStep site result begun).run second).2 = (ended, last) := ⟨_, _, rfl⟩
              rw [run_runSteps_next hbegin hstep hsucceeded rfl hrest] at h
              cases ended with
              | error message => cases h
              | ok others =>
                  cases h
                  rw [ih hrest, notes_completeStep, hbegun, ← hkind]
                  simp [accountOfStep, hsucceeded]

/-- The log of a run tells what its report tells, and of an artifact if there is one. -/
theorem notes_execute {variant : Variant} {world after : σ} {report : VariantReport}
    (h : (execute site config variant).run world = (.ok report, after)) :
    report.logs.map told = (.info, "Starting variant: " ++ variant.text) ::
      report.steps.flatMap accountOfStep ++
      if report.artifact.isSome then [(.info, "Collected artifact " ++ config.artifactName variant)]
      else [] := by
  obtain ⟨runId, named, hname⟩ : ∃ runId named, site.newRunId.run world = (runId, named) :=
    ⟨_, _, rfl⟩
  obtain ⟨progress, started, hstart⟩ : ∃ progress started,
      (noteNow site .info ("Starting variant: " ++ variant.text)
        (Progress.start runId variant.os)).run named = (progress, started) := ⟨_, _, rfl⟩
  obtain ⟨ended, walked, hsteps⟩ : ∃ ended walked,
      (runSteps site config (Plan.ofVariant config variant) progress).run started =
        (ended, walked) := ⟨_, _, rfl⟩
  have hrun : (execute site config variant).run world = _ :=
    (run_bind_of hname _).trans ((run_bind_of hstart _).trans (run_bind_of hsteps _))
  have hstarted : notes progress = [(.info, "Starting variant: " ++ variant.text)] := by
    have hnoted := notes_noteNow site .info ("Starting variant: " ++ variant.text)
      (Progress.start runId variant.os) named
    rwa [hstart] at hnoted
  cases ended with
  | error message => cases hrun.symm.trans h
  | ok walk =>
      have hwalk := notes_runSteps _ hsteps
      rw [hstarted] at hwalk
      -- A run that was stopped notes nothing more, and one that went through notes its artifact.
      cases hcompleted : walk.completed with
      | false =>
          have hnot : ¬ walk.completed = true := by simp [hcompleted]
          cases (hrun.trans (run_ite_of_not hnot _ _ _)).symm.trans h
          show notes walk.progress = _
          rw [hwalk]
          simp [Execution.report]
      | true =>
          obtain ⟨collected, last, hcollect⟩ : ∃ collected last,
              (noteNow site .info ("Collected artifact " ++ config.artifactName variant)
                (walk.progress.enter .collected)).run walked = (collected, last) := ⟨_, _, rfl⟩
          have hnoted := notes_noteNow site .info
            ("Collected artifact " ++ config.artifactName variant)
            (walk.progress.enter .collected) walked
          rw [hcollect, notes_enter, hwalk] at hnoted
          cases (hrun.trans ((run_ite_of hcompleted _ _ _).trans
            (run_bind_of hcollect _))).symm.trans h
          show notes (Progress.enter _ _) = _
          rw [notes_enter, hnoted]
          simp [Execution.report, Artifact.ofVariant]

end

/-! ### What a command printed -/

/-- The lines of a text that hold more than blanks, without the blanks at their ends. -/
def written (text : String) : List String :=
  (notedLines text).map fun line => String.ofList (Text.trimEnd line.toList)

/-- The lines that are written are those of the characters. -/
theorem written_eq (text : String) : written text = (inked text.toList).map String.ofList := by
  unfold written notedLines Text.linesOf inked
  rw [List.filter_map, List.map_map, List.map_map]
  simp [Function.comp_def, Text.isBlankText]

/-- What a command printed is written on the captured output: first what it printed to its output,
and then what it printed to its error output. -/
theorem written_combined (output : CommandOutput) :
    written output.combined = written output.stdout ++ written output.stderr := by
  have hout := inked_trimEnd output.stdout.toList
  have herr := inked_trimEnd output.stderr.toList
  rw [written_eq, written_eq, written_eq, ← hout, ← herr, ← List.map_append]
  refine congrArg (List.map String.ofList) ?_
  -- A line feed is put between the two outputs unless one of them is empty.
  unfold CommandOutput.combined
  generalize Text.trimEnd output.stdout.toList = out
  generalize Text.trimEnd output.stderr.toList = err
  cases out with
  | nil => simp [inked, Text.lines]
  | cons c rest =>
      cases err with
      | nil => simp [inked, Text.lines]
      | cons d more =>
          show inked (String.ofList (c :: rest ++ '\n' :: d :: more)).toList = _
          rw [String.toList_ofList, inked_append_feed]

/-- A step that ran a command has captured what the command printed. -/
theorem Attempted.output_eq {config : Config} {step : PlannedStep} {invocation : Invocation}
    {output : CommandOutput} {result : StepResult}
    (h : Attempted config step (.invoke invocation (.finished output)) (.ok result)) :
    result.output = output.combined := by
  cases h with
  | ended performed milliseconds =>
      generalize step.action = action at performed
      generalize hleft : (Except.ok _ : Except Crash ActionOutcome) = left at performed
      cases performed with
      | run answer =>
          cases hleft
          rfl

/-- Each deed of a run is that of the step with the same place in the report, and what its command
printed is on the output of this step. -/
theorem Coherent.written_eq {config : Config} {variant : Variant} {acts : List Act}
    {report : VariantReport} (h : Coherent config variant acts report) :
    List.Forall₂
      (fun act result => ∀ invocation output, act = .invoke invocation (.finished output) →
        written result.output = written output.stdout ++ written output.stderr)
      acts report.steps := by
  rw [List.forall₂_iff_get]
  refine ⟨h.length, fun index hact hstep invocation output hfinished => ?_⟩
  simp only [List.get_eq_getElem] at hfinished ⊢
  have hattempts := h.attempts
  have hzip : index < (acts.zip report.steps).length := by
    rw [List.length_zip]
    omega
  have hattempt := hattempts.get (hattempts.length_eq ▸ hzip) hzip
  simp only [List.get_eq_getElem, List.getElem_zip, hfinished] at hattempt
  rw [hattempt.output_eq, written_combined]

/-- **The log of a run is complete and in order.** Take any site, and a run with its deeds written
down. If the run has a report, its steps are the first ones of all steps, and its log is what
`account` tells of them and nothing else. There is one deed for each step, and where this was a
command that came to its end, what is written on the captured output is what is written on the
output of the command and then what is written on its error output: no line is lost, put together
with another one or told twice. If the run has no report then running a command broke down. -/
theorem log_is_complete {σ : Type} (site : Site (StateM σ)) (config : Config) (variant : Variant)
    (world : σ) :
    let run := (execute site config variant).run world
    ∃ deeds, (execute (loggedSite site) config variant).run ⟨world, []⟩ =
        (run.1, ⟨run.2, deeds⟩) ∧
      match run.1 with
      | .ok report =>
        report.variant = variant ∧ report.steps.map (·.step) <+: StepKind.all ∧
        report.logs.map told = account config report ∧
        List.Forall₂ (fun act result => ∀ invocation output,
          act = .invoke invocation (.finished output) →
          written result.output = written output.stdout ++ written output.stderr)
          (deeds.map (·.act)) report.steps
      | .error message => ∃ invocation,
        (deeds.map (·.act)).getLast? = some (.invoke invocation (.crashed message)) := by
  intro run
  obtain ⟨deeds, ended, hexecute, hwalked, hreport⟩ :=
    run_execute_coherent site config variant world []
  refine ⟨deeds, hexecute, ?_⟩
  obtain ⟨result, after, hrun⟩ : ∃ result after, run = (result, after) := ⟨_, _, rfl⟩
  rw [hrun]
  rw [show (execute site config variant).run world = run from rfl, hrun] at hreport
  cases result with
  | error message =>
      subst hreport
      exact hwalked.crash
  | ok report =>
      refine ⟨hreport.subject, hreport.kinds, ?_, hreport.written_eq⟩
      rw [notes_execute hrun, account, hreport.subject, hreport.artifact]
      split <;> simp

end ReleasePipeline.Proofs
