import ReleasePipeline.Execution
import ReleasePipeline.Proofs.Support.Logged

/-!
# `ReleasePipeline.Proofs.Execution.Deeds`: what a variant run does, step by step

A variant run does three kinds of things: it runs commands, makes directories and copies files.
`loggedSite` writes each of them down as a `Deed`: an `Act`, with what came of it, and the world
in which it was done. The clock, the stopwatch and fresh identifiers are not written down, and
neither is what is only noted: `completeStep_logged` and `failStep_logged`.

`Performed`, `Attempted` and `Walked` say how the acts of an action, of a step and of the steps of
a plan go together with what is left of them. Each step of a plan is one act, and nothing is done
behind the first step that does not succeed. `run_runSteps_walked` is the induction over the plan.
-/

set_option autoImplicit false

namespace ReleasePipeline.Proofs

open Execution (invocation perform runStep noteNow beginStep completeStep failStep runSteps execute)

/-! ### What is written down -/

/-- Something that a variant run does, and what came of it. -/
inductive Act where
  | invoke (invocation : Invocation) (answer : Answer)
  | createDirs (path : Path) (result : Except OsError Unit)
  | copy (source target : Path) (result : Except OsError Nat)

/-- An act, and the world in which it was done. -/
structure Deed (σ : Type) where
  act : Act
  world : σ

section
variable {σ : Type} (site : Site (StateM σ))

/-- A site where the deeds of a variant run are written down. -/
def loggedSite : Site (StateM (Logged (Deed σ) σ)) where
  read path := unlogged (site.read path)
  write path content := unlogged (site.write path content)
  createDirs path := logging (fun world result => ⟨.createDirs path result, world⟩)
    (site.createDirs path)
  copy source target := logging (fun world result => ⟨.copy source target result, world⟩)
    (site.copy source target)
  isFile path := unlogged (site.isFile path)
  invoke invocation := logging (fun world answer => ⟨.invoke invocation answer, world⟩)
    (site.invoke invocation)
  now := unlogged site.now
  stopwatch := unlogged site.stopwatch
  newRunId := unlogged site.newRunId

/-- Noting an output is no deed. -/
theorem noteOutput_logged (level : LogLevel) (output : String) (progress : Progress) :
    progress.noteOutput (loggedSite site).now level output =
      unlogged (progress.noteOutput site.now level output) := by
  unfold Progress.noteOutput
  rw [unlogged_bind, ← unlogged_mapM]
  rfl

/-- Completing a step is no deed. -/
theorem completeStep_logged (result : StepResult) (progress : Progress) :
    completeStep (loggedSite site) result progress =
      unlogged (completeStep site result progress) := by
  unfold completeStep
  rw [noteOutput_logged]
  rfl

/-- Failing a step is no deed. -/
theorem failStep_logged (result : StepResult) (progress : Progress) :
    failStep (loggedSite site) result progress = unlogged (failStep site result progress) := by
  unfold failStep
  simp only [noteOutput_logged]
  rfl

end

/-! ### One step -/

/-- What an action does, and what is left of it. -/
inductive Performed (config : Config) : StepAction → Act → Except Crash ActionOutcome → Prop where
  | run {command} (answer : Answer) :
      Performed config (.run command) (.invoke (invocation config command) answer)
        (ActionOutcome.ofAnswer answer)
  | createDir {path} (result : Except OsError Unit) :
      Performed config (.createDir path) (.createDirs path result)
        (.ok (.ofCreateDir path result))
  | copy {source target} (result : Except OsError Nat) :
      Performed config (.copy source target) (.copy source target result)
        (.ok (.ofCopy source target result))

/-- What a step does, and its result: what is left of its action, under the kind of the step. -/
inductive Attempted (config : Config) (step : PlannedStep) (act : Act) :
    Except Crash StepResult → Prop where
  | crashed {message} (performed : Performed config step.action act (.error message)) :
      Attempted config step act (.error message)
  | ended {outcome} (performed : Performed config step.action act (.ok outcome))
      (milliseconds : UInt64) :
      Attempted config step act
        (.ok ⟨step.kind, outcome.exitCode, outcome.timedOut, outcome.output, milliseconds⟩)

section
variable {σ : Type} (site : Site (StateM σ)) (config : Config)

/-- An action is one deed. -/
theorem run_perform_logged (action : StepAction) (world : σ) (log : List (Deed σ)) :
    ∃ act outcome after, (perform (loggedSite site) config action).run ⟨world, log⟩ =
        (outcome, ⟨after, log ++ [⟨act, world⟩]⟩) ∧
      Performed config action act outcome := by
  cases action with
  | run command => exact ⟨_, _, _, rfl, .run _⟩
  | createDir path => exact ⟨_, _, _, rfl, .createDir _⟩
  | copy source target => exact ⟨_, _, _, rfl, .copy _⟩

/-- A step is one deed. -/
theorem run_runStep_logged (step : PlannedStep) (world : σ) (log : List (Deed σ)) :
    ∃ deed result after, (runStep (loggedSite site) config step).run ⟨world, log⟩ =
        (result, ⟨after, log ++ [deed]⟩) ∧
      Attempted config step deed.act result := by
  let started := (site.stopwatch.run world).2
  obtain ⟨act, outcome, after, hperform, hperformed⟩ :=
    run_perform_logged site config step.action started log
  -- The act is written down whether the step ends or crashes.
  cases outcome with
  | error message =>
      exact ⟨⟨act, started⟩, _, _, (run_bind _ _ _).trans (run_bind_of hperform _),
        .crashed hperformed⟩
  | ok outcome =>
      exact ⟨⟨act, started⟩, _, _, (run_bind _ _ _).trans (run_bind_of hperform _),
        .ended hperformed _⟩

end

/-! ### The steps of a plan -/

/-- How the acts of the steps of a plan go together with the results: one act for each step, up to
the first that does not succeed, and no more. -/
inductive Walked (config : Config) :
    List PlannedStep → List Act → Except Crash (List StepResult × Bool) → Prop where
  | finished : Walked config [] [] (.ok ([], true))
  | crashed {step rest act message} (attempt : Attempted config step act (.error message)) :
      Walked config (step :: rest) [act] (.error message)
  | stopped {step rest act result} (attempt : Attempted config step act (.ok result))
      (failed : result.succeeded = false) :
      Walked config (step :: rest) [act] (.ok ([result], false))
  | next {step rest act acts result ended} (attempt : Attempted config step act (.ok result))
      (succeeded : result.succeeded = true) (others : Walked config rest acts ended) :
      Walked config (step :: rest) (act :: acts)
        (ended.map fun (results, completed) => (result :: results, completed))

section
variable {σ : Type} (site : Site (StateM σ)) (config : Config)

variable {site config} {step : PlannedStep} {rest : List PlannedStep}
  {progress begun noted : Progress} {world first second third : σ}

/-- A breakdown in the first step of a plan ends it all. -/
theorem run_runSteps_crashed {message : Crash}
    (hbegin : (beginStep site step.kind progress).run world = (begun, first))
    (hstep : (runStep site config step).run first = (.error message, second)) :
    (runSteps site config (step :: rest) progress).run world = (.error message, second) :=
  (run_bind_of hbegin _).trans (run_bind_of hstep _)

/-- A first step that does not succeed is the last one. -/
theorem run_runSteps_stopped {result : StepResult}
    (hbegin : (beginStep site step.kind progress).run world = (begun, first))
    (hstep : (runStep site config step).run first = (.ok result, second))
    (hfailed : result.succeeded = false)
    (hnotes : (failStep site result begun).run second = (noted, third)) :
    (runSteps site config (step :: rest) progress).run world =
      (.ok ⟨noted, [result], false⟩, third) :=
  (run_bind_of hbegin _).trans ((run_bind_of hstep _).trans
    ((run_ite_of_not (by simp [hfailed]) _ _ _).trans (run_bind_of hnotes _)))

/-- Behind a first step that succeeds the others follow. -/
theorem run_runSteps_next {result : StepResult} {ended : Except Crash Execution.Walk} {last : σ}
    (hbegin : (beginStep site step.kind progress).run world = (begun, first))
    (hstep : (runStep site config step).run first = (.ok result, second))
    (hsucceeded : result.succeeded = true)
    (hnotes : (completeStep site result begun).run second = (noted, third))
    (hrest : (runSteps site config rest noted).run third = (ended, last)) :
    (runSteps site config (step :: rest) progress).run world =
      (ended.map fun walk => { walk with results := result :: walk.results }, last) := by
  refine (run_bind_of hbegin _).trans ((run_bind_of hstep _).trans
    ((run_ite_of hsucceeded _ _ _).trans ((run_bind_of hnotes _).trans
      ((run_bind_of hrest _).trans ?_))))
  cases ended with
  | error crash => rfl
  | ok walk => rfl

end

section
variable {σ : Type} (site : Site (StateM σ)) (config : Config)

/-- Carrying out the steps of a plan is to walk along them. -/
theorem run_runSteps_walked (steps : List PlannedStep) (progress : Progress) (world : σ)
    (log : List (Deed σ)) :
    ∃ during ended after, (runSteps (loggedSite site) config steps progress).run ⟨world, log⟩ =
        (ended, ⟨after, log ++ during⟩) ∧
      Walked config steps (during.map (·.act))
        (ended.map fun walk => (walk.results, walk.completed)) := by
  induction steps generalizing progress world log with
  | nil => exact ⟨[], _, world, by rw [List.append_nil]; rfl, .finished⟩
  | cons step rest ih =>
      obtain ⟨begun, first, hbegin⟩ : ∃ begun first,
          (beginStep (loggedSite site) step.kind progress).run ⟨world, log⟩ =
            (begun, ⟨first, log⟩) := ⟨_, _, rfl⟩
      obtain ⟨deed, result, second, hstep, hattempt⟩ :=
        run_runStep_logged site config step first log
      cases result with
      | error message =>
          exact ⟨[deed], _, second, run_runSteps_crashed hbegin hstep, .crashed hattempt⟩
      | ok result =>
          cases hsucceeded : result.succeeded with
          | false =>
              -- The run ends here, and only notes follow.
              have hnotes := congrArg (StateT.run · ⟨second, log ++ [deed]⟩)
                (failStep_logged site result begun)
              exact ⟨[deed], _, _, run_runSteps_stopped hbegin hstep hsucceeded hnotes,
                .stopped hattempt hsucceeded⟩
          | true =>
              have hnotes := congrArg (StateT.run · ⟨second, log ++ [deed]⟩)
                (completeStep_logged site result begun)
              obtain ⟨during, ended, last, hrest, hwalked⟩ := ih
                ((completeStep site result begun).run second).1
                ((completeStep site result begun).run second).2 (log ++ [deed])
              rw [List.append_assoc] at hrest
              refine ⟨deed :: during, _, last,
                run_runSteps_next hbegin hstep hsucceeded hnotes hrest, ?_⟩
              have hnext := Walked.next hattempt hsucceeded hwalked
              cases ended with
              | error crash => exact hnext
              | ok walk => exact hnext

end

/-! ### What is written down is what happens -/

/-- Everything that is asked of one site is shadowed by what is asked of another one. -/
structure SiteShadows {σ τ : Type} (view : τ → σ) (site : Site (StateM σ))
    (other : Site (StateM τ)) : Prop where
  read : ∀ path, Shadows view (site.read path) (other.read path)
  write : ∀ path content, Shadows view (site.write path content) (other.write path content)
  createDirs : ∀ path, Shadows view (site.createDirs path) (other.createDirs path)
  copy : ∀ source target, Shadows view (site.copy source target) (other.copy source target)
  isFile : ∀ path, Shadows view (site.isFile path) (other.isFile path)
  invoke : ∀ invocation, Shadows view (site.invoke invocation) (other.invoke invocation)
  now : Shadows view site.now other.now
  stopwatch : Shadows view site.stopwatch other.stopwatch
  newRunId : Shadows view site.newRunId other.newRunId

/-- Logging what a site does leaves what it does as it is. -/
theorem siteShadows_logged {σ : Type} (site : Site (StateM σ)) :
    SiteShadows Logged.world site (loggedSite site) where
  read _ := shadows_unlogged _
  write _ _ := shadows_unlogged _
  createDirs _ := shadows_logging _ _
  copy _ _ := shadows_logging _ _
  isFile _ := shadows_unlogged _
  invoke _ := shadows_logging _ _
  now := shadows_unlogged _
  stopwatch := shadows_unlogged _
  newRunId := shadows_unlogged _

section
variable {σ τ : Type} {view : τ → σ} {site : Site (StateM σ)} {other : Site (StateM τ)}
  (h : SiteShadows view site other) (config : Config)
include h

/-- A noted line is shadowed, since only the clock is asked. -/
theorem shadows_noteNow (level : LogLevel) (message : String) (progress : Progress) :
    Shadows view (noteNow site level message progress) (noteNow other level message progress) :=
  h.now.bind fun _ => shadows_pure _

/-- So are the lines of an output, by induction on them. -/
theorem shadows_noteOutput (level : LogLevel) (output : String) (progress : Progress) :
    Shadows view (progress.noteOutput site.now level output)
      (progress.noteOutput other.now level output) :=
  (shadows_mapM (fun _ => h.now.bind fun _ => shadows_pure _) _).bind fun _ => shadows_pure _

/-- A step does what it does on either site. -/
theorem shadows_runStep (step : PlannedStep) :
    Shadows view (runStep site config step) (runStep other config step) := by
  have hperform : Shadows view (perform site config step.action)
      (perform other config step.action) := by
    cases step.action with
    | run command => exact (h.invoke _).bind fun _ => shadows_pure _
    | createDir path => exact (h.createDirs path).bind fun _ => shadows_pure _
    | copy source target => exact (h.copy source target).bind fun _ => shadows_pure _
  refine h.stopwatch.bind fun started => hperform.bind fun outcome => ?_
  cases outcome with
  | error message => exact shadows_pure _
  | ok outcome => exact h.stopwatch.bind fun stopped => shadows_pure _

/-- The end of a step that succeeded asks for nothing but the time. -/
theorem shadows_completeStep (result : StepResult) (progress : Progress) :
    Shadows view (completeStep site result progress) (completeStep other result progress) :=
  (shadows_noteOutput h _ _ _).bind fun _ => shadows_noteNow h _ _ _

/-- Nor does the end of a step that failed. -/
theorem shadows_failStep (result : StepResult) (progress : Progress) :
    Shadows view (failStep site result progress) (failStep other result progress) :=
  (shadows_noteNow h _ _ _).bind fun _ =>
    (shadows_noteOutput h _ _ _).bind fun _ => shadows_pure _

/-- So do the steps of a plan. -/
theorem shadows_runSteps (steps : List PlannedStep) (progress : Progress) :
    Shadows view (runSteps site config steps progress) (runSteps other config steps progress) := by
  induction steps generalizing progress with
  | nil => exact shadows_pure _
  | cons step rest ih =>
      refine (shadows_noteNow h _ _ _).bind fun begun =>
        (shadows_runStep h config step).bind fun result => ?_
      cases result with
      | error message => exact shadows_pure _
      | ok result =>
          refine Shadows.ite _ ?_ ?_
          · refine (shadows_completeStep h _ _).bind fun noted => (ih noted).bind fun ended => ?_
            cases ended with
            | error message => exact shadows_pure _
            | ok walk => exact shadows_pure _
          · exact (shadows_failStep h _ _).bind fun noted => shadows_pure _

/-- So does the run of a variant. -/
theorem shadows_execute (variant : Variant) :
    Shadows view (execute site config variant) (execute other config variant) := by
  refine h.newRunId.bind fun runId => (shadows_noteNow h _ _ _).bind fun progress =>
    (shadows_runSteps h config _ progress).bind fun ended => ?_
  cases ended with
  | error message => exact shadows_pure _
  | ok walk =>
      refine Shadows.ite _ ?_ (shadows_pure _)
      exact (shadows_noteNow h _ _ _).bind fun noted => shadows_pure _

end

end ReleasePipeline.Proofs
