import Mathlib.Logic.Function.Basic
import ReleasePipeline.Schedule
import ReleasePipeline.Proofs.Execution.Reach
import ReleasePipeline.Proofs.Execution.Trail

/-!
# `ReleasePipeline.Proofs.Execution.Race`: variant runs that take turns

Variants that run at the same time share one world. A `Lane` is how far the run of one of them has
come, and `Lane.move` takes it one step further: what it does is put together from what `execute`
does. `rest_eq_move` says so: to move a lane and then to run the rest of it is to run it.

A `Race` is a world and a lane for every variant. A schedule says whose turn it is, in any order,
and a turn is one whole step. `Lane.takeTurns` is the same in any monad (`run_takeTurns`). A lane
only moves when it is its turn (`lanes_turn_of_ne`), and then by one step of its plan
(`Lane.Next`, `next_move`). So the steps that a lane has behind it were taken in turns of its own:
`turn_of_underway` and `turn_of_done` find the last one of them.
-/

set_option autoImplicit false

namespace ReleasePipeline.Proofs

open Execution
  (noteNow beginStep perform runStep completeStep failStep runSteps report execute Walk)

/-! ### Lanes -/

/-- How far the run of a variant has come. -/
inductive Lane where
  | waiting
  /-- Some steps are done, and there is a next one. -/
  | underway (progress : Progress) (results : List StepResult) (next : PlannedStep)
      (behind : List PlannedStep)
  | ended (result : TaskEnd)

namespace Lane

section
variable {m : Type → Type} [Monad m] (site : Site m) (config : Config) (variant : Variant)

/-- Goes on with the steps that are left. Where there are none the run is done. -/
def goOn (progress : Progress) (results : List StepResult) : List PlannedStep → m Lane
  | next :: behind => pure (.underway progress results next behind)
  | [] => do
    let artifact := Artifact.ofVariant config variant
    let progress ← noteNow site .info ("Collected artifact " ++ artifact.fileName)
      (progress.enter .collected)
    pure (.ended (.ok (report (progress.enter .done) variant results (some artifact))))

/-- Takes a run one step further. -/
def move : Lane → m Lane
  | .waiting => do
    let runId ← site.newRunId
    let progress ← noteNow site .info ("Starting variant: " ++ variant.text)
      (Progress.start runId variant.os)
    goOn site config variant progress [] (Plan.ofVariant config variant)
  | .underway progress results next behind => do
    let progress ← beginStep site next.kind progress
    match ← runStep site config next with
    | .error crash => pure (.ended (.error crash))
    | .ok result =>
      if result.succeeded then do
        let progress ← completeStep site result progress
        goOn site config variant progress (results ++ [result]) behind
      else do
        let progress ← failStep site result progress
        pure (.ended (.ok (report progress variant (results ++ [result]) none)))
  | .ended result => pure (.ended result)

/-- The end of a run whose steps came so far. -/
def close (results : List StepResult) : Except Crash Walk → m TaskEnd
  | .error crash => pure (.error crash)
  | .ok walk =>
    if walk.completed then do
      let artifact := Artifact.ofVariant config variant
      let progress ← noteNow site .info ("Collected artifact " ++ artifact.fileName)
        (walk.progress.enter .collected)
      pure (.ok (report (progress.enter .done) variant (results ++ walk.results) (some artifact)))
    else pure (.ok (report walk.progress variant (results ++ walk.results) none))

/-- Runs what is left of a run. -/
def rest : Lane → m TaskEnd
  | .waiting => execute site config variant
  | .underway progress results next behind => do
    let walk ← runSteps site config (next :: behind) progress
    close site config variant results walk
  | .ended result => pure result

/-- Moves lanes whose turn it is, one after the other. -/
def takeTurns : List Variant → (Variant → Lane) → m (Variant → Lane)
  | [], lanes => pure lanes
  | variant :: schedule, lanes => do
    let moved ← (lanes variant).move site config variant
    takeTurns schedule (Function.update lanes variant moved)

end

section
variable {σ : Type} {site : Site (StateM σ)} {config : Config} {variant : Variant}
  {progress begun noted : Progress} {results : List StepResult} {next : PlannedStep}
  {behind : List PlannedStep} {world first second third : σ}

/-- A breakdown in a step ends the run. -/
theorem run_move_crashed {message : Crash}
    (hbegin : (beginStep site next.kind progress).run world = (begun, first))
    (hstep : (runStep site config next).run first = (.error message, second)) :
    ((underway progress results next behind).move site config variant).run world =
      (.ended (.error message), second) :=
  (run_bind_of hbegin _).trans (run_bind_of hstep _)

/-- So does a step that does not succeed. -/
theorem run_move_failed {result : StepResult}
    (hbegin : (beginStep site next.kind progress).run world = (begun, first))
    (hstep : (runStep site config next).run first = (.ok result, second))
    (hfailed : result.succeeded = false)
    (hnotes : (failStep site result begun).run second = (noted, third)) :
    ((underway progress results next behind).move site config variant).run world =
      (.ended (.ok (report noted variant (results ++ [result]) none)), third) :=
  (run_bind_of hbegin _).trans ((run_bind_of hstep _).trans
    ((run_ite_of_not (by simp [hfailed]) _ _ _).trans (run_bind_of hnotes _)))

/-- Behind a step that succeeds the others follow. -/
theorem run_move_next {result : StepResult}
    (hbegin : (beginStep site next.kind progress).run world = (begun, first))
    (hstep : (runStep site config next).run first = (.ok result, second))
    (hsucceeded : result.succeeded = true)
    (hnotes : (completeStep site result begun).run second = (noted, third)) :
    ((underway progress results next behind).move site config variant).run world =
      (goOn site config variant noted (results ++ [result]) behind).run third :=
  (run_bind_of hbegin _).trans ((run_bind_of hstep _).trans
    ((run_ite_of hsucceeded _ _ _).trans (run_bind_of hnotes _)))

/-- One more result may be counted in front or behind. -/
theorem close_map (results : List StepResult) (result : StepResult) (walk : Except Crash Walk) :
    close site config variant results
        (walk.map fun walk => { walk with results := result :: walk.results }) =
      close site config variant (results ++ [result]) walk := by
  cases walk with
  | error crash => rfl
  | ok walk =>
      have hresults : results ++ result :: walk.results = results ++ [result] ++ walk.results :=
        List.append_cons results result walk.results
      simp only [close, Except.map, hresults]

/-- To go on with some steps and then to run the rest is to walk along them. -/
theorem run_goOn_rest (steps : List PlannedStep) (progress : Progress) (results : List StepResult)
    (world : σ) :
    (goOn site config variant progress results steps >>= rest site config variant).run world =
      (runSteps site config steps progress >>= close site config variant results).run world := by
  cases steps with
  | cons next behind => rfl
  | nil =>
      show _ = (close site config variant [] (.ok ⟨progress, results ++ [], true⟩)).run world
      rw [List.append_nil]
      rfl

/-- To move a lane and then to run the rest of it is to run it. -/
theorem rest_eq_move (lane : Lane) (world : σ) :
    (lane.rest site config variant).run world =
      (lane.move site config variant >>= rest site config variant).run world := by
  cases lane with
  | waiting => exact (run_goOn_rest (Plan.ofVariant config variant) _ [] _).symm
  | underway progress results next behind =>
      obtain ⟨begun, first, hbegin⟩ : ∃ begun first,
          (beginStep site next.kind progress).run world = (begun, first) := ⟨_, _, rfl⟩
      obtain ⟨result, second, hstep⟩ : ∃ result second,
          (runStep site config next).run first = (result, second) := ⟨_, _, rfl⟩
      cases result with
      | error message =>
          exact (run_bind_of (run_runSteps_crashed hbegin hstep) _).trans
            (run_bind_of (run_move_crashed hbegin hstep) (rest site config variant)).symm
      | ok result =>
          cases hsucceeded : result.succeeded with
          | false =>
              obtain ⟨noted, third, hnotes⟩ : ∃ noted third,
                  (failStep site result begun).run second = (noted, third) := ⟨_, _, rfl⟩
              exact (run_bind_of (run_runSteps_stopped hbegin hstep hsucceeded hnotes) _).trans
                (run_bind_of (run_move_failed hbegin hstep hsucceeded hnotes)
                  (rest site config variant)).symm
          | true =>
              obtain ⟨noted, third, hnotes⟩ : ∃ noted third,
                  (completeStep site result begun).run second = (noted, third) := ⟨_, _, rfl⟩
              obtain ⟨walk, last, hrest⟩ : ∃ walk last,
                  (runSteps site config behind noted).run third = (walk, last) := ⟨_, _, rfl⟩
              -- Both ways are at the steps behind, and differ in where they count the result.
              refine Eq.trans
                (run_bind_of (run_runSteps_next hbegin hstep hsucceeded hnotes hrest) _) ?_
              rw [close_map, run_bind, run_move_next hbegin hstep hsucceeded hnotes]
              refine Eq.symm ((run_goOn_rest behind noted (results ++ [result]) third).trans ?_)
              exact run_bind_of hrest _
  | ended result => rfl

end

/-! ### What a move can do -/

/-- Whether the run of a lane is done. -/
def isDone : Lane → Bool
  | .ended (.ok report) => report.stage == .done
  | _ => false

/-- A lane is as far as its plan says: what is left of it is the end of the plan, and its run is
not at its end. -/
def Sound (config : Config) (variant : Variant) : Lane → Prop
  | .underway progress _ next behind =>
      (next :: behind) <:+ Plan.ofVariant config variant ∧ progress.stage.isTerminal = false
  | _ => True

/-- A lane is about to take a step, and has some others behind it. -/
def IsAt (lane : Lane) (next : PlannedStep) (behind : List PlannedStep) : Prop :=
  ∃ progress results, lane = .underway progress results next behind

/-- A lane that is about to take a step has it from its plan. -/
theorem IsAt.mem_plan {config : Config} {variant : Variant} {lane : Lane} {next : PlannedStep}
    {behind : List PlannedStep} (hat : lane.IsAt next behind) (hsound : lane.Sound config variant) :
    next ∈ Plan.ofVariant config variant := by
  obtain ⟨progress, results, rfl⟩ := hat
  exact hsound.1.subset List.mem_cons_self

/-- A lane that has ended with a report is about the variant of that report. -/
def About (variant : Variant) : Lane → Prop
  | .ended (.ok report) => report.variant = variant
  | _ => True

/-- What a move can make of a lane. -/
inductive Next (config : Config) (variant : Variant) : Lane → Lane → Prop where
  | started {progress results next behind} (plan : Plan.ofVariant config variant = next :: behind)
      (fresh : progress.stage.isTerminal = false) :
      Next config variant .waiting (.underway progress results next behind)
  | stepped {progress results step progress' results' next behind}
      (still : progress.stage.isTerminal = false → progress'.stage.isTerminal = false) :
      Next config variant (.underway progress results step (next :: behind))
        (.underway progress' results' next behind)
  | finished {progress results step report} (about : report.variant = variant) :
      Next config variant (.underway progress results step []) (.ended (.ok report))
  | failed {progress results step behind report} (about : report.variant = variant)
      (failed : progress.stage.isTerminal = false → report.stage ≠ .done) :
      Next config variant (.underway progress results step behind) (.ended (.ok report))
  | crashed {progress results step behind message} :
      Next config variant (.underway progress results step behind) (.ended (.error message))
  | stayed {result} : Next config variant (.ended result) (.ended result)

section
variable {σ : Type} {site : Site (StateM σ)} {config : Config} {variant : Variant}
  {progress begun noted : Progress} {world first : σ}

/-- A run that begins a step is not at its end. -/
theorem isTerminal_of_beginStep {kind : StepKind}
    (hbegin : (beginStep site kind progress).run world = (begun, first))
    (hopen : progress.stage.isTerminal = false) : begun.stage.isTerminal = false := by
  have hbegun : begun = ((beginStep site kind progress).run world).1 :=
    (congrArg Prod.fst hbegin).symm
  rw [hbegun]
  show (trail ((beginStep site kind progress).run world).1).1.isTerminal = false
  rw [trail_beginStep]
  -- A step that has no stage of its own enters none.
  cases hstage : kind.stage? with
  | none => exact hopen
  | some stage =>
      show (advance (trail progress) stage).1.isTerminal = false
      unfold advance
      split
      · exact hopen
      · exact (ne_pending_of_stage? hstage).2

/-- A run that fails is not done, unless it was before. -/
theorem ne_done_of_failStep {result : StepResult}
    (hnotes : (failStep site result progress).run world = (noted, first))
    (hopen : progress.stage.isTerminal = false) : noted.stage ≠ .done := by
  have hnoted : noted = ((failStep site result progress).run world).1 :=
    (congrArg Prod.fst hnotes).symm
  rw [hnoted]
  show (trail ((failStep site result progress).run world).1).1 ≠ .done
  rw [trail_failStep]
  unfold advance
  split
  · intro hdone
    rw [show progress.stage = .done from hdone] at hopen
    exact absurd hopen (by decide)
  · exact nofun

/-- A move does nothing else. -/
theorem next_move (lane : Lane) (world : σ) :
    Next config variant lane ((lane.move site config variant).run world).1 := by
  cases lane with
  | waiting => exact .started rfl rfl
  | underway progress results next behind =>
      obtain ⟨begun, first, hbegin⟩ : ∃ begun first,
          (beginStep site next.kind progress).run world = (begun, first) := ⟨_, _, rfl⟩
      obtain ⟨result, second, hstep⟩ : ∃ result second,
          (runStep site config next).run first = (result, second) := ⟨_, _, rfl⟩
      have hbegun : progress.stage.isTerminal = false → begun.stage.isTerminal = false :=
        isTerminal_of_beginStep hbegin
      -- One case for each way in which a step can end: in a crash, a failure or success.
      cases result with
      | error message =>
          rw [run_move_crashed hbegin hstep]
          exact .crashed
      | ok result =>
          cases hsucceeded : result.succeeded with
          | false =>
              rw [run_move_failed hbegin hstep hsucceeded rfl]
              exact .failed rfl fun hopen => ne_done_of_failStep rfl (hbegun hopen)
          | true =>
              rw [run_move_next hbegin hstep hsucceeded rfl]
              cases behind with
              | nil => exact .finished rfl
              | cons next behind => exact .stepped hbegun
  | ended result => exact .stayed

/-- Going on asks for nothing but the time, and for that only at the end of a plan. -/
theorem moves_goOn {R : σ → σ → Prop} [IsPreorder σ R] (hnow : Moves R site.now)
    (progress : Progress) (results : List StepResult) (steps : List PlannedStep) :
    Moves R (goOn site config variant progress results steps) := by
  cases steps with
  | nil => exact (moves_noteNow hnow _ _ _).bind fun _ => moves_pure _
  | cons next behind => exact moves_pure _

/-- A move of a lane does the action of the next step, and nothing else that matters. If the run
is done behind it, the action was done well. -/
theorem move_action {R : σ → σ → Prop} [IsPreorder σ R] (hnow : Moves R site.now)
    (hwatch : Moves R site.stopwatch) {lane : Lane} {next : PlannedStep}
    {behind : List PlannedStep} (hat : lane.IsAt next behind) (hsound : lane.Sound config variant)
    (world : σ) :
    let moved := (lane.move site config variant).run world
    ∃ first outcome second, R world first ∧
      (perform site config next.action).run first = (outcome, second) ∧ R second moved.2 ∧
      (moved.1.isDone = true → ∃ success, outcome = .ok success ∧ success.exitCode = some 0) := by
  intro moved
  obtain ⟨progress, results, rfl⟩ := hat
  obtain ⟨begun, first, hbegin⟩ : ∃ begun first,
      (beginStep site next.kind progress).run world = (begun, first) := ⟨_, _, rfl⟩
  obtain ⟨started, second, hstarted⟩ : ∃ started second,
      site.stopwatch.run first = (started, second) := ⟨_, _, rfl⟩
  obtain ⟨outcome, third, hperform⟩ : ∃ outcome third,
      (perform site config next.action).run second = (outcome, third) := ⟨_, _, rfl⟩
  have hbegun : begun.stage.isTerminal = false := isTerminal_of_beginStep hbegin hsound.2
  have hreached : R world second :=
    trans_of R ((moves_beginStep hnow _ _).of_run hbegin) (hwatch.of_run hstarted)
  -- In front of the action and behind it only the clocks are asked.
  refine ⟨second, outcome, third, hreached, hperform, ?_⟩
  cases outcome with
  | error message =>
      have hmoved : moved = _ := run_move_crashed hbegin
        ((run_bind_of hstarted _).trans (run_bind_of hperform _))
      rw [hmoved]
      exact ⟨refl_of R third, nofun⟩
  | ok outcome =>
      obtain ⟨stopped, fourth, hstopped⟩ : ∃ stopped fourth,
          site.stopwatch.run third = (stopped, fourth) := ⟨_, _, rfl⟩
      have hstep : (runStep site config next).run first = _ :=
        (run_bind_of hstarted _).trans ((run_bind_of hperform _).trans (run_bind_of hstopped _))
      obtain ⟨result, hresult⟩ : ∃ result : StepResult, result = ⟨next.kind, outcome.exitCode,
        outcome.timedOut, outcome.output, stopped - started⟩ := ⟨_, rfl⟩
      rw [← hresult] at hstep
      cases hsucceeded : result.succeeded with
      | false =>
          obtain ⟨noted, fifth, hnotes⟩ : ∃ noted fifth,
              (failStep site result begun).run fourth = (noted, fifth) := ⟨_, _, rfl⟩
          have hmoved : moved = _ := run_move_failed hbegin hstep hsucceeded hnotes
          have hnoted : noted.stage ≠ .done := ne_done_of_failStep hnotes hbegun
          rw [hmoved]
          exact ⟨trans_of R (hwatch.of_run hstopped) ((moves_failStep hnow _ _).of_run hnotes),
            fun hdone => absurd (eq_of_beq hdone) hnoted⟩
      | true =>
          obtain ⟨noted, fifth, hnotes⟩ : ∃ noted fifth,
              (completeStep site result begun).run fourth = (noted, fifth) := ⟨_, _, rfl⟩
          have hmoved : moved = _ := run_move_next hbegin hstep hsucceeded hnotes
          have hfifth : R third fifth :=
            trans_of R (hwatch.of_run hstopped) ((moves_completeStep hnow _ _).of_run hnotes)
          rw [hmoved]
          refine ⟨trans_of R hfifth (moves_goOn hnow _ _ _ fifth), fun _ => ⟨outcome, rfl, ?_⟩⟩
          rw [hresult] at hsucceeded
          simpa [StepResult.succeeded] using (Bool.and_eq_true_iff.mp hsucceeded).2

end

section
variable {config : Config} {variant : Variant} {lane after : Lane} {next : PlannedStep}
  {behind : List PlannedStep}

/-- A lane stays as far as its plan says. -/
theorem Next.sound (h : Next config variant lane after) (hsound : lane.Sound config variant) :
    after.Sound config variant := by
  cases h with
  | started plan fresh => exact ⟨plan ▸ List.suffix_refl _, fresh⟩
  | stepped still => exact ⟨(List.suffix_cons _ _).trans hsound.1, still hsound.2⟩
  | finished | failed | crashed | stayed => trivial

/-- A lane stays about its variant. -/
theorem Next.about (h : Next config variant lane after) (habout : lane.About variant) :
    after.About variant := by
  cases h with
  | finished about | failed about => exact about
  | stayed => exact habout
  | started | stepped | crashed => trivial

/-- A lane that is about to take a step had this one behind another step, if it is not the first
one. -/
theorem Next.of_isAt (h : Next config variant lane after) (hat : after.IsAt next behind) :
    Plan.ofVariant config variant = next :: behind ∨ ∃ step, lane.IsAt step (next :: behind) := by
  obtain ⟨progress, results, rfl⟩ := hat
  cases h with
  | started plan => exact .inl plan
  | stepped => exact .inr ⟨_, _, _, rfl⟩

/-- A lane is done when it has taken its last step. -/
theorem Next.of_isDone (h : Next config variant lane after) (hsound : lane.Sound config variant)
    (hdone : after.isDone = true) : lane.isDone = true ∨ ∃ step, lane.IsAt step [] := by
  cases h with
  | finished => exact .inr ⟨_, _, _, rfl⟩
  | failed _ failed => exact absurd (eq_of_beq hdone) (failed hsound.2)
  | stayed => exact .inl hdone
  | started | stepped | crashed => cases hdone

/-- How many moves are left of a lane. -/
def left (config : Config) (variant : Variant) : Lane → Nat
  | .waiting => (Plan.ofVariant config variant).length + 1
  | .underway _ _ _ behind => behind.length + 1
  | .ended _ => 0

/-- A move leaves less to be moved. -/
theorem Next.left_le (h : Next config variant lane after) :
    after.left config variant ≤ lane.left config variant - 1 := by
  cases h with
  | started plan =>
      unfold left
      rw [plan]
      exact Nat.le_refl _
  | stepped => exact Nat.le_refl _
  | finished | failed | crashed | stayed => exact Nat.zero_le _

/-- Nowhere is more left than at the beginning, which is one move for each step and one in front
of them. -/
theorem left_le (hsound : lane.Sound config variant) : lane.left config variant ≤ 11 := by
  cases lane with
  | waiting => exact Nat.le_refl _
  | underway progress results next behind =>
      have hlength : behind.length + 1 ≤ 10 := hsound.1.length_le
      exact Nat.le_succ_of_le hlength
  | ended result => exact Nat.zero_le _

/-- Where nothing is left the run has ended. -/
theorem ended_of_left (h : lane.left config variant = 0) : ∃ result, lane = .ended result := by
  cases lane with
  | ended result => exact ⟨result, rfl⟩
  | waiting | underway => cases h

end
end Lane

/-! ### Races -/

/-- Variant runs that share a world. -/
structure Race (σ : Type) where
  lanes : Variant → Lane
  world : σ

namespace Race

/-- A race in which nobody has begun. -/
def opening {σ : Type} (world : σ) : Race σ :=
  ⟨fun _ => .waiting, world⟩

section
variable {σ : Type} (site : Site (StateM σ)) (config : Config)

/-- The turn of a variant: its lane moves. -/
def turn (race : Race σ) (variant : Variant) : Race σ :=
  let moved := ((race.lanes variant).move site config variant).run race.world
  ⟨Function.update race.lanes variant moved.1, moved.2⟩

/-- All turns of a schedule. -/
def play (race : Race σ) (schedule : List Variant) : Race σ :=
  schedule.foldl (turn site config) race

end

section
variable {σ : Type} {site : Site (StateM σ)} {config : Config} {race : Race σ}
  {variant other : Variant} {schedule : List Variant}

/-- A schedule that is cut in two is played in two parts. -/
theorem play_append (first second : List Variant) :
    race.play site config (first ++ second) =
      (race.play site config first).play site config second :=
  List.foldl_append

/-- The last turn of a schedule is taken where all others have led. -/
theorem play_concat :
    race.play site config (schedule ++ [other]) =
      (race.play site config schedule).turn site config other :=
  play_append schedule [other]

/-- A race is lanes that take turns in one world. -/
theorem run_takeTurns (race : Race σ) :
    (Lane.takeTurns site config schedule race.lanes).run race.world =
      ((race.play site config schedule).lanes, (race.play site config schedule).world) := by
  induction schedule generalizing race with
  | nil => rfl
  | cons variant rest ih => exact ih (race.turn site config variant)

/-- In its turn a lane moves. -/
theorem lanes_turn_self : ((race.turn site config variant).lanes variant) =
    (((race.lanes variant).move site config variant).run race.world).1 :=
  Function.update_self ..

/-- In the turn of another variant it does not. -/
theorem lanes_turn_of_ne (h : variant ≠ other) :
    (race.turn site config other).lanes variant = race.lanes variant :=
  Function.update_of_ne h ..

/-- Whatever the order of the turns, every lane is as far as its plan says. -/
theorem sound_play (h : (race.lanes variant).Sound config variant) :
    ((race.play site config schedule).lanes variant).Sound config variant := by
  induction schedule generalizing race with
  | nil => exact h
  | cons first rest ih =>
      refine ih ?_
      by_cases hfirst : variant = first
      · subst hfirst
        rw [lanes_turn_self]
        exact (Lane.next_move _ _).sound h
      · rw [lanes_turn_of_ne hfirst]
        exact h

/-- Every lane stays about its variant. -/
theorem about_play (h : (race.lanes variant).About variant) :
    ((race.play site config schedule).lanes variant).About variant := by
  induction schedule generalizing race with
  | nil => exact h
  | cons first rest ih =>
      refine ih ?_
      by_cases hfirst : variant = first
      · subst hfirst
        rw [lanes_turn_self]
        exact (Lane.next_move _ _).about h
      · rw [lanes_turn_of_ne hfirst]
        exact h

/-- A variant that has no turn stays where it is. -/
theorem lanes_play_of_notMem (h : variant ∉ schedule) :
    (race.play site config schedule).lanes variant = race.lanes variant := by
  induction schedule generalizing race with
  | nil => rfl
  | cons first rest ih =>
      obtain ⟨hne, hrest⟩ := List.ne_and_not_mem_of_not_mem_cons h
      exact (ih hrest).trans (lanes_turn_of_ne hne)

/-- A lane that is about to take a step other than the first one of its plan took the step before
it in its last turn. -/
theorem turn_of_underway {world : σ} {next : PlannedStep} {behind : List PlannedStep}
    (hplan : Plan.ofVariant config variant ≠ next :: behind)
    (hat : (((opening world).play site config schedule).lanes variant).IsAt next behind) :
    ∃ earlier later step, schedule = earlier ++ variant :: later ∧ variant ∉ later ∧
      (((opening world).play site config earlier).lanes variant).IsAt step (next :: behind) := by
  -- The turn that is looked for is the last one of the variant, so the schedule is taken apart from
  -- its end.
  induction schedule using List.reverseRecOn with
  | nil =>
      obtain ⟨progress, results, hlane⟩ := hat
      cases hlane
  | append_singleton init last ih =>
      rw [play_concat] at hat
      by_cases hlast : variant = last
      · subst hlast
        rw [lanes_turn_self] at hat
        obtain ⟨step, hstep⟩ := ((Lane.next_move _ _).of_isAt hat).resolve_left hplan
        exact ⟨init, [], step, rfl, List.not_mem_nil, hstep⟩
      · rw [lanes_turn_of_ne hlast] at hat
        obtain ⟨earlier, later, step, rfl, hlater, hstep⟩ := ih hat
        refine ⟨earlier, later ++ [last], step, List.append_assoc _ _ _, ?_, hstep⟩
        rw [List.mem_append, List.mem_singleton]
        exact not_or.mpr ⟨hlater, hlast⟩

/-- A lane that is done became so in one of its turns, when it took its last step. -/
theorem turn_of_done {world : σ}
    (hdone : (((opening world).play site config schedule).lanes variant).isDone = true) :
    ∃ earlier later step, schedule = earlier ++ variant :: later ∧
      (((opening world).play site config earlier).lanes variant).IsAt step [] ∧
      (((opening world).play site config (earlier ++ [variant])).lanes variant).isDone = true := by
  induction schedule using List.reverseRecOn with
  | nil => cases hdone
  | append_singleton init last ih =>
      have hbefore : (((opening world).play site config init).lanes variant).isDone = true →
          ∃ earlier later step, init ++ [last] = earlier ++ variant :: later ∧
            (((opening world).play site config earlier).lanes variant).IsAt step [] ∧
            (((opening world).play site config (earlier ++ [variant])).lanes variant).isDone =
              true := by
        intro hinit
        obtain ⟨earlier, later, step, rfl, hstep, hend⟩ := ih hinit
        exact ⟨earlier, later ++ [last], step, List.append_assoc _ _ _, hstep, hend⟩
      -- A lane that was done before the last turn stays so, in its own turns as well.
      by_cases hlast : variant = last
      · subst hlast
        have hmoved := hdone
        rw [play_concat, lanes_turn_self] at hmoved
        have hsound :
            (((opening world).play site config init).lanes variant).Sound config variant :=
          sound_play trivial
        rcases (Lane.next_move _ _).of_isDone hsound hmoved with hinit | ⟨step, hstep⟩
        · exact hbefore hinit
        · exact ⟨init, [], step, rfl, hstep, hdone⟩
      · rw [play_concat, lanes_turn_of_ne hlast] at hdone
        exact hbefore hdone

end
end Race
end ReleasePipeline.Proofs
