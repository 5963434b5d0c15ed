import Mathlib.Data.List.Destutter
import ReleasePipeline.Proofs.Execution.Deeds

/-!
# `ReleasePipeline.Proofs.Execution.Trail`: the stages that a variant run passes

The trail of a run is the stage it is in and all that it has passed. Entering a stage goes on with
the trail, unless the run is in that stage already or at its end: `advance`. Notes leave the trail
alone, so the trail of a run is what the steps and their failure make of it: `trail_runSteps`.

As long as the run is not at its end, entering some stages one after the other adds them to the
history without those that repeat their predecessor. This is what `List.destutter` does, and
`foldl_advance` says so.
-/

set_option autoImplicit false

namespace ReleasePipeline.Proofs

open Execution (runStep noteNow beginStep completeStep failStep runSteps)

/-- The stage a run is in, and every stage it has passed. -/
def trail (progress : Progress) : Stage × List Stage :=
  (progress.stage, progress.history)

/-- What entering a stage makes of a trail. -/
def advance (trail : Stage × List Stage) (next : Stage) : Stage × List Stage :=
  if trail.1 = next ∨ trail.1.isTerminal = true then trail else (next, trail.2 ++ [next])

/-- The stages that some steps enter. A step that does not succeed fails the run. -/
def entered : List StepResult → List Stage
  | [] => []
  | result :: rest =>
    result.step.stage?.toList ++
      if result.succeeded then entered rest else [.failed result.step.failureKind]

/-! ### The trail of a run -/

/-- Entering a stage goes on with the trail. -/
theorem trail_enter (progress : Progress) (next : Stage) :
    trail (progress.enter next) = advance (trail progress) next := by
  unfold Progress.enter advance
  show trail (if progress.stage = next ∨ progress.stage.isTerminal = true then _ else _) =
    if progress.stage = next ∨ progress.stage.isTerminal = true then _ else _
  split <;> rfl

section
variable {σ : Type} (site : Site (StateM σ))

/-- Beginning a step enters its stage, if it has one. -/
theorem trail_beginStep (kind : StepKind) (progress : Progress) (world : σ) :
    trail ((beginStep site kind progress).run world).1 =
      kind.stage?.toList.foldl advance (trail progress) := by
  cases hstage : kind.stage? with
  | none =>
      unfold beginStep
      rw [hstage]
      rfl
  | some stage =>
      unfold beginStep
      rw [hstage]
      exact trail_enter progress stage

/-- Completing a step enters no stage. -/
theorem trail_completeStep (result : StepResult) (progress : Progress) (world : σ) :
    trail ((completeStep site result progress).run world).1 = trail progress :=
  rfl

/-- Failing a step fails the run. -/
theorem trail_failStep (result : StepResult) (progress : Progress) (world : σ) :
    trail ((failStep site result progress).run world).1 =
      advance (trail progress) (.failed result.step.failureKind) :=
  trail_enter _ _

variable {site} {config : Config}

/-- The result of a step is under its kind. -/
theorem step_of_runStep {step : PlannedStep} {world after : σ} {result : StepResult}
    (h : (runStep site config step).run world = (.ok result, after)) : result.step = step.kind := by
  unfold runStep at h
  rw [run_bind, run_bind] at h
  split at h
  · cases h
  · cases h
    rfl

/-- The steps of a plan enter the stages that their results tell of. -/
theorem trail_runSteps (steps : List PlannedStep) {progress : Progress} {world after : σ}
    {walk : Execution.Walk}
    (h : (runSteps site config steps progress).run world = (.ok walk, after)) :
    trail walk.progress = (entered walk.results).foldl advance (trail progress) := by
  -- The trail in front of the steps changes with each of them, and so do the world and the walk.
  induction steps generalizing progress world walk with
  | nil =>
      cases h
      rfl
  | cons step rest ih =>
      obtain ⟨begun, first, hbegin⟩ : ∃ begun first,
          (beginStep site step.kind progress).run world = (begun, first) := ⟨_, _, rfl⟩
      obtain ⟨result, second, hstep⟩ : ∃ result second,
          (runStep site config step).run first = (result, second) := ⟨_, _, rfl⟩
      have hbegun : trail begun = step.kind.stage?.toList.foldl advance (trail progress) := by
        rw [← trail_beginStep site step.kind progress world, hbegin]
      cases result with
      | error message =>
          rw [run_runSteps_crashed hbegin hstep] at h
          cases h
      | ok result =>
          have hkind := step_of_runStep hstep
          cases hsucceeded : result.succeeded with
          | false =>
              obtain ⟨noted, third, hnotes⟩ : ∃ noted third,
                  (failStep site result begun).run second = (noted, third) := ⟨_, _, rfl⟩
              have hnoted : trail noted = advance (trail begun)
                  (.failed result.step.failureKind) := by
                rw [← trail_failStep site result begun second, hnotes]
              rw [run_runSteps_stopped hbegin hstep hsucceeded hnotes] at h
              cases h
              rw [entered, hsucceeded, if_neg Bool.false_ne_true, List.foldl_append, hkind,
                ← hbegun, hnoted, hkind]
              rfl
          | true =>
              obtain ⟨ended, last, hrest⟩ : ∃ ended last, (runSteps site config rest
                ((completeStep site result begun).run second).1).run
                ((completeStep site result begun).run second).2 = (ended, last) := ⟨_, _, rfl⟩
              rw [run_runSteps_next hbegin hstep hsucceeded rfl hrest] at h
              cases ended with
              | error message => cases h
              | ok others =>
                  cases h
                  rw [entered, hsucceeded, if_pos rfl, List.foldl_append, hkind, ← hbegun,
                    ← trail_completeStep site result begun second]
                  exact ih hrest

end

/-! ### The history without repeats -/

/-- Entering stages one after the other, none but the last of which is an end, comes to the last of
them. The history gets those that do not repeat their predecessor. -/
theorem foldl_advance (next : List Stage) (front : List Stage) (stage : Stage)
    (hopen : ∀ passed ∈ (stage :: next).dropLast, passed.isTerminal = false) :
    next.foldl advance (stage, front ++ [stage]) =
      (next.getLastD stage, front ++ next.destutter' (· ≠ ·) stage) := by
  induction next generalizing front stage with
  | nil => rfl
  | cons first rest ih =>
      rw [List.dropLast_cons_cons, List.forall_mem_cons] at hopen
      obtain ⟨hstage, hrest⟩ := hopen
      rw [List.foldl_cons, List.getLastD_cons]
      by_cases hsame : stage = first
      · -- The run is in the stage already.
        subst hsame
        have hstay : advance (stage, front ++ [stage]) stage = (stage, front ++ [stage]) :=
          if_pos (.inl rfl)
        rw [hstay, ih front stage hrest, List.destutter'_cons_neg _ (by simp)]
      · have hgo : advance (stage, front ++ [stage]) first =
            (first, (front ++ [stage]) ++ [first]) :=
          if_neg (by simp [hsame, hstage])
        rw [hgo, ih (front ++ [stage]) first hrest, List.destutter'_cons_pos _ hsame,
          List.append_assoc]
        rfl

/-- A stage that did not occur before is never a repeat. -/
theorem destutter'_append_of_notMem (passed : List Stage) (stage : Stage) (next : Stage)
    (later : List Stage) (hnew : next ∉ stage :: passed) :
    (passed ++ next :: later).destutter' (· ≠ ·) stage =
      passed.destutter' (· ≠ ·) stage ++ later.destutter' (· ≠ ·) next := by
  induction passed generalizing stage with
  | nil =>
      have hne : stage ≠ next := fun h => hnew (h ▸ List.mem_cons_self)
      rw [List.nil_append, List.destutter'_cons_pos _ hne]
      rfl
  | cons first rest ih =>
      -- A repeat is dropped on both sides, and the stage behind all of them never is one.
      by_cases hsame : stage = first
      · subst hsame
        rw [List.cons_append, List.destutter'_cons_neg _ (by simp),
          List.destutter'_cons_neg _ (by simp)]
        exact ih stage fun h => hnew (List.mem_cons_of_mem _ h)
      · rw [List.cons_append, List.destutter'_cons_pos _ hsame, List.destutter'_cons_pos _ hsame,
          ih first fun h => hnew (List.mem_cons_of_mem _ h)]
        rfl

/-- The stage of a step is neither the first stage nor an end. -/
theorem ne_pending_of_stage? {kind : StepKind} {stage : Stage} (h : kind.stage? = some stage) :
    stage ≠ .pending ∧ stage.isTerminal = false := by
  cases kind <;> cases h <;> decide

/-- From the beginning through the stages of some steps to an end, the history is the first stage,
the stages of the steps without repeats, and the end. -/
theorem foldl_advance_stages {kinds : List StepKind} {first : Stage} {later : List Stage}
    (hpending : first ≠ .pending) (hfirst : ∀ kind : StepKind, kind.stage? ≠ some first)
    (hopen : ∀ passed ∈ (first :: later).dropLast, passed.isTerminal = false)
    (hlater : later.destutter' (· ≠ ·) first = first :: later) :
    (kinds.filterMap StepKind.stage? ++ first :: later).foldl advance (.pending, [.pending]) =
      (later.getLastD first, .pending ::
        (kinds.filterMap StepKind.stage?).destutter (· ≠ ·) ++ first :: later) := by
  have hstages : ∀ stage ∈ kinds.filterMap StepKind.stage?,
      stage ≠ .pending ∧ stage.isTerminal = false ∧ stage ≠ first := by
    intro stage hstage
    obtain ⟨kind, -, hkind⟩ := List.mem_filterMap.mp hstage
    obtain ⟨hne, hgoes⟩ := ne_pending_of_stage? hkind
    exact ⟨hne, hgoes, fun h => hfirst kind (h ▸ hkind)⟩
  generalize kinds.filterMap StepKind.stage? = stages at hstages
  have hnew : first ∉ Stage.pending :: stages := by
    rw [List.mem_cons]
    rintro (h | h)
    · exact hpending h
    · exact (hstages first h).2.2 rfl
  -- The first stage is none of those of the steps, so it stands alone in front.
  have hfront : stages.destutter' (· ≠ ·) .pending = .pending :: stages.destutter (· ≠ ·) := by
    cases stages with
    | nil => rfl
    | cons stage rest =>
        exact List.destutter'_cons_pos _ (hstages stage List.mem_cons_self).1.symm
  have hgoes : ∀ passed ∈ (Stage.pending :: (stages ++ first :: later)).dropLast,
      passed.isTerminal = false := by
    rw [← List.cons_append, List.dropLast_append_of_ne_nil (List.cons_ne_nil _ _)]
    intro passed hpassed
    rcases List.mem_append.mp hpassed with hpassed | hpassed
    · rcases List.mem_cons.mp hpassed with rfl | hpassed
      · rfl
      · exact (hstages passed hpassed).2.1
    · exact hopen passed hpassed
  have hfold := foldl_advance (stages ++ first :: later) [] .pending hgoes
  rw [destutter'_append_of_notMem stages .pending first later hnew, hfront, hlater] at hfold
  refine hfold.trans ?_
  have hlast : (stages ++ first :: later).getLastD .pending = later.getLastD first := by
    simp [List.getLastD_eq_getLast?, List.getLast?_cons]
  rw [hlast]
  rfl

/-- A run that fails behind some steps. -/
theorem foldl_advance_failed (kinds : List StepKind) (kind : FailureKind) :
    (kinds.filterMap StepKind.stage? ++ [Stage.failed kind]).foldl advance (.pending, [.pending]) =
      (.failed kind, .pending :: (kinds.filterMap StepKind.stage?).destutter (· ≠ ·) ++
        [.failed kind]) := by
  have hfirst : ∀ step : StepKind, step.stage? ≠ some (.failed kind) := by
    intro step
    cases step <;> exact nofun
  have hpending : Stage.failed kind ≠ .pending := nofun
  have hopen : ∀ passed ∈ [Stage.failed kind].dropLast, passed.isTerminal = false := nofun
  exact foldl_advance_stages hpending hfirst hopen rfl

/-- A run that is collected behind some steps, and done. -/
theorem foldl_advance_done (kinds : List StepKind) :
    (kinds.filterMap StepKind.stage? ++ [Stage.collected, .done]).foldl advance
        (.pending, [.pending]) =
      (.done, .pending :: (kinds.filterMap StepKind.stage?).destutter (· ≠ ·) ++
        [.collected, .done]) := by
  have hfirst : ∀ step : StepKind, step.stage? ≠ some .collected := by
    intro step
    cases step <;> exact nofun
  have hpending : Stage.collected ≠ .pending := nofun
  have hopen : ∀ passed ∈ [Stage.collected, .done].dropLast, passed.isTerminal = false := by decide
  exact foldl_advance_stages hpending hfirst hopen rfl

end ReleasePipeline.Proofs
