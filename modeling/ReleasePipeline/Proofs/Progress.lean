import ReleasePipeline.Proofs.Execution.Trail

/-!
# `ReleasePipeline.Proofs.Progress`: the history of a run that may be told to enter any stage

`Progress.enter` refuses nothing: a run may be told at any time to enter any stage. What keeps its
history in order are the two cases in which it does nothing. `HistoryInOrder` is what is true of
every history, and entering a stage preserves it (`HistoryInOrder.enter`), since a stage is only
added behind one that is another and no end.

`history_of_run` says this of all sequences of stages. It also says which history they make: that
of the stages up to the first end (`upToEnd`), without those that repeat their predecessor. What
is behind the first end is ignored.
-/

set_option autoImplicit false

namespace ReleasePipeline.Proofs

section
variable {progress : Progress} {next : Stage}

/-- A history in order: it goes from the first stage to the one that the run is in, no stage
stands behind itself, and only the last one may be an end. -/
structure HistoryInOrder (progress : Progress) : Prop where
  begins : progress.history.head? = some .pending
  ends : progress.history.getLast? = some progress.stage
  noRepeats : progress.history.IsChain (· ≠ ·)
  goesOn : ∀ passed ∈ progress.history.dropLast, passed.isTerminal = false

/-- A run that is in a stage, or at an end, stays as it is. -/
theorem enter_of_stays (h : progress.stage = next ∨ progress.stage.isTerminal = true) :
    progress.enter next = progress :=
  if_pos h

/-- Any other run is in the stage from then on, and its history has one entry more. -/
theorem enter_of_goes (h : ¬ (progress.stage = next ∨ progress.stage.isTerminal = true)) :
    progress.enter next =
      { progress with stage := next, history := progress.history ++ [next] } :=
  if_neg h

/-- A history grows by one stage at most, and keeps all that it has. -/
theorem history_enter (progress : Progress) (next : Stage) :
    (progress.enter next).history = progress.history ∨
      (progress.enter next).history = progress.history ++ [next] := by
  by_cases h : progress.stage = next ∨ progress.stage.isTerminal = true
  · exact .inl (by rw [enter_of_stays h])
  · exact .inr (by rw [enter_of_goes h])

/-- The history of a run that has not begun. -/
theorem HistoryInOrder.start (runId : RunId) (os : String) :
    HistoryInOrder (.start runId os) where
  begins := rfl
  ends := rfl
  noRepeats := List.isChain_singleton _
  goesOn := List.forall_mem_nil _

/-- Whatever stage a run is told to enter, its history stays in order. -/
theorem HistoryInOrder.enter (h : HistoryInOrder progress) (next : Stage) :
    HistoryInOrder (progress.enter next) := by
  by_cases hstays : progress.stage = next ∨ progress.stage.isTerminal = true
  · rw [enter_of_stays hstays]
    exact h
  · rw [enter_of_goes hstays]
    obtain ⟨hother, hopen⟩ := not_or.mp hstays
    obtain ⟨front, hhistory⟩ := List.getLast?_eq_some_iff.mp h.ends
    constructor
    · show (progress.history ++ [next]).head? = some .pending
      rw [List.head?_append, h.begins]
      rfl
    · exact List.getLast?_concat
    · -- The new stage stands behind the one that the run was in, which is another.
      refine List.isChain_append.mpr ⟨h.noRepeats, List.isChain_singleton next, ?_⟩
      intro last hlast first hfirst
      obtain rfl : progress.stage = last := Option.some_inj.mp (h.ends.symm.trans hlast)
      obtain rfl : next = first := Option.some_inj.mp hfirst
      exact hother
    · intro passed hpassed
      replace hpassed : passed ∈ progress.history := by simpa using hpassed
      rw [hhistory] at hpassed
      rcases List.mem_append.mp hpassed with hfront | hlast
      · exact h.goesOn passed (by rwa [hhistory, List.dropLast_concat])
      · rw [List.mem_singleton.mp hlast]
        exact Bool.not_eq_true _ ▸ hopen

/-- So it does for any number of stages. -/
theorem HistoryInOrder.foldl_enter (h : HistoryInOrder progress) (targets : List Stage) :
    HistoryInOrder (targets.foldl Progress.enter progress) := by
  induction targets generalizing progress with
  | nil => exact h
  | cons next rest ih => exact ih (h.enter next)

/-- Nothing leads on from an end. -/
theorem foldl_enter_of_terminal (h : progress.stage.isTerminal = true) (later : List Stage) :
    later.foldl Progress.enter progress = progress := by
  induction later with
  | nil => rfl
  | cons next rest ih => rw [List.foldl_cons, enter_of_stays (.inr h), ih]

end

/-! ### Which history it is -/

/-- The stages up to the first one that is an end. -/
def upToEnd : List Stage → List Stage
  | [] => []
  | next :: rest => if next.isTerminal then [next] else next :: upToEnd rest

/-- Only the last of them may be an end. -/
theorem goesOn_upToEnd (targets : List Stage) :
    ∀ passed ∈ (upToEnd targets).dropLast, passed.isTerminal = false := by
  induction targets with
  | nil => exact List.forall_mem_nil _
  | cons next rest ih =>
      unfold upToEnd
      cases hend : next.isTerminal with
      | true => exact List.forall_mem_nil _
      | false =>
          cases hrest : upToEnd rest with
          | nil => exact List.forall_mem_nil _
          | cons first others =>
              rw [hrest] at ih
              exact List.forall_mem_cons.mpr ⟨hend, ih⟩

/-- What is behind the first end is ignored. -/
theorem foldl_enter_upToEnd (targets : List Stage) (progress : Progress) :
    targets.foldl Progress.enter progress = (upToEnd targets).foldl Progress.enter progress := by
  induction targets generalizing progress with
  | nil => rfl
  | cons next rest ih =>
      unfold upToEnd
      cases hend : next.isTerminal with
      | false => exact ih (progress.enter next)
      | true =>
          -- The run is at an end now, be it this one or one that it had come to before.
          have hended : (progress.enter next).stage.isTerminal = true := by
            unfold Progress.enter
            split
            · next hstays => exact hstays.elim (fun heq => heq ▸ hend) id
            · exact hend
          exact foldl_enter_of_terminal hended rest

/-- Entering stages one by one advances the trail one by one. -/
theorem trail_foldl_enter (targets : List Stage) (progress : Progress) :
    trail (targets.foldl Progress.enter progress) = targets.foldl advance (trail progress) :=
  (List.foldl_hom trail fun progress next => (trail_enter progress next).symm).symm

/-- The history of a run are the stages up to the first end, without repeats. -/
theorem history_foldl_enter (runId : RunId) (os : String) (targets : List Stage) :
    (targets.foldl Progress.enter (.start runId os)).history =
      (.pending :: upToEnd targets).destutter (· ≠ ·) := by
  have hopen : ∀ passed ∈ (Stage.pending :: upToEnd targets).dropLast,
      passed.isTerminal = false := by
    cases hend : upToEnd targets with
    | nil => exact List.forall_mem_nil _
    | cons first others =>
        exact List.forall_mem_cons.mpr ⟨rfl, hend ▸ goesOn_upToEnd targets⟩
  have htrail := (trail_foldl_enter (upToEnd targets) (.start runId os)).trans
    (foldl_advance (upToEnd targets) [] .pending hopen)
  rw [foldl_enter_upToEnd]
  exact congrArg Prod.snd htrail

/-- **The history of a run is in order.** Told to enter any stages in any order, a run has a
history that goes from the first stage to the one it is in, in which no stage stands behind itself
and only the last one may be an end. It is made of the stages up to the first end, without
repeats. Each further stage adds one entry at most and leaves the others alone, and from an end on
none changes anything. -/
theorem history_of_run (runId : RunId) (os : String) (targets : List Stage) :
    let progress := targets.foldl Progress.enter (.start runId os)
    HistoryInOrder progress ∧
    progress.history = (.pending :: upToEnd targets).destutter (· ≠ ·) ∧
    (∀ next, (progress.enter next).history = progress.history ∨
      (progress.enter next).history = progress.history ++ [next]) ∧
    (progress.stage.isTerminal = true →
      ∀ later : List Stage, later.foldl Progress.enter progress = progress) :=
  ⟨(HistoryInOrder.start runId os).foldl_enter targets, history_foldl_enter runId os targets,
    history_enter _, foldl_enter_of_terminal⟩

/-- A run that failed neither fails in another way nor gets done. -/
theorem history_of_failed_run :
    let progress := [.installing, .installing, .failed .lintViolation, .done].foldl Progress.enter
      (.start (.ofNat 1) "linux")
    progress.stage.isTerminal = true ∧
    HistoryInOrder progress ∧
    progress.history = [.pending, .installing, .failed .lintViolation] ∧
    [.failed .testFailure, .testing, .done].foldl Progress.enter progress = progress := by
  obtain ⟨horder, hhistory, -, hends⟩ := history_of_run (.ofNat 1) "linux"
    [.installing, .installing, .failed .lintViolation, .done]
  have hended : (([.installing, .installing, .failed .lintViolation, .done] : List Stage).foldl
      Progress.enter (.start (.ofNat 1) "linux")).stage.isTerminal = true := rfl
  exact ⟨hended, horder, hhistory, hends hended _⟩

end ReleasePipeline.Proofs
