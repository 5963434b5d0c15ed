import Mathlib.Data.List.Forall2
import Mathlib.Order.Defs.Unbundled

/-!
# `ReleasePipeline.Proofs.Support.State`: actions on a world that is a value

A pipeline is written for any monad. The proofs run it in `StateM`, where an action is a function
of the world. This module holds the `.run` equations of actions that follow each other.

`Moves R action` says that an action leads from each world to one that stands in a relation to it.
If the relation is a preorder, such actions can be put together in every way, so it is followed
through a whole run by naming what each part leads to. `Keeps view action` is the case where a
view of the world is left as it was.

A world may be made larger, to have an account of what is done in it. `Shadows view action other`
says that an action on the larger world does the same as one on the smaller world, as far as that
can be seen. Actions of which this holds can be put together as well.
-/

set_option autoImplicit false

namespace ReleasePipeline.Proofs

section
variable {σ τ α β γ : Type}

/-- Running one action after another threads the world through both. -/
theorem run_bind (action : StateM σ α) (next : α → StateM σ β) (world : σ) :
    (action >>= next).run world = (next (action.run world).1).run (action.run world).2 :=
  rfl

/-- The same where it is known what the first action does. -/
theorem run_bind_of {action : StateM σ α} {world after : σ} {a : α}
    (h : action.run world = (a, after)) (next : α → StateM σ β) :
    (action >>= next).run world = (next a).run after := by
  rw [run_bind, h]

/-- A choice that is settled does what was chosen. -/
theorem run_ite_of {p : Prop} [Decidable p] (h : p) (first second : StateM σ α) (world : σ) :
    (if p then first else second).run world = first.run world := by
  rw [if_pos h]

/-- A choice that is settled otherwise does the other thing. -/
theorem run_ite_of_not {p : Prop} [Decidable p] (h : ¬ p) (first second : StateM σ α) (world : σ) :
    (if p then first else second).run world = second.run world := by
  rw [if_neg h]

/-- Going through a list does the first element first. -/
theorem run_mapM_cons (action : α → StateM σ β) (a : α) (rest : List α) (world : σ) :
    ((a :: rest).mapM action).run world =
      ((((action a).run world).1 :: ((rest.mapM action).run ((action a).run world).2).1),
        ((rest.mapM action).run ((action a).run world).2).2) := by
  rw [List.mapM_cons]
  rfl

/-- One more element at the end is gone to last. -/
theorem run_mapM_concat (action : α → StateM σ β) (list : List α) (a : α) (world : σ) :
    ((list ++ [a]).mapM action).run world =
      (((list.mapM action).run world).1 ++ [((action a).run ((list.mapM action).run world).2).1],
        ((action a).run ((list.mapM action).run world).2).2) := by
  rw [List.mapM_append, List.mapM_cons, List.mapM_nil]
  rfl

/-- Going through a list for its effects does the first element first. -/
theorem run_forM_cons (action : α → StateM σ PUnit) (a : α) (rest : List α) (world : σ) :
    ((a :: rest).forM action).run world = (rest.forM action).run ((action a).run world).2 :=
  rfl

/-! ### What an action leads to -/

/-- An action leads from each world to one that stands in a relation to it. -/
def Moves (R : σ → σ → Prop) (action : StateM σ α) : Prop :=
  ∀ world, R world (action.run world).2

section
variable {R : σ → σ → Prop}

/-- What an action leads to is what its run leaves behind. -/
theorem Moves.of_run {action : StateM σ α} (h : Moves R action) {world after : σ} {a : α}
    (hrun : action.run world = (a, after)) : R world after := by
  have hafter := h world
  rw [hrun] at hafter
  exact hafter

/-- A choice leads where both of its ways do. -/
theorem Moves.ite (p : Prop) [Decidable p] {first second : StateM σ α} (hfirst : Moves R first)
    (hsecond : Moves R second) : Moves R (if p then first else second) := by
  split
  · exact hfirst
  · exact hsecond

variable [IsPreorder σ R]

/-- A result by itself leads nowhere else. -/
theorem moves_pure (a : α) : Moves R (pure a : StateM σ α) := by
  intro world
  exact Std.Refl.refl world

/-- Two actions follow each other, and so do the steps from world to world. -/
theorem Moves.bind {action : StateM σ α} {next : α → StateM σ β} (first : Moves R action)
    (second : ∀ a, Moves R (next a)) : Moves R (action >>= next) := by
  intro world
  rw [run_bind]
  exact IsTrans.trans _ _ _ (first world) (second _ _)

/-- Going through a list leads where each step does. -/
theorem moves_mapM {action : α → StateM σ β} {list : List α}
    (step : ∀ a ∈ list, Moves R (action a)) : Moves R (list.mapM action) := by
  induction list with
  | nil => exact moves_pure []
  | cons a rest ih =>
      obtain ⟨hfirst, hrest⟩ := List.forall_mem_cons.mp step
      intro world
      rw [run_mapM_cons]
      exact IsTrans.trans _ _ _ (hfirst world) (ih hrest _)

/-- Going through a list for its effects leads there as well. -/
theorem moves_forM {action : α → StateM σ PUnit} {list : List α}
    (step : ∀ a ∈ list, Moves R (action a)) : Moves R (list.forM action) := by
  induction list with
  | nil => exact moves_pure PUnit.unit
  | cons a rest ih =>
      obtain ⟨hfirst, hrest⟩ := List.forall_mem_cons.mp step
      intro world
      rw [run_forM_cons]
      exact IsTrans.trans _ _ _ (hfirst world) (ih hrest _)

end

/-! ### What an action keeps -/

/-- An action leaves a view of the world as it was. -/
def Keeps (view : σ → γ) (action : StateM σ α) : Prop :=
  ∀ world, view (action.run world).2 = view world

section
variable {view : σ → γ}

instance isPreorder_view : IsPreorder σ fun before after => view after = view before where
  refl _ := rfl
  trans _ _ _ first second := second.trans first

/-- To keep a view is to lead to worlds with the same one. -/
theorem Keeps.moves {action : StateM σ α} (h : Keeps view action) :
    Moves (fun before after => view after = view before) action :=
  h

end

/-! ### Actions on a larger world -/

/-- An action on a larger world has the same result as one on a smaller one, and does the same in
what can be seen of it. -/
def Shadows (view : τ → σ) (action : StateM σ α) (other : StateM τ α) : Prop :=
  ∀ start, (other.run start).1 = (action.run (view start)).1 ∧
    view (other.run start).2 = (action.run (view start)).2

section
variable {view : τ → σ}

/-- Returning something does nothing in either world. -/
theorem shadows_pure (a : α) : Shadows view (pure a : StateM σ α) (pure a : StateM τ α) :=
  fun _ => ⟨rfl, rfl⟩

/-- Actions that are shadowed can follow each other. -/
theorem Shadows.bind {action : StateM σ α} {other : StateM τ α} {next : α → StateM σ β}
    {otherNext : α → StateM τ β} (first : Shadows view action other)
    (second : ∀ a, Shadows view (next a) (otherNext a)) :
    Shadows view (action >>= next) (other >>= otherNext) := by
  intro start
  obtain ⟨hresult, hworld⟩ := first start
  rw [run_bind, run_bind, hresult, ← hworld]
  exact second _ _

/-- A choice that does not depend on the world is made in both alike. -/
theorem Shadows.ite (p : Prop) [Decidable p] {first second : StateM σ α}
    {otherFirst otherSecond : StateM τ α} (hfirst : Shadows view first otherFirst)
    (hsecond : Shadows view second otherSecond) :
    Shadows view (if p then first else second) (if p then otherFirst else otherSecond) := by
  split
  · exact hfirst
  · exact hsecond

/-- Going through a list is shadowed where each step is. -/
theorem shadows_mapM {action : α → StateM σ β} {other : α → StateM τ β}
    (step : ∀ a, Shadows view (action a) (other a)) (list : List α) :
    Shadows view (list.mapM action) (list.mapM other) := by
  induction list with
  | nil => exact shadows_pure []
  | cons a rest ih =>
      rw [List.mapM_cons, List.mapM_cons]
      exact (step a).bind fun _ => ih.bind fun _ => shadows_pure _

/-- Going through a list for its effects is shadowed as well. -/
theorem shadows_forM {action : α → StateM σ PUnit} {other : α → StateM τ PUnit}
    (step : ∀ a, Shadows view (action a) (other a)) (list : List α) :
    Shadows view (list.forM action) (list.forM other) := by
  induction list with
  | nil => exact shadows_pure _
  | cons a rest ih => exact (step a).bind fun _ => ih

/-- What is shadowed by something that is shadowed itself is shadowed in the largest world. -/
theorem Shadows.trans {υ : Type} {largest : υ → τ} {action : StateM σ α} {middle : StateM τ α}
    {other : StateM υ α} (first : Shadows view action middle)
    (second : Shadows largest middle other) :
    Shadows (fun world => view (largest world)) action other := by
  intro start
  obtain ⟨hresult, hworld⟩ := first (largest start)
  obtain ⟨hother, hlarge⟩ := second start
  exact ⟨hother.trans hresult, (congrArg view hlarge).trans hworld⟩

end

/-! ### What going through a list gives -/

/-- What holds of the result of each step holds of all results. -/
theorem forall₂_run_mapM {P : α → β → Prop} {action : α → StateM σ β} {list : List α}
    (step : ∀ a ∈ list, ∀ world, P a ((action a).run world).1) (world : σ) :
    List.Forall₂ P list ((list.mapM action).run world).1 := by
  induction list generalizing world with
  | nil => exact .nil
  | cons a rest ih =>
      obtain ⟨hfirst, hrest⟩ := List.forall_mem_cons.mp step
      rw [run_mapM_cons]
      exact .cons (hfirst world) (ih hrest _)

/-- What can be told of the result of each step without the world can be told of all results. -/
theorem map_run_mapM {seen : β → γ} {told : α → γ} {action : α → StateM σ β}
    (step : ∀ a world, seen ((action a).run world).1 = told a) (list : List α) (world : σ) :
    (((list.mapM action).run world).1).map seen = list.map told := by
  induction list generalizing world with
  | nil => rfl
  | cons a rest ih => rw [run_mapM_cons, List.map_cons, List.map_cons, step, ih]

/-- There is one result for each element. -/
theorem length_run_mapM (action : α → StateM σ β) (list : List α) (world : σ) :
    ((list.mapM action).run world).1.length = list.length :=
  (forall₂_run_mapM (P := fun _ _ => True) (fun _ _ _ => trivial) world).length_eq.symm

end

end ReleasePipeline.Proofs
