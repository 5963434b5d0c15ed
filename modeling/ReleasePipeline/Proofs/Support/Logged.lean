import ReleasePipeline.Proofs.Support.State

/-!
# `ReleasePipeline.Proofs.Support.Logged`: actions that are written down

A statement about the order of the things that are asked of the world needs a list of them. `Logged`
puts such a list beside the world. `logging` does an action and adds one entry to the list, made of
the world as it was and of the result. `unlogged` does an action and adds nothing.

Writing things down changes nothing else: an action is shadowed by its logged form.
-/

set_option autoImplicit false

namespace ReleasePipeline.Proofs

/-- A world with a log of what was asked of it. -/
structure Logged (ε σ : Type) where
  world : σ
  /-- The entries, oldest first. -/
  log : List ε

section
variable {ε σ α β : Type}

/-- Does in the world what the log says nothing about. -/
def unlogged (action : StateM σ α) : StateM (Logged ε σ) α := fun logged =>
  ((action.run logged.world).1, { logged with world := (action.run logged.world).2 })

/-- Does something in the world and adds an entry about it. -/
def logging (entry : σ → α → ε) (action : StateM σ α) : StateM (Logged ε σ) α := fun logged =>
  ((action.run logged.world).1,
    ⟨(action.run logged.world).2, logged.log ++ [entry logged.world (action.run logged.world).1]⟩)

/-- What follows an action that is written down goes on with some result, and the entry tells of
it. -/
theorem run_logging_bind (entry : σ → α → ε) (action : StateM σ α) (world : σ) (log : List ε) :
    ∃ a after, ∀ next : α → StateM (Logged ε σ) β,
      (logging entry action >>= next).run ⟨world, log⟩ =
      (next a).run ⟨after, log ++ [entry world a]⟩ :=
  ⟨(action.run world).1, (action.run world).2, fun _ => rfl⟩

/-! ### What is not written down -/

/-- Two actions that add nothing add nothing one after the other. -/
theorem unlogged_bind (action : StateM σ α) (next : α → StateM σ β) :
    (unlogged (action >>= next) : StateM (Logged ε σ) β) =
      unlogged action >>= fun a => unlogged (next a) :=
  rfl

/-- Going through a list adds nothing where no step does. -/
theorem unlogged_mapM (action : α → StateM σ β) (list : List α) :
    (list.mapM fun a => unlogged (action a) : StateM (Logged ε σ) (List β)) =
      unlogged (list.mapM action) := by
  induction list with
  | nil => rfl
  | cons a rest ih =>
      rw [List.mapM_cons, List.mapM_cons, ih]
      rfl

/-! ### What is written down is what happens -/

/-- An action that is written down is the action. -/
theorem shadows_logging (entry : σ → α → ε) (action : StateM σ α) :
    Shadows Logged.world action (logging entry action) :=
  fun _ => ⟨rfl, rfl⟩

/-- So is one that is not. -/
theorem shadows_unlogged (action : StateM σ α) :
    Shadows Logged.world action (unlogged action : StateM (Logged ε σ) α) :=
  fun _ => ⟨rfl, rfl⟩

end

end ReleasePipeline.Proofs
