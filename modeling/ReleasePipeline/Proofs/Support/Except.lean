/-!
# `ReleasePipeline.Proofs.Support.Except`: steps that may be refused

What may be refused is an `Except`, and a result of several steps says that none of them was. Each
lemma here takes one step off such a result, so that a function is read from its first step to its
last one.
-/

set_option autoImplicit false

namespace ReleasePipeline.Proofs

section
variable {ε α β : Type}

/-- Two steps have a result when both have one. -/
theorem bind_eq_ok {first : Except ε α} {next : α → Except ε β} {b : β} :
    first >>= next = .ok b ↔ ∃ a, first = .ok a ∧ next a = .ok b := by
  cases first with
  | error error => exact ⟨nofun, fun ⟨_, h, _⟩ => nomatch h⟩
  | ok a =>
      constructor
      · intro h
        exact ⟨a, rfl, h⟩
      · rintro ⟨_, ha, h⟩
        cases ha
        exact h

/-- There is an error where there is no result. -/
theorem exists_error_iff {result : Except ε α} :
    (∃ error, result = .error error) ↔ ¬ ∃ a, result = .ok a := by
  cases result with
  | error error => exact ⟨fun _ => nofun, fun _ => ⟨error, rfl⟩⟩
  | ok a => exact ⟨nofun, fun h => absurd ⟨a, rfl⟩ h⟩

/-- What is made of a result is there when the result is. -/
theorem map_eq_ok {result : Except ε α} {make : α → β} {b : β} :
    result.map make = .ok b ↔ ∃ a, result = .ok a ∧ make a = b := by
  cases result with
  | error error => exact ⟨nofun, fun ⟨_, h, _⟩ => nomatch h⟩
  | ok a =>
      constructor
      · rintro ⟨⟩
        exact ⟨a, rfl, rfl⟩
      · rintro ⟨_, ⟨⟩, rfl⟩
        rfl

/-- A test that refuses is passed where there is a result. -/
theorem ite_error_eq_ok {p : Prop} [Decidable p] {error : ε} {rest : Except ε α} {a : α} :
    (if p then .error error else rest) = .ok a ↔ ¬ p ∧ rest = .ok a := by
  by_cases h : p
  · rw [if_pos h]
    exact ⟨nofun, fun hrest => absurd h hrest.1⟩
  · rw [if_neg h]
    exact ⟨fun hrest => ⟨h, hrest⟩, fun hrest => hrest.2⟩

end

end ReleasePipeline.Proofs
