/-!
# `ReleasePipeline.Bindings`: names bound to texts, in the order of the names

The variables handed to every tool, and the static-link toggles of a configuration, are a set of
names with one value each. They are shown, written and passed on in the order of their names,
so the order is part of the type: every name is smaller than the names after it, and no name
occurs twice.
-/

set_option autoImplicit false

namespace ReleasePipeline

/-- Whether the names of a list of bindings ascend. -/
def Ascending (entries : List (String × String)) : Prop :=
  entries.Pairwise fun a b => a.1 < b.1

/-- Names bound to texts. -/
structure Bindings where
  entries : List (String × String)
  ascending : Ascending entries

namespace Bindings

/-- Two sets of bindings with the same entries are the same. -/
@[ext] theorem ext {a b : Bindings} (h : a.entries = b.entries) : a = b := by
  cases a; cases b; cases h; rfl

instance : DecidableEq Bindings := fun a b =>
  decidable_of_iff (a.entries = b.entries) ⟨ext, fun h => h ▸ rfl⟩

/-- Binds a name in a list of bindings; an earlier value of the name is replaced. -/
def place (name value : String) : List (String × String) → List (String × String)
  | [] => [(name, value)]
  | (other, old) :: rest =>
    if name < other then (name, value) :: (other, old) :: rest
    else if other < name then (other, old) :: place name value rest
    else (name, value) :: rest

/-- What is bound afterwards is the new binding or was bound before. -/
theorem mem_place {name value : String} {entries : List (String × String)} {e : String × String}
    (h : e ∈ place name value entries) : e = (name, value) ∨ e ∈ entries := by
  induction entries with
  | nil => simpa [place] using h
  | cons head rest ih =>
    obtain ⟨other, old⟩ := head
    simp only [place] at h
    split at h
    · simpa using h
    · split at h
      · rcases List.mem_cons.1 h with h | h
        · exact .inr (by simp [h])
        · exact (ih h).imp id (List.mem_cons_of_mem _)
      · rcases List.mem_cons.1 h with h | h
        · exact .inl h
        · exact .inr (List.mem_cons_of_mem _ h)

/-- Names stay in ascending order, so that none is bound twice. -/
theorem ascending_place (name value : String) {entries : List (String × String)}
    (h : Ascending entries) : Ascending (place name value entries) := by
  induction entries with
  | nil => simp [place, Ascending]
  | cons head rest ih =>
    obtain ⟨other, old⟩ := head
    obtain ⟨hhead, hrest⟩ := List.pairwise_cons.1 h
    simp only [place]
    split
    next hlt =>
      refine List.pairwise_cons.2 ⟨fun e he => ?_, h⟩
      rcases List.mem_cons.1 he with rfl | he
      · exact hlt
      · exact String.lt_trans hlt (hhead e he)
    next hnot =>
      split
      next hgt =>
        refine List.pairwise_cons.2 ⟨fun e he => ?_, ih hrest⟩
        rcases mem_place he with rfl | he
        · exact hgt
        · exact hhead e he
      next hnot' =>
        -- Neither name is smaller, so it is one name, and the new value takes the old one's place.
        have same : name = other := String.le_antisymm hnot' hnot
        exact List.pairwise_cons.2 ⟨fun e he => same ▸ hhead e he, hrest⟩

/-- Binds a name; an earlier value of the name is replaced. -/
def insert (bindings : Bindings) (name value : String) : Bindings :=
  ⟨place name value bindings.entries, ascending_place name value bindings.ascending⟩

/-- No bindings at all. -/
def empty : Bindings :=
  ⟨[], List.Pairwise.nil⟩

/-- The bindings of a list; of two values of one name the later one counts. -/
def ofList (entries : List (String × String)) : Bindings :=
  entries.foldl (fun bindings entry => bindings.insert entry.1 entry.2) empty

/-- The value bound to a name. -/
def get? (bindings : Bindings) (name : String) : Option String :=
  bindings.entries.lookup name

end Bindings
end ReleasePipeline
