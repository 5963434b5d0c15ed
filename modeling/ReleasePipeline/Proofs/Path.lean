import Mathlib.Data.List.Basic
import ReleasePipeline.Path

/-!
# `ReleasePipeline.Proofs.Path`: where joined paths lead

`Path.join` adds text to a path, and `Path.resolve` says which place a path means.
`resolve_join_eq_resolve` is how the two fit together: what is joined to a path is followed from the
place of the path, however the path was written. It may be empty, absolute, or end in a separator.
A name that leads somewhere leads one step further (`resolve_join`).
-/

set_option autoImplicit false

namespace ReleasePipeline.Proofs

open ReleasePipeline.Path (enter resolve)
open Text (pieces)

/-- The pieces of a text are what it is split into at its separators. -/
theorem pieces_eq_splitOnP (isSeparator : Char → Bool) (text : List Char) :
    pieces isSeparator text = text.splitOnP isSeparator := by
  induction text with
  | nil => exact List.splitOnP_nil.symm
  | cons c rest ih =>
      rw [pieces, List.splitOnP_cons_eq_if_modifyHead, ih]
      -- There is always a first piece, which the character belongs to if it is no separator.
      cases hpieces : rest.splitOnP isSeparator with
      | nil => exact absurd hpieces (List.splitOnP_ne_nil _ _)
      | cons piece more => rfl

/-- The names of a path tell which path it is. -/
theorem names_injective {first second : String}
    (h : (Path.mk first).names = (Path.mk second).names) :
    first = second := by
  unfold Path.names at h
  rw [pieces_eq_splitOnP, pieces_eq_splitOnP] at h
  have hpieces : first.toList.splitOn '/' = second.toList.splitOn '/' :=
    List.map_injective_iff.mpr (fun _ _ hname => String.ofList_inj.mp hname) h
  refine String.toList_inj.mp ?_
  calc first.toList = ['/'].intercalate (first.toList.splitOn '/') :=
        (List.intercalate_splitOn '/').symm
    _ = ['/'].intercalate (second.toList.splitOn '/') := by rw [hpieces]
    _ = second.toList := List.intercalate_splitOn '/'

/-- The characters of two texts with a slash between them. -/
theorem toList_append_slash (first second : String) :
    (first ++ "/" ++ second).toList = first.toList ++ '/' :: second.toList := by
  rw [String.toList_append, String.toList_append, List.append_assoc]
  rfl

/-- Two texts with a slash between them have the names of both. -/
theorem names_append_slash (first second : String) :
    (Path.mk (first ++ "/" ++ second)).names = (Path.mk first).names ++ (Path.mk second).names := by
  unfold Path.names
  rw [toList_append_slash, pieces_eq_splitOnP, List.splitOnP_append_cons _ _ rfl, List.map_append,
    pieces_eq_splitOnP, pieces_eq_splitOnP]

/-- A separator at the end of a path has an empty name behind it. -/
theorem names_append_empty (text : String) :
    (Path.mk (text ++ "/")).names = (Path.mk text).names ++ [""] := by
  have htext : text ++ "/" = text ++ "/" ++ "" := String.append_empty.symm
  rw [htext, names_append_slash]
  rfl

/-- A name without a slash is a path of one name. -/
theorem names_of_name {name : String} (h : '/' ∉ name.toList) : (Path.mk name).names = [name] := by
  have hnone : ∀ c ∈ name.toList, (c == '/') = false := by
    intro c hc
    refine beq_eq_false_iff_ne.mpr ?_
    rintro rfl
    exact h hc
  unfold Path.names
  rw [pieces_eq_splitOnP, List.splitOnP_eq_singleton hnone, List.map_singleton,
    String.ofList_toList]

/-- A name does not start at the root. -/
theorem not_isAbsolute_of_name {name : String} (h : '/' ∉ name.toList) :
    (Path.mk name).isAbsolute = false := by
  refine beq_eq_false_iff_ne.mpr ?_
  intro hhead
  exact h (List.mem_of_mem_head? hhead)

/-- A name that leads somewhere: it is neither empty nor one of the two names with a meaning of
their own. -/
structure IsName (name : String) : Prop where
  noSlash : '/' ∉ name.toList
  notEmpty : name ≠ ""
  notDot : name ≠ "."
  notDots : name ≠ ".."

/-- Entering a name goes one place down. -/
theorem enter_of_isName {name : String} (h : IsName name) (place : List String) :
    enter place name = place ++ [name] := by
  unfold enter
  rw [if_neg (not_or.mpr ⟨h.notEmpty, h.notDot⟩), if_neg h.notDots]

/-- Entering the empty name stays, so that two slashes are as good as one. -/
theorem enter_empty (place : List String) : enter place "" = place := by
  unfold enter
  rw [if_pos (.inl rfl)]

/-- More text behind a path does not change where it starts from. -/
theorem isAbsolute_append {first : String} (h : first ≠ "") (second : String) :
    (Path.mk (first ++ second)).isAbsolute = (Path.mk first).isAbsolute := by
  have hnil : first.toList ≠ [] := mt String.toList_eq_nil_iff.mp h
  unfold Path.isAbsolute
  rw [String.toList_append]
  cases hfirst : first.toList with
  | nil => exact absurd hfirst hnil
  | cons c rest => rfl

/-- A relative path is joined to another behind a separator, which is the one at the end of that
path if there is one. Nothing stands in front of it where the other path is empty. -/
theorem join_cases {name : String} (h : (Path.mk name).isAbsolute = false) (base : Path) :
    base.text = "" ∧ base.join name = ⟨name⟩ ∨
      base.text ≠ "" ∧ ∃ front, (base.text = front ∨ base.text = front ++ "/") ∧
        base.join name = ⟨front ++ "/" ++ name⟩ := by
  obtain ⟨text⟩ := base
  unfold Path.join
  rw [h, if_neg Bool.false_ne_true]
  by_cases hempty : text = ""
  · subst hempty
    exact .inl ⟨rfl, congrArg Path.mk (String.empty_append)⟩
  · refine .inr ⟨hempty, ?_⟩
    -- A separator is put between the two texts unless the first one ends in it already.
    by_cases hlast : text.toList.getLast? = some '/'
    · obtain ⟨init, hinit⟩ := List.getLast?_eq_some_iff.mp hlast
      have htext : text = String.ofList init ++ "/" := by
        rw [← String.toList_inj, hinit, String.toList_append, String.toList_ofList]
        rfl
      refine ⟨String.ofList init, .inr htext, ?_⟩
      rw [hlast, beq_self_eq_true, Bool.or_true, if_pos rfl, ← htext]
    · refine ⟨text, .inl rfl, ?_⟩
      have hnotEmpty : text.isEmpty = false := by
        rw [← Bool.not_eq_true, String.isEmpty_iff]
        exact hempty
      rw [hnotEmpty, Bool.false_or, if_neg (by simpa using hlast)]

/-- A relative path joined to another is followed from where that one leads. -/
theorem resolve_join_of_relative {name : String} (h : (Path.mk name).isAbsolute = false)
    (base : Path) (from' : List String) :
    resolve from' (base.join name) = (Path.mk name).names.foldl enter (resolve from' base) := by
  obtain ⟨hempty, hjoin⟩ | ⟨hsome, front, htext, hjoin⟩ := join_cases h base
  · obtain ⟨text⟩ := base
    cases hempty
    have hbase : resolve from' ⟨""⟩ = from' := enter_empty from'
    rw [hjoin, hbase]
    unfold resolve
    rw [h, if_neg Bool.false_ne_true]
  · obtain ⟨text⟩ := base
    rw [hjoin]
    unfold resolve
    rw [names_append_slash, List.foldl_append]
    -- The separator at the end of the path is followed by an empty name, which leads nowhere.
    obtain rfl | rfl : text = front ∨ text = front ++ "/" := htext
    · rw [String.append_assoc, isAbsolute_append hsome]
    · rw [isAbsolute_append hsome, names_append_empty, List.foldl_append, List.foldl_cons,
        List.foldl_nil, enter_empty]

/-- A name joined to a path is its last name. -/
theorem exists_names_join {name : String} (h : '/' ∉ name.toList) (base : Path) :
    ∃ init, (base.join name).names = init ++ [name] := by
  obtain ⟨-, hjoin⟩ | ⟨-, front, -, hjoin⟩ := join_cases (not_isAbsolute_of_name h) base
  · exact ⟨[], by rw [hjoin, names_of_name h, List.nil_append]⟩
  · exact ⟨(Path.mk front).names, by rw [hjoin, names_append_slash, names_of_name h]⟩

/-- A path joined to another leads where it leads from there. -/
theorem resolve_join_eq_resolve (base : Path) (name : String) (from' : List String) :
    resolve from' (base.join name) = resolve (resolve from' base) ⟨name⟩ := by
  cases habsolute : (Path.mk name).isAbsolute with
  | true =>
      unfold Path.join
      rw [habsolute, if_pos rfl]
      unfold resolve
      rw [habsolute, if_pos rfl, if_pos rfl]
  | false =>
      rw [resolve_join_of_relative habsolute]
      unfold resolve
      rw [habsolute, if_neg Bool.false_ne_true]

/-- A name joined to a path is followed from the place of the path. -/
theorem resolve_join_eq_enter {name : String} (h : '/' ∉ name.toList) (base : Path)
    (from' : List String) : resolve from' (base.join name) = enter (resolve from' base) name := by
  rw [resolve_join_of_relative (not_isAbsolute_of_name h), names_of_name h]
  rfl

/-- A name joined to a path leads one step further, if it leads somewhere at all. -/
theorem resolve_join {name : String} (h : IsName name) (base : Path) (from' : List String) :
    resolve from' (base.join name) = resolve from' base ++ [name] := by
  rw [resolve_join_eq_enter h.noSlash, enter_of_isName h]

end ReleasePipeline.Proofs
