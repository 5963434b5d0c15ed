import Mathlib.Algebra.GroupWithZero.Nat
import ReleasePipeline.RunId
import ReleasePipeline.Proofs.Json.Forms

/-!
# `ReleasePipeline.Proofs.RunId`: an identifier is read from its own text

`ofText?_text` is the main statement. It needs that cutting a text into groups and taking the
hyphens out again loses nothing, for groups of any sizes that fit into the text.
-/

set_option autoImplicit false

namespace ReleasePipeline.Proofs

open RunId (hyphenate unhyphenate groups digitChar digitOf? ofDigits? ofBare? ofGrouped? ofText?)

/-- Hyphens that were put in can be taken out again. -/
theorem unhyphenate_hyphenate {sizes : List Nat} {text : List Char}
    (h : sizes.sum ≤ text.length) : unhyphenate sizes (hyphenate sizes text) = some text := by
  induction sizes generalizing text with
  | nil => rfl
  | cons size rest ih =>
      cases rest with
      | nil => rfl
      | cons next more =>
          rw [List.sum_cons] at h
          -- The first group is cut off at its size, and the hyphen stands right behind it.
          have hsize : (text.take size).length = size := by
            rw [List.length_take]
            omega
          have hrest : (next :: more).sum ≤ (text.drop size).length := by
            rw [List.length_drop]
            omega
          rw [hyphenate, unhyphenate, List.drop_left' hsize, List.take_left' hsize]
          · show ((unhyphenate (next :: more) (hyphenate (next :: more) (text.drop size))).map
              (text.take size ++ ·)) = some text
            rw [ih hrest, Option.map_some, List.take_append_drop]
          · intro h
            cases h
          · intro h
            cases h

/-- There is a hyphen between every two groups. -/
theorem length_hyphenate {sizes : List Nat} {text : List Char} (h : sizes.sum ≤ text.length) :
    (hyphenate sizes text).length = text.length + (sizes.length - 1) := by
  induction sizes generalizing text with
  | nil => rfl
  | cons size rest ih =>
      -- A hyphen stands behind each part but the last one.
      cases rest with
      | nil => rfl
      | cons next more =>
          rw [List.sum_cons] at h
          have hrest : (next :: more).sum ≤ (text.drop size).length := by
            rw [List.length_drop]
            omega
          have hlength := ih hrest
          rw [hyphenate, List.length_append, List.length_cons, hlength, List.length_take,
            List.length_drop, List.length_cons]
          · simp only [List.length_cons]
            omega
          · intro h
            cases h

/-- The character of a digit is read as the digit. -/
theorem digitOf?_digitChar : ∀ digit : Fin 16, digitOf? (digitChar digit) = some digit := by
  decide

/-- The characters of digits are read as the digits. -/
theorem mapM_digitOf? (digits : List (Fin 16)) :
    (digits.map digitChar).mapM digitOf? = some digits := by
  induction digits with
  | nil => rfl
  | cons digit rest ih =>
      rw [List.map_cons, List.mapM_cons, digitOf?_digitChar, ih]
      rfl

/-- An identifier is read from its own text. -/
theorem ofText?_text (id : RunId) : ofText? id.text = some id := by
  have hsum : groups.sum ≤ (id.digits.map digitChar).length := by
    rw [List.length_map, id.length_digits]
    decide
  -- With its hyphens an identifier has the length at which it is read in groups.
  have hlength : id.text.length = 36 := by
    rw [RunId.text, length_hyphenate hsum, List.length_map, id.length_digits]
    rfl
  have hbare : ofBare? (id.digits.map digitChar) = some id := by
    unfold ofBare? ofDigits?
    rw [mapM_digitOf?]
    exact dif_pos id.length_digits
  have hgrouped : ofGrouped? id.text = some id := by
    unfold ofGrouped? RunId.text
    rw [unhyphenate_hyphenate hsum]
    exact hbare
  unfold ofText?
  rw [hlength, if_neg (by decide), if_pos rfl]
  exact hgrouped

instance : LawfulForm RunId where
  inRange _ := trivial
  reads id := by
    show (match ofText? (String.ofList id.text).toList with
      | some id => Except.ok id
      | none => .error Fault.wrongShape) = .ok id
    rw [String.toList_ofList, ofText?_text]

end ReleasePipeline.Proofs
