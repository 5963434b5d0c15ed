import Mathlib.Data.List.TakeWhile
import ReleasePipeline.Proofs.Text.LineFeeds
import ReleasePipeline.Text.Blank

/-!
# `ReleasePipeline.Proofs.Text.Lines`: what is written on the lines of a text

Texts are trimmed and put together before they are read line by line. This makes a difference to
their lines: the blanks at the end of the last one go, empty lines come and go with them, and a
carriage return is an ordinary character at the end of a text and not in front of a line feed.

`inked` is what makes no difference: the lines that hold more than blanks, each without the blanks
at its end. Blanks behind a text ink nothing (`inked_append_blanks`), so a text and the trimmed
text have the same inked lines (`inked_trimEnd`), and those of two texts with a line feed between
them are those of the first and then those of the second (`inked_append_feed`). Both go from line
to line, by `inked_line_feed`.
-/

set_option autoImplicit false

namespace ReleasePipeline.Proofs

open Text (isBlank trimEnd lines)

/-! ### Blanks at the end -/

/-- A text without its last blanks, and the blanks that it ended in. -/
theorem exists_trimEnd_append (text : List Char) :
    ∃ blanks, text = trimEnd text ++ blanks ∧ ∀ c ∈ blanks, isBlank c = true := by
  refine ⟨(text.reverse.takeWhile isBlank).reverse, ?_, ?_⟩
  · unfold trimEnd
    rw [← List.reverse_append, List.takeWhile_append_dropWhile, List.reverse_reverse]
  · intro c hc
    exact List.mem_takeWhile_imp (List.mem_reverse.mp hc)

/-- One more blank at the end is trimmed as well. -/
theorem trimEnd_concat {c : Char} (hc : isBlank c = true) (text : List Char) :
    trimEnd (text ++ [c]) = trimEnd text := by
  simp [trimEnd, hc]

/-! ### One line -/

/-- What is written on a line: nothing if it is blank, and else the line without its last blanks. -/
def ink (line : List Char) : List (List Char) :=
  if line.all isBlank then [] else [trimEnd line]

/-- A blank at the end of a line makes no difference to what is written there. -/
theorem ink_concat {c : Char} (hc : isBlank c = true) (line : List Char) :
    ink (line ++ [c]) = ink line := by
  simp [ink, trimEnd_concat hc, hc]

/-- So it does not matter if one is left off there. -/
theorem ink_dropEnd {c : Char} (hc : isBlank c = true) (line : List Char) :
    ink (dropEnd c line) = ink line := by
  unfold dropEnd
  split
  · next hlast =>
      obtain ⟨front, rfl⟩ := List.getLast?_eq_some_iff.mp hlast
      rw [List.dropLast_concat, ink_concat hc]
  · rfl

/-! ### All lines -/

/-- What is written on the lines of a text: those that are not blank, without the blanks at their
ends. -/
def inked (text : List Char) : List (List Char) :=
  ((lines text).filter fun line => !line.all isBlank).map trimEnd

/-- The lines of a text are gone through one after the other. -/
theorem inked_eq_flatMap (text : List Char) : inked text = (lines text).flatMap ink := by
  unfold inked
  induction lines text with
  | nil => rfl
  | cons line rest ih =>
      rw [List.flatMap_cons, ← ih, List.filter_cons, ink]
      cases line.all isBlank <;> rfl

/-- What is written on a text without a line feed is written on one line. -/
theorem inked_of_no_feed {text : List Char} (h : '\n' ∉ text) : inked text = ink text := by
  rw [inked_eq_flatMap, lines_of_no_feed h]
  cases text with
  | nil => rfl
  | cons c rest => simp

/-- What is written in front of a line feed, and behind it. -/
theorem inked_line_feed {line : List Char} (h : '\n' ∉ line) (rest : List Char) :
    inked (line ++ '\n' :: rest) = ink line ++ inked rest := by
  -- The carriage return that the line may lose is a blank.
  rw [inked_eq_flatMap, lines_line_feed h, List.flatMap_cons, ← inked_eq_flatMap,
    ink_dropEnd (by decide)]

/-- What is written on two texts with a line feed between them. -/
theorem inked_append_feed (first second : List Char) :
    inked (first ++ '\n' :: second) = inked first ++ inked second := by
  induction first using line_induction with
  | last line h => rw [inked_line_feed h, inked_of_no_feed h]
  | feed line rest h ih =>
      rw [List.append_assoc, List.cons_append, inked_line_feed h, ih, inked_line_feed h,
        List.append_assoc]

/-- A blank behind a text, be it a line feed or not, adds nothing that is written. -/
theorem inked_concat {c : Char} (hc : isBlank c = true) (text : List Char) :
    inked (text ++ [c]) = inked text := by
  by_cases hfeed : c = '\n'
  · subst hfeed
    rw [inked_append_feed]
    simp [inked, lines]
  · induction text using line_induction with
    | last line h =>
        have hall : '\n' ∉ line ++ [c] := by
          simp [h, Ne.symm hfeed]
        rw [inked_of_no_feed hall, inked_of_no_feed h, ink_concat hc]
    | feed line rest h ih =>
        rw [List.append_assoc, List.cons_append, inked_line_feed h, inked_line_feed h, ih]

/-- Nor do several blanks behind it. -/
theorem inked_append_blanks {blanks : List Char} (h : ∀ c ∈ blanks, isBlank c = true)
    (text : List Char) : inked (text ++ blanks) = inked text := by
  induction blanks generalizing text with
  | nil => rw [List.append_nil]
  | cons c rest ih =>
      rw [List.forall_mem_cons] at h
      rw [List.append_cons, ih h.2, inked_concat h.1]

/-- Trimming a text takes nothing away that is written on it. -/
theorem inked_trimEnd (text : List Char) : inked (trimEnd text) = inked text := by
  obtain ⟨blanks, htext, hblanks⟩ := exists_trimEnd_append text
  calc inked (trimEnd text) = inked (trimEnd text ++ blanks) :=
        (inked_append_blanks hblanks (trimEnd text)).symm
    _ = inked text := by rw [← htext]

end ReleasePipeline.Proofs
