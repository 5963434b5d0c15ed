import Mathlib.Data.List.Basic
import ReleasePipeline.Text.Lines

/-!
# `ReleasePipeline.Proofs.Text.LineFeeds`: texts as they are cut at line feeds

The lines of a text are read off from its front. Here they are told by the text as a whole
(`lines_eq_cutAtFeeds`): it is cut at its line feeds, every piece in front of a feed is a line but
for one carriage return at its end, and the piece behind the last feed is a line if there is
anything in it.

Texts are gone through line by line (`line_induction`): a text is one line, or a line, a line feed
and the rest of the text. What the lines of these are is said by `lines_of_no_feed` and
`lines_line_feed`.

Putting the lines of a text together again gives the text back, if it has no carriage returns
(`intercalate_lines`). Only a line feed at its end is missing, since nothing says that there was
one.
-/

set_option autoImplicit false

namespace ReleasePipeline.Proofs

open Text (lines consLine)

/-! ### A character at the end -/

/-- A text without the given character at its end, if it has it there. -/
def dropEnd (c : Char) (text : List Char) : List Char :=
  if text.getLast? = some c then text.dropLast else text

/-- The character at the end is dropped. -/
theorem dropEnd_concat (c : Char) (text : List Char) : dropEnd c (text ++ [c]) = text := by
  simp [dropEnd]

/-- A text that does not have the character loses nothing. -/
theorem dropEnd_of_notMem {c : Char} {text : List Char} (h : c ∉ text) : dropEnd c text = text := by
  unfold dropEnd
  rw [if_neg]
  intro hlast
  exact h (List.mem_of_getLast? hlast)

/-- Only the end of a text counts. -/
theorem dropEnd_append {text : List Char} (h : text ≠ []) (c : Char) (front : List Char) :
    dropEnd c (front ++ text) = front ++ dropEnd c text := by
  simp only [dropEnd, List.getLast?_append_of_ne_nil front h, List.dropLast_append_of_ne_nil h]
  split <;> rfl

/-- Dropping adds no character. -/
theorem mem_of_mem_dropEnd {c d : Char} {text : List Char} (h : d ∈ dropEnd c text) : d ∈ text := by
  unfold dropEnd at h
  split at h
  · exact (List.dropLast_sublist text).subset h
  · exact h

/-! ### Line by line -/

/-- A text is one line, or a line, a line feed and the rest of the text. -/
theorem line_induction {motive : List Char → Prop} (text : List Char)
    (last : ∀ line, '\n' ∉ line → motive line)
    (feed : ∀ line rest, '\n' ∉ line → motive rest → motive (line ++ '\n' :: rest)) :
    motive text := by
  induction hlength : text.length using Nat.strongRecOn generalizing text with
  | _ length ih =>
      by_cases h : '\n' ∈ text
      · obtain ⟨line, rest, rfl, hline⟩ := List.eq_append_cons_of_mem h
        refine feed line rest hline (ih rest.length ?_ rest rfl)
        simp only [← hlength, List.length_append, List.length_cons]
        omega
      · exact last text h

/-- A text without line feeds is one line, or none if there is nothing in it. -/
theorem lines_of_no_feed {text : List Char} (h : '\n' ∉ text) :
    lines text = if text = [] then [] else [text] := by
  induction text with
  | nil => rfl
  | cons c rest ih =>
      simp only [List.mem_cons, not_or] at h
      obtain ⟨hc, hrest⟩ := h
      have hcons : lines (c :: rest) = consLine c (lines rest) := by
        -- A carriage return would only count in front of a line feed.
        rw [lines]
        · exact fun h => hc h.symm
        · rintro tail - rfl
          simp at hrest
      rw [hcons, ih hrest]
      cases rest <;> rfl

/-- The line in front of a line feed loses a carriage return, and the lines behind it follow. -/
theorem lines_line_feed {line : List Char} (h : '\n' ∉ line) (rest : List Char) :
    lines (line ++ '\n' :: rest) = dropEnd '\r' line :: lines rest := by
  induction line with
  | nil => simp [lines, dropEnd]
  | cons c more ih =>
      simp only [List.mem_cons, not_or] at h
      obtain ⟨hc, hmore⟩ := h
      -- A carriage return goes with the line feed if nothing stands between them.
      by_cases hreturn : c = '\r' ∧ more = []
      · obtain ⟨rfl, rfl⟩ := hreturn
        simp [lines, dropEnd]
      · have hcons : lines (c :: more ++ '\n' :: rest) =
            consLine c (lines (more ++ '\n' :: rest)) := by
          rw [List.cons_append, lines]
          · exact fun h => hc h.symm
          · intro tail hr htail
            cases more with
            | nil => exact hreturn ⟨hr, rfl⟩
            | cons d _ =>
                rw [List.cons_append] at htail
                exact hmore ((List.cons.inj htail).1 ▸ List.mem_cons_self)
        have hend : dropEnd '\r' (c :: more) = c :: dropEnd '\r' more := by
          cases more with
          | nil =>
              have hother : c ≠ '\r' := fun h => hreturn ⟨h, rfl⟩
              simp [dropEnd, hother]
          | cons d others => exact dropEnd_append (List.cons_ne_nil d others) '\r' [c]
        rw [hcons, ih hmore, hend]
        rfl

/-- No line has a line feed in it. -/
theorem notMem_of_mem_lines {text line : List Char} (h : line ∈ lines text) : '\n' ∉ line := by
  induction text using line_induction with
  | last text hno =>
      rw [lines_of_no_feed hno] at h
      split at h
      · simp at h
      · rwa [List.mem_singleton.mp h]
  | feed first rest hfirst ih =>
      rw [lines_line_feed hfirst] at h
      rcases List.mem_cons.mp h with rfl | hrest
      · exact fun hmem => hfirst (mem_of_mem_dropEnd hmem)
      · exact ih hrest

/-! ### All lines at once -/

/-- A text cut at its line feeds. Each piece in front of a feed loses one carriage return at its
end, and the piece behind the last feed goes if it is empty. -/
def cutAtFeeds (text : List Char) : List (List Char) :=
  let pieces := text.splitOn '\n'
  pieces.dropLast.map (dropEnd '\r') ++ pieces.getLast?.toList.filter (· ≠ [])

/-- Without a line feed a text is one piece, which goes if it is empty. -/
theorem cutAtFeeds_of_no_feed {text : List Char} (h : '\n' ∉ text) :
    cutAtFeeds text = if text = [] then [] else [text] := by
  unfold cutAtFeeds
  rw [List.splitOn_eq_singleton h]
  cases text <;> simp

/-- The first piece ends at the first line feed. -/
theorem cutAtFeeds_line_feed {line : List Char} (h : '\n' ∉ line) (rest : List Char) :
    cutAtFeeds (line ++ '\n' :: rest) = dropEnd '\r' line :: cutAtFeeds rest := by
  unfold cutAtFeeds
  rw [List.splitOn_append_cons_self_of_not_mem h]
  cases hpieces : rest.splitOn '\n' with
  | nil => exact absurd hpieces (List.splitOn_ne_nil '\n' rest)
  | cons piece pieces => simp

/-- The lines of a text are its pieces between line feeds. -/
theorem lines_eq_cutAtFeeds (text : List Char) : lines text = cutAtFeeds text := by
  induction text using line_induction with
  | last line h => rw [lines_of_no_feed h, cutAtFeeds_of_no_feed h]
  | feed line rest h ih => rw [lines_line_feed h, cutAtFeeds_line_feed h, ih]

/-! ### Lines put together again -/

/-- Only the empty text has no line. -/
theorem lines_eq_nil_iff (text : List Char) : lines text = [] ↔ text = [] := by
  induction text using line_induction with
  | last line h => simp [lines_of_no_feed h]
  | feed line rest h _ => simp [lines_line_feed h]

/-- A text without carriage returns is its lines with line feeds between them, but for a line feed
at its end. -/
theorem intercalate_lines {text : List Char} (h : '\r' ∉ text) :
    ['\n'].intercalate (lines text) = dropEnd '\n' text := by
  induction text using line_induction with
  | last line hno =>
      rw [lines_of_no_feed hno, dropEnd_of_notMem hno]
      split
      · next hnil => simp [hnil]
      · simp
  | feed line rest hno ih =>
      simp only [List.mem_append, List.mem_cons, not_or] at h
      obtain ⟨hline, -, hrest⟩ := h
      rw [lines_line_feed hno, dropEnd_of_notMem hline]
      -- A line feed at the end of the text has no line behind it, and is the one that is dropped.
      by_cases hnil : rest = []
      · subst hnil
        rw [(lines_eq_nil_iff []).mpr rfl, List.intercalate_singleton, dropEnd_concat]
      · have hlines : lines rest ≠ [] := mt (lines_eq_nil_iff rest).mp hnil
        rw [List.intercalate_cons_of_ne_nil hlines, ih hrest, List.append_cons line '\n' rest,
          dropEnd_append hnil]

/-- A separator stands between two lists that are put together. -/
theorem intercalate_append {α : Type} (separator : List α) {first second : List (List α)}
    (hfirst : first ≠ []) (hsecond : second ≠ []) :
    separator.intercalate (first ++ second) =
      separator.intercalate first ++ separator ++ separator.intercalate second := by
  induction first with
  | nil => exact absurd rfl hfirst
  | cons piece rest ih =>
      by_cases hrest : rest = []
      · subst hrest
        simp [List.intercalate_cons_of_ne_nil hsecond]
      · rw [List.cons_append, List.intercalate_cons_of_ne_nil (by simp [hsecond]), ih hrest,
          List.intercalate_cons_of_ne_nil hrest]
        simp only [List.append_assoc]

/-- Pieces without a character have as many of it between them as there are gaps. -/
theorem count_intercalate {c : Char} {pieces : List (List Char)} (h : ∀ piece ∈ pieces, c ∉ piece) :
    ([c].intercalate pieces).count c = pieces.length - 1 := by
  induction pieces with
  | nil => rfl
  | cons piece rest ih =>
      obtain ⟨hpiece, hpieces⟩ := List.forall_mem_cons.mp h
      have hcount : piece.count c = 0 := List.count_eq_zero.mpr hpiece
      by_cases hrest : rest = []
      · simp [hrest, hcount]
      · have hlength : 0 < rest.length := List.length_pos_of_ne_nil hrest
        rw [List.intercalate_cons_of_ne_nil hrest, List.count_append, List.count_append, hcount,
          ih hpieces, List.count_singleton_self, List.length_cons]
        omega

end ReleasePipeline.Proofs
