import ReleasePipeline.Proofs.Text.LineFeeds
import ReleasePipeline.Step

/-!
# `ReleasePipeline.Proofs.OutputTail`: the end of an output

Of the output of a failed step only the last lines are shown. They are cut out of the output and
joined by line feeds (`exists_lastLines`). Nothing is lost on the way: if there are no carriage
returns, what comes of it is the end of the output itself, from the beginning of a line on
(`output_tail_is_end`). The line feed that the output may end in is left out, as it is by
`dropEnd`.

The output is taken apart into the lines that are left out and those that are shown. Joined, they
are the output, and so what is shown is its end (`intercalate_suffix`), behind a line feed unless
all is shown.
-/

set_option autoImplicit false

namespace ReleasePipeline.Proofs

open Text (lines)

/-- The tail of an output is made of its last lines, as many as were asked for or as there are. -/
theorem exists_lastLines (result : StepResult) (count : Nat) :
    ∃ front last, lines result.output.toList = front ++ last ∧
      last.length = min count (lines result.output.toList).length ∧
      (result.outputTail count).toList = ['\n'].intercalate last := by
  let all := lines result.output.toList
  refine ⟨all.take (all.length - count), all.drop (all.length - count), ?_, ?_, ?_⟩
  · exact (List.take_append_drop _ all).symm
  · show (all.drop (all.length - count)).length = min count all.length
    rw [List.length_drop]
    omega
  · unfold StepResult.outputTail Text.linesOf
    rw [String.toList_intercalate, List.length_map, ← List.map_drop, List.map_map]
    simp [Function.comp_def, all]

/-- The last pieces, put together, are the end of all of them put together. -/
theorem intercalate_suffix {α : Type} (separator : List α) (front last : List (List α)) :
    separator.intercalate last <:+ separator.intercalate (front ++ last) := by
  by_cases hfront : front = []
  · simp [hfront]
  · by_cases hlast : last = []
    · simp [hlast]
    · rw [intercalate_append separator hfront hlast]
      exact List.suffix_append _ _

/-- **The tail of an output is its end.** For every output and every number of lines asked for,
the tail joins the last lines, as many as were asked for or as there are. If there is no carriage
return in the output, it is the end of the output without a line feed that it may end in: all of
it if no more lines are there than were asked for, and nothing if none were. Otherwise a line feed
stands right before it, and it has one less in it than lines were asked for. -/
theorem output_tail_is_end (result : StepResult) (count : Nat) :
    let text := result.output.toList
    let all := cutAtFeeds text
    let tail := (result.outputTail count).toList
    (∃ front last, all = front ++ last ∧ last.length = min count all.length ∧
      tail = ['\n'].intercalate last) ∧
    ('\r' ∉ text →
      let whole := dropEnd '\n' text
      tail <:+ whole ∧
      (all.length ≤ count → tail = whole) ∧
      (count = 0 → tail = []) ∧
      (0 < count → count < all.length →
        tail.count '\n' = count - 1 ∧ ∃ before, whole = before ++ '\n' :: tail)) := by
  intro text all tail
  obtain ⟨front, last, hsplit, hlength, htail⟩ := exists_lastLines result count
  rw [lines_eq_cutAtFeeds] at hsplit hlength
  replace hlength : last.length = min count all.length := hlength
  replace htail : tail = ['\n'].intercalate last := htail
  refine ⟨⟨front, last, hsplit, hlength, htail⟩, ?_⟩
  intro hreturn whole
  -- Without carriage returns, the lines that are left out and those that are shown make up the
  -- output.
  have hwhole : whole = ['\n'].intercalate (front ++ last) := by
    rw [← hsplit, ← lines_eq_cutAtFeeds]
    exact (intercalate_lines hreturn).symm
  have hall : all.length = front.length + last.length := by
    rw [← List.length_append, ← hsplit]
  rw [hwhole, htail]
  refine ⟨intercalate_suffix ['\n'] front last, ?_, ?_, ?_⟩
  · intro hmore
    have hfront : front = [] := List.eq_nil_of_length_eq_zero (by omega)
    rw [hfront, List.nil_append]
  · intro hnone
    have hlast : last = [] := List.eq_nil_of_length_eq_zero (by omega)
    rw [hlast, List.intercalate_nil]
  · intro hpos hless
    have hfront : front ≠ [] := List.ne_nil_of_length_pos (by omega)
    have hlast : last ≠ [] := List.ne_nil_of_length_pos (by omega)
    have hlines : ∀ line ∈ last, '\n' ∉ line := by
      intro line hline
      have hmem : line ∈ lines text := by
        rw [lines_eq_cutAtFeeds, hsplit]
        exact List.mem_append_right front hline
      exact notMem_of_mem_lines hmem
    refine ⟨?_, ['\n'].intercalate front, ?_⟩
    · rw [count_intercalate hlines]
      omega
    · simp [intercalate_append ['\n'] hfront hlast]

/-- The last two of four lines, of which the first is empty. -/
theorem output_tail_is_end_empty_line :
    let result : StepResult := ⟨.test, some 101, false, "running\nfailed\n\n1 error\n", 0⟩
    '\r' ∉ result.output.toList ∧
    2 < (cutAtFeeds result.output.toList).length ∧
    (result.outputTail 2).toList.count '\n' = 1 ∧
    (result.outputTail 2).toList <:+ "running\nfailed\n\n1 error".toList ∧
    (result.outputTail 4).toList = "running\nfailed\n\n1 error".toList := by
  intro result
  have hreturn : '\r' ∉ result.output.toList := by decide
  have hless : 2 < (cutAtFeeds result.output.toList).length := by decide
  have hwhole : dropEnd '\n' result.output.toList = "running\nfailed\n\n1 error".toList := by decide
  obtain ⟨-, htwo⟩ := output_tail_is_end result 2
  obtain ⟨-, hfour⟩ := output_tail_is_end result 4
  obtain ⟨hsuffix, -, -, hfeeds⟩ := htwo hreturn
  obtain ⟨-, hall, -⟩ := hfour hreturn
  rw [← hwhole]
  exact ⟨hreturn, hless, (hfeeds (by decide) hless).1, hsuffix, hall (by decide)⟩

end ReleasePipeline.Proofs
