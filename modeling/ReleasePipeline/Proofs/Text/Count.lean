import ReleasePipeline.Proofs.Text.Decimal
import ReleasePipeline.Proofs.Text.Lines

/-!
# `ReleasePipeline.Proofs.Text.Count`: which texts are counts

A count is perhaps a plus sign, and then some digits whose value fits into 64 bits. `readCount`
reads exactly these texts (`readCount_eq_ok`). It gives up as soon as the value is too large,
which is in order because more digits only make it greater. A value that a person gave may have
blanks around its count (`HoldsCount`), and they are trimmed before it is read
(`readCount_trim_eq_ok`).
-/

set_option autoImplicit false

namespace ReleasePipeline.Proofs

open Text (isBlank trim trimEnd readCount readDigits maxCount valueOfDigits)

/-! ### Reading a count -/

/-- A text is a count: perhaps a plus sign, then digits, with a value that fits into 64 bits. -/
def IsCount (text : List Char) (n : Nat) : Prop :=
  ∃ digits, (text = digits ∨ text = '+' :: digits) ∧ digits ≠ [] ∧
    (∀ c ∈ digits, c.isDigit = true) ∧ valueOfDigits digits = n ∧ n ≤ 2 ^ 64 - 1

/-- Digits are read behind a value if all that follow are digits, and the value of all of them
fits. -/
theorem readDigits_eq_ok {value n : Nat} {text : List Char} (hvalue : value ≤ maxCount) :
    readDigits value text = .ok n ↔
      (∀ c ∈ text, c.isDigit = true) ∧ valueBehind value text = n ∧ n ≤ maxCount := by
  induction text generalizing value with
  | nil =>
      constructor
      · rintro ⟨⟩
        exact ⟨List.forall_mem_nil _, rfl, hvalue⟩
      · rintro ⟨-, rfl, -⟩
        rfl
  | cons c rest ih =>
      rw [readDigits, List.forall_mem_cons, valueBehind_cons]
      by_cases hdigit : c.isDigit = true
      · rw [if_pos hdigit, and_iff_right hdigit]
        by_cases hnext : value * 10 + Text.digitValue c ≤ maxCount
        · simp only [if_pos hnext]
          exact ih hnext
        · simp only [if_neg hnext]
          -- A value that is too large already is no smaller behind more digits.
          refine ⟨nofun, ?_⟩
          rintro ⟨-, rfl, hfits⟩
          exact absurd (Nat.le_trans (le_valueBehind _ rest) hfits) hnext
      · rw [if_neg hdigit]
        exact ⟨nofun, fun h => absurd h.1.1 hdigit⟩

/-- What is read is a count, and every count is read. -/
theorem readCount_eq_ok {text : List Char} {n : Nat} : readCount text = .ok n ↔ IsCount text n := by
  -- A sign is no digit, so a text is a count with a sign or one without, and never both.
  have hplus : ('+' : Char).isDigit = false := by decide
  have hread : ∀ digits : List Char, readDigits 0 digits = .ok n ↔
      (∀ c ∈ digits, c.isDigit = true) ∧ valueOfDigits digits = n ∧ n ≤ 2 ^ 64 - 1 :=
    fun digits => readDigits_eq_ok (Nat.zero_le _)
  unfold IsCount
  unfold readCount
  split
  · -- The empty text is no count, with or without a sign.
    refine ⟨nofun, ?_⟩
    rintro ⟨digits, rfl | h, hsome, -⟩
    · exact absurd rfl hsome
    · cases h
  · refine ⟨nofun, ?_⟩
    rintro ⟨digits, rfl | h, hsome, hall, -⟩
    · rw [hall '+' List.mem_cons_self] at hplus
      cases hplus
    · exact absurd (List.cons.inj h).2.symm hsome
  · next rest hrest =>
    rw [hread]
    constructor
    · exact fun h => ⟨rest, .inr rfl, hrest, h⟩
    · rintro ⟨digits, rfl | h, -, hall, hvalue⟩
      · rw [hall '+' List.mem_cons_self] at hplus
        cases hplus
      · rw [(List.cons.inj h).2]
        exact ⟨hall, hvalue⟩
  · next hnil hsingle hcons =>
    rw [hread]
    constructor
    · exact fun h => ⟨text, .inl rfl, hnil, h⟩
    · rintro ⟨digits, rfl | h, -, hvalue⟩
      · exact hvalue
      · exact absurd h (hcons digits)

/-! ### Blanks around a count -/

/-- A text is what is left of it, with the blanks around it that are trimmed. -/
theorem exists_append_trim_append (text : List Char) :
    ∃ front back, text = front ++ trim text ++ back ∧ ∀ c ∈ front ++ back, isBlank c = true := by
  obtain ⟨back, hback, hblank⟩ := exists_trimEnd_append (text.dropWhile isBlank)
  refine ⟨text.takeWhile isBlank, back, ?_, ?_⟩
  · calc text = text.takeWhile isBlank ++ text.dropWhile isBlank :=
          List.takeWhile_append_dropWhile.symm
      _ = text.takeWhile isBlank ++ (trim text ++ back) :=
        congrArg (text.takeWhile isBlank ++ ·) hback
      _ = text.takeWhile isBlank ++ trim text ++ back := (List.append_assoc _ _ _).symm
  · exact List.forall_mem_append.mpr ⟨fun c hc => List.mem_takeWhile_imp hc, hblank⟩

/-- Where no blank is in the middle, the blanks around it are all that is trimmed. -/
theorem trim_append_append {front inner back : List Char} (hsome : inner ≠ [])
    (hinner : ∀ c ∈ inner, isBlank c = false) (hblank : ∀ c ∈ front ++ back, isBlank c = true) :
    trim (front ++ inner ++ back) = inner := by
  obtain ⟨hfront, hback⟩ := List.forall_mem_append.mp hblank
  -- From either side, trimming stops where the middle begins.
  have hstop : ∀ {middle : List Char}, middle ≠ [] → (∀ c ∈ middle, isBlank c = false) →
      ∀ rest, (middle ++ rest).dropWhile isBlank = middle ++ rest := by
    intro middle hne hall rest
    cases middle with
    | nil => exact absurd rfl hne
    | cons c more =>
        rw [List.cons_append, List.dropWhile_cons_of_neg]
        rw [hall c List.mem_cons_self]
        exact Bool.false_ne_true
  have hlast := hstop (mt List.reverse_eq_nil_iff.mp hsome)
    (fun c hc => hinner c (List.mem_reverse.mp hc)) []
  rw [List.append_nil] at hlast
  unfold trim trimEnd
  rw [List.append_assoc, List.dropWhile_append_of_pos hfront, hstop hsome hinner,
    List.reverse_append,
    List.dropWhile_append_of_pos fun c hc => hback c (List.mem_reverse.mp hc), hlast,
    List.reverse_reverse]

/-- There is no blank in a count. -/
theorem IsCount.not_isBlank {text : List Char} {n : Nat} (h : IsCount text n) :
    text ≠ [] ∧ ∀ c ∈ text, isBlank c = false := by
  obtain ⟨digits, hform, hsome, hall, -⟩ := h
  have hdigits : ∀ c ∈ digits, isBlank c = false := fun c hc => not_isBlank_of_isDigit (hall c hc)
  rcases hform with rfl | rfl
  · exact ⟨hsome, hdigits⟩
  · exact ⟨List.cons_ne_nil _ _, List.forall_mem_cons.mpr ⟨by decide, hdigits⟩⟩

/-- A value holds a count: there are blanks around it, and nothing else. -/
def HoldsCount (value : String) (n : Nat) : Prop :=
  ∃ front inner back, value.toList = front ++ inner ++ back ∧
    (∀ c ∈ front ++ back, isBlank c = true) ∧ IsCount inner n

/-- What is read of a trimmed value is the count that it holds. -/
theorem readCount_trim_eq_ok {value : String} {n : Nat} :
    readCount (trim value.toList) = .ok n ↔ HoldsCount value n := by
  rw [readCount_eq_ok]
  constructor
  · intro h
    obtain ⟨front, back, hsplit, hblank⟩ := exists_append_trim_append value.toList
    exact ⟨front, _, back, hsplit, hblank, h⟩
  · rintro ⟨front, inner, back, hsplit, hblank, hcount⟩
    obtain ⟨hsome, hinner⟩ := hcount.not_isBlank
    rw [hsplit, trim_append_append hsome hinner hblank]
    exact hcount

end ReleasePipeline.Proofs
