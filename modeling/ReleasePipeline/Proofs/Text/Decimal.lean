import Mathlib.Algebra.Group.Nat.Defs
import ReleasePipeline.Text.Blank
import ReleasePipeline.Text.Decimal

/-!
# `ReleasePipeline.Proofs.Text.Decimal`: digits that were written are read as the number they write

Everything that reads a decimal number folds its digits from the left, with `valueOfDigits`. Here
stands what such a reader needs to know of the digits of a number: that they are digits and that
there are some, how many there are, that no zero stands in front of others, and that their value
is the number, also behind the zeros that fill it up to a width. Numbers of one width stand in the
order of their digits (`paddedDigits_append_lt`).
-/

set_option autoImplicit false

namespace ReleasePipeline.Proofs

open Text (digits digitValue valueOfDigits paddedDigits)

/-- A digit stands between `0` and `9`. -/
theorem toNat_of_isDigit {c : Char} (h : c.isDigit = true) : 48 ≤ c.toNat ∧ c.toNat ≤ 57 :=
  Char.isDigit_iff_toNat.mp h

/-- The value of a digit is its distance from `0`. -/
theorem digitValue_add {c : Char} (h : c.isDigit = true) : digitValue c + 48 = c.toNat := by
  have hrange := toNat_of_isDigit h
  have hzero : '0'.toNat = 48 := rfl
  unfold digitValue
  omega

/-- A digit is not blank. -/
theorem not_isBlank_of_isDigit {c : Char} (h : c.isDigit = true) : Text.isBlank c = false := by
  have hrange := toNat_of_isDigit h
  simp only [Text.isBlank, Text.blankRanges, List.any_cons, List.any_nil, Bool.or_false,
    Bool.or_eq_false_iff, Bool.and_eq_false_iff, decide_eq_false_iff_not]
  omega

/-- The value of digits behind a value that was read before them. -/
def valueBehind (value : Nat) (text : List Char) : Nat :=
  text.foldl (fun value c => value * 10 + digitValue c) value

/-- The first digit comes first. -/
theorem valueBehind_cons (value : Nat) (c : Char) (rest : List Char) :
    valueBehind value (c :: rest) = valueBehind (value * 10 + digitValue c) rest := by
  unfold valueBehind
  rw [List.foldl_cons]

/-- Digits only make a number greater. -/
theorem le_valueBehind (value : Nat) (text : List Char) : value ≤ valueBehind value text := by
  induction text generalizing value with
  | nil => exact Nat.le_refl value
  | cons c rest ih =>
      have hnext : value ≤ value * 10 + digitValue c := by omega
      rw [valueBehind_cons]
      exact Nat.le_trans hnext (ih _)

/-- The value of digits is the one that core gives them. -/
theorem valueOfDigits_eq (text : List Char) :
    valueOfDigits text = Nat.ofDigitChars 10 text 0 := by
  rw [Nat.ofDigitChars_eq_foldl, valueOfDigits]
  congr 1
  funext value c
  rw [Nat.mul_comm, digitValue]

/-- The digits of a number have its value. -/
theorem valueOfDigits_digits (n : Nat) : valueOfDigits (digits n) = n := by
  rw [valueOfDigits_eq]
  exact Nat.ofDigitChars_ten_toDigits

/-- Zeros in front change no value. -/
theorem valueOfDigits_paddedDigits (width n : Nat) : valueOfDigits (paddedDigits width n) = n := by
  rw [valueOfDigits_eq, paddedDigits, Nat.ofDigitChars_append, Nat.ofDigitChars_replicate_zero,
    Nat.mul_zero]
  exact Nat.ofDigitChars_ten_toDigits

/-- The digits of a number are digits. -/
theorem isDigit_of_mem_digits {n : Nat} {c : Char} (h : c ∈ digits n) : c.isDigit = true :=
  Nat.isDigit_of_mem_toDigits (by decide) (by decide) h

/-- So are the zeros in front of them. -/
theorem isDigit_of_mem_paddedDigits {width n : Nat} {c : Char} (h : c ∈ paddedDigits width n) :
    c.isDigit = true := by
  rcases List.mem_append.mp h with hzero | hdigit
  · rw [List.eq_of_mem_replicate hzero]
    rfl
  · exact isDigit_of_mem_digits hdigit

/-- Every number has a digit. -/
theorem digits_ne_nil (n : Nat) : digits n ≠ [] :=
  Nat.toDigits_ne_nil

/-- Even the smallest number has a digit. -/
theorem paddedDigits_ne_nil (width n : Nat) : paddedDigits width n ≠ [] :=
  List.append_ne_nil_of_right_ne_nil _ (digits_ne_nil n)

/-- A number below a power of ten has no more digits than the power has zeros. -/
theorem length_digits_le {n width : Nat} (hwidth : 0 < width) (h : n < 10 ^ width) :
    (digits n).length ≤ width :=
  (Nat.length_toDigits_le_iff (by decide) hwidth).mpr h

/-- A number that is not too wide fills its width. -/
theorem length_paddedDigits {n width : Nat} (hwidth : 0 < width) (h : n < 10 ^ width) :
    (paddedDigits width n).length = width := by
  have hle := length_digits_le hwidth h
  rw [paddedDigits, List.length_append, List.length_replicate]
  omega

/-- A number of more than one digit does not begin with a zero. -/
theorem eq_nil_of_digits_eq_zero_cons {n : Nat} {rest : List Char} (h : digits n = '0' :: rest) :
    rest = [] := by
  induction n using Nat.strongRecOn generalizing rest with
  | ind n ih =>
      rw [digits, Nat.toDigits_eq_if (by decide)] at h
      split at h
      · exact (List.cons.inj h).2.symm
      · next hlarge =>
          -- The last digit stands behind those of the tenth part, which are not a single zero.
          cases hfront : digits (n / 10) with
          | nil => exact absurd hfront (digits_ne_nil _)
          | cons first more =>
              rw [← digits, hfront, List.cons_append] at h
              obtain ⟨rfl, -⟩ := List.cons.inj h
              have hmore := ih (n / 10) (by omega) hfront
              have hvalue := valueOfDigits_digits (n / 10)
              rw [hfront, hmore] at hvalue
              have hzero : n / 10 = 0 := hvalue.symm
              omega

/-! ### The order of numbers of one width -/

/-- The greater of two numbers stays the greater one behind which equally many digits are to
come. -/
theorem valueBehind_lt_valueBehind {v w : Nat} (hlt : v < w) {first second : List Char}
    (hdigits : ∀ c ∈ first, c.isDigit = true) (hlength : first.length = second.length) :
    valueBehind v first < valueBehind w second := by
  induction first generalizing v w second with
  | nil =>
      rw [List.eq_nil_of_length_eq_zero hlength.symm]
      exact hlt
  | cons c rest ih =>
      obtain ⟨hc, hrest⟩ := List.forall_mem_cons.mp hdigits
      cases second with
      | nil => exact absurd hlength (Nat.succ_ne_zero _)
      | cons d more =>
          -- A digit is worth less than a unit of the place in front of it.
          have hnext : v * 10 + digitValue c < w * 10 + digitValue d := by
            have hvalue := digitValue_add hc
            have hrange := toNat_of_isDigit hc
            omega
          rw [valueBehind_cons, valueBehind_cons]
          exact ih hnext hrest (Nat.succ.inj hlength)

/-- Of two texts that begin with equally many digits the one with the smaller number comes first. -/
theorem append_lt_append_of_valueBehind {v : Nat} {first second : List Char}
    (hfirst : ∀ c ∈ first, c.isDigit = true) (hsecond : ∀ c ∈ second, c.isDigit = true)
    (hlength : first.length = second.length)
    (hlt : valueBehind v first < valueBehind v second) (xs ys : List Char) :
    first ++ xs < second ++ ys := by
  induction first generalizing v second with
  | nil =>
      rw [List.eq_nil_of_length_eq_zero hlength.symm] at hlt
      exact absurd hlt (Nat.lt_irrefl _)
  | cons c rest ih =>
      obtain ⟨hc, hrest⟩ := List.forall_mem_cons.mp hfirst
      cases second with
      | nil => exact absurd hlength (Nat.succ_ne_zero _)
      | cons d more =>
          obtain ⟨hd, hmore⟩ := List.forall_mem_cons.mp hsecond
          have hlengths := Nat.succ.inj hlength
          rw [valueBehind_cons, valueBehind_cons] at hlt
          rw [List.cons_append, List.cons_append, List.cons_lt_cons_iff]
          rcases Nat.lt_trichotomy c.toNat d.toNat with hless | hsame | hgreater
          · exact Or.inl hless
          · rw [Char.toNat_inj.mp hsame] at hlt ⊢
            exact Or.inr ⟨rfl, ih hrest hmore hlengths hlt⟩
          · -- A greater digit in front would make the greater number.
            have hnext : v * 10 + digitValue d < v * 10 + digitValue c := by
              have hvalue := digitValue_add hc
              have hvalue' := digitValue_add hd
              omega
            have hback := valueBehind_lt_valueBehind hnext hmore hlengths.symm
            exact absurd hlt (Nat.lt_asymm hback)

/-- Texts that begin with numbers of one width stand in the order of the numbers, and behind equal
numbers in the order of what follows. -/
theorem paddedDigits_append_lt {width a b : Nat} (hwidth : 0 < width) (hb : b < 10 ^ width)
    {xs ys : List Char} (h : a < b ∨ a = b ∧ xs < ys) :
    paddedDigits width a ++ xs < paddedDigits width b ++ ys := by
  rcases h with hlt | ⟨rfl, hbehind⟩
  · have hlength : (paddedDigits width a).length = (paddedDigits width b).length := by
      rw [length_paddedDigits hwidth (Nat.lt_trans hlt hb), length_paddedDigits hwidth hb]
    have hvalue : valueBehind 0 (paddedDigits width a) < valueBehind 0 (paddedDigits width b) := by
      show valueOfDigits (paddedDigits width a) < valueOfDigits (paddedDigits width b)
      rw [valueOfDigits_paddedDigits, valueOfDigits_paddedDigits]
      exact hlt
    exact append_lt_append_of_valueBehind (fun _ => isDigit_of_mem_paddedDigits)
      (fun _ => isDigit_of_mem_paddedDigits) hlength hvalue xs ys
  · exact List.append_left_lt hbehind

/-- The same for texts in which a mark stands behind the numbers. -/
theorem paddedDigits_cons_lt {width a b : Nat} (hwidth : 0 < width) (hb : b < 10 ^ width)
    (mark : Char) {xs ys : List Char} (h : a < b ∨ a = b ∧ xs < ys) :
    paddedDigits width a ++ mark :: xs < paddedDigits width b ++ mark :: ys := by
  refine paddedDigits_append_lt hwidth hb ?_
  rcases h with hlt | ⟨hsame, hbehind⟩
  · exact Or.inl hlt
  · exact Or.inr ⟨hsame, List.cons_lt_cons_iff.mpr (Or.inr ⟨rfl, hbehind⟩)⟩

end ReleasePipeline.Proofs
