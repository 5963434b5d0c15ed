import ReleasePipeline.Time.Rfc3339
import ReleasePipeline.Proofs.Json.Forms
import ReleasePipeline.Proofs.Text.Decimal
import ReleasePipeline.Proofs.Time.Calendar

/-!
# `ReleasePipeline.Proofs.Time.Rfc3339`: a time stamp is read as the instant it was written for

`read_write` holds for every instant, in years of any sign and length and in leap seconds too. The
reader is more lenient than the writer: it skips blanks and takes shorter numbers. So each part of a
written stamp is shown to be taken whole, given what stands behind it.
-/

set_option autoImplicit false

namespace ReleasePipeline.Proofs

open Text (digits paddedDigits valueOfDigits isBlank)
open Rfc3339 (skipBlanks takeDigits number year mark fraction separator zone fractionText write)

/-- What stands behind a number in a time stamp: the end, or a character that is no digit. -/
def Breaks : List Char → Prop
  | [] => True
  | c :: _ => c.isDigit = false

/-- Where no blank stands nothing is skipped. -/
theorem skipBlanks_cons {c : Char} (h : isBlank c = false) (rest : List Char) :
    skipBlanks (c :: rest) = c :: rest := by
  rw [skipBlanks, List.dropWhile_cons, h]
  rfl

/-- Digits are taken up to what stands behind them, as long as there are not too many. -/
theorem takeDigits_append {limit : Nat} {text rest : List Char}
    (hdigits : ∀ c ∈ text, c.isDigit = true) (hlength : text.length ≤ limit)
    (hrest : Breaks rest) :
    takeDigits limit (text ++ rest) = (text, rest) := by
  induction text generalizing limit with
  | nil =>
      -- Either the limit is used up, or what stands behind the digits stops the reader.
      cases limit with
      | zero => rw [Rfc3339.takeDigits.eq_def]; rfl
      | succ limit =>
          cases rest with
          | nil => rw [Rfc3339.takeDigits.eq_def]; rfl
          | cons c more =>
              have hc : c.isDigit = false := hrest
              rw [List.nil_append, takeDigits, hc]
              rfl
  | cons c more ih =>
      obtain ⟨hc, hmore⟩ := List.forall_mem_cons.mp hdigits
      cases limit with
      | zero => exact absurd hlength (Nat.not_succ_le_zero _)
      | succ limit =>
          rw [List.cons_append, takeDigits, ih hmore (Nat.le_of_succ_le_succ hlength), hc]
          rfl

/-- A number that fills a width is read as the number, if the width is not too much. -/
theorem number_paddedDigits {limit width n : Nat} (hlength : (paddedDigits width n).length ≤ limit)
    {rest : List Char} (hrest : Breaks rest) :
    number limit (paddedDigits width n ++ rest) = some (n, rest) := by
  have hall : ∀ c ∈ paddedDigits width n, c.isDigit = true := fun c => isDigit_of_mem_paddedDigits
  have htake := takeDigits_append hall hlength hrest
  have hvalue := valueOfDigits_paddedDigits width n
  cases htext : paddedDigits width n with
  | nil => exact absurd htext (paddedDigits_ne_nil width n)
  | cons first more =>
      rw [htext] at htake hvalue hall
      rw [List.cons_append] at htake ⊢
      unfold number
      rw [skipBlanks_cons (not_isBlank_of_isDigit (hall first List.mem_cons_self)), htake]
      simp only [hvalue]

/-- A number of two digits is read as the number. -/
theorem number_two {n : Nat} (h : n < 100) {rest : List Char} (hrest : Breaks rest) :
    number 2 (paddedDigits 2 n ++ rest) = some (n, rest) :=
  number_paddedDigits (Nat.le_of_eq (length_paddedDigits (by decide) h)) hrest

/-- The digits behind the sign of a year are all read. -/
theorem signed_paddedDigits (sign : Int) (n : Nat) {rest : List Char} (hrest : Breaks rest) :
    year.signed sign (paddedDigits 4 n ++ rest) = some (sign * n, rest) := by
  have hall : ∀ c ∈ paddedDigits 4 n, c.isDigit = true := fun c => isDigit_of_mem_paddedDigits
  -- Behind a sign a year may have any number of digits, so the limit is the text itself.
  have hlength : (paddedDigits 4 n).length ≤ (paddedDigits 4 n ++ rest).length := by
    rw [List.length_append]
    exact Nat.le_add_right _ _
  have htake := takeDigits_append hall hlength hrest
  have hvalue := valueOfDigits_paddedDigits 4 n
  unfold year.signed
  rw [htake]
  cases htext : paddedDigits 4 n with
  | nil => exact absurd htext (paddedDigits_ne_nil 4 n)
  | cons first more =>
      rw [htext] at hvalue
      simp only [hvalue]

/-- A year is read from its own text. -/
theorem year_yearText (y : Int) {rest : List Char} (hrest : Breaks rest) :
    year (Date.yearText y ++ rest) = some (y, rest) := by
  unfold Date.yearText
  by_cases hfour : 0 ≤ y ∧ y ≤ 9999
  · have hlength : (paddedDigits 4 y.toNat).length ≤ 4 :=
      Nat.le_of_eq (length_paddedDigits (by decide) (by omega))
    have hnumber := number_paddedDigits hlength hrest
    have hcast : (y.toNat : Int) = y := Int.toNat_of_nonneg hfour.1
    rw [if_pos hfour]
    cases htext : paddedDigits 4 y.toNat with
    | nil => exact absurd htext (paddedDigits_ne_nil 4 _)
    | cons first more =>
        have hfirst : first.isDigit = true :=
          isDigit_of_mem_paddedDigits (htext ▸ List.mem_cons_self)
        rw [htext, List.cons_append] at hnumber
        unfold year
        rw [List.cons_append, skipBlanks_cons (not_isBlank_of_isDigit hfirst)]
        -- A digit is neither of the two signs, so the year is read without one.
        split
        · next heq =>
            obtain ⟨rfl, -⟩ := List.cons.inj heq
            exact absurd hfirst (by decide)
        · next heq =>
            obtain ⟨rfl, -⟩ := List.cons.inj heq
            exact absurd hfirst (by decide)
        · rw [hnumber]
          show some ((y.toNat : Int), rest) = some (y, rest)
          rw [hcast]
  · rw [if_neg hfour, List.cons_append]
    by_cases hneg : y < 0
    · -- A year with a sign is read as the sign times the digits.
      have habs : -1 * (y.natAbs : Int) = y := by omega
      have hsigned := signed_paddedDigits (-1) y.natAbs hrest
      rw [habs] at hsigned
      rw [if_pos hneg]
      unfold year
      rw [skipBlanks_cons (by decide)]
      exact hsigned
    · have habs : 1 * (y.natAbs : Int) = y := by omega
      have hsigned := signed_paddedDigits 1 y.natAbs hrest
      rw [habs] at hsigned
      rw [if_neg hneg]
      unfold year
      rw [skipBlanks_cons (by decide)]
      exact hsigned

/-- A mark that is no blank is read where it stands. -/
theorem mark_cons {c : Char} (h : isBlank c = false) (rest : List Char) :
    mark c (c :: rest) = some rest := by
  unfold mark
  rw [skipBlanks_cons h]
  exact if_pos rfl

/-- Digits behind a point are read as a fraction of as many digits. -/
theorem fraction_paddedDigits {width n : Nat} (hwidth : 0 < width ∧ width ≤ 9)
    (hn : n < 10 ^ width) {rest : List Char} (hrest : Breaks rest) :
    fraction ('.' :: (paddedDigits width n ++ rest)) = some (n * 10 ^ (9 - width), rest) := by
  have hall : ∀ c ∈ paddedDigits width n, c.isDigit = true := fun c => isDigit_of_mem_paddedDigits
  have hlength := length_paddedDigits hwidth.1 hn
  -- Digits are taken up to what breaks them off.
  have htake : (paddedDigits width n ++ rest).takeWhile Char.isDigit = paddedDigits width n := by
    rw [List.takeWhile_append_of_pos hall]
    cases rest with
    | nil => exact List.append_nil _
    | cons c more =>
        have hc : c.isDigit = false := hrest
        rw [List.takeWhile_cons, hc]
        exact List.append_nil _
  have hdrop : (paddedDigits width n ++ rest).dropWhile Char.isDigit = rest := by
    rw [List.dropWhile_append_of_pos hall]
    cases rest with
    | nil => rfl
    | cons c more =>
        have hc : c.isDigit = false := hrest
        rw [List.dropWhile_cons, hc]
        rfl
  have hkept : (paddedDigits width n).take 9 = paddedDigits width n :=
    List.take_of_length_le (by omega)
  have hsome : (paddedDigits width n).isEmpty = false :=
    List.isEmpty_eq_false_iff.mpr (paddedDigits_ne_nil width n)
  unfold fraction
  simp only [htake, hdrop, hkept, hsome, hlength, valueOfDigits_paddedDigits]
  rfl

/-- The fraction of a second is read from its own text, in any of its widths. -/
theorem fraction_fractionText {n : Nat} (hn : n < nanosPerSecond) {rest : List Char}
    (hrest : Breaks ('Z' :: rest)) :
    fraction (fractionText n ++ 'Z' :: rest) = some (n, 'Z' :: rest) := by
  unfold nanosPerSecond at hn
  unfold fractionText
  simp only [beq_iff_eq]
  by_cases hzero : n = 0
  · rw [if_pos hzero, hzero]
    rfl
  · rw [if_neg hzero]
    -- The shortest of three widths that loses nothing is the one that was written.
    by_cases hmillis : n % 1000000 = 0
    · have hread := @fraction_paddedDigits 3 (n / 1000000) (by decide) (by omega) _ hrest
      have hvalue : n / 1000000 * 10 ^ (9 - 3) = n := by omega
      rw [hvalue] at hread
      rw [if_pos hmillis]
      exact hread
    · rw [if_neg hmillis]
      by_cases hmicros : n % 1000 = 0
      · have hread := @fraction_paddedDigits 6 (n / 1000) (by decide) (by omega) _ hrest
        have hvalue : n / 1000 * 10 ^ (9 - 6) = n := by omega
        rw [hvalue] at hread
        rw [if_pos hmicros]
        exact hread
      · have hread := @fraction_paddedDigits 9 n (by decide) hn _ hrest
        have hvalue : n * 10 ^ (9 - 9) = n := by omega
        rw [hvalue] at hread
        rw [if_neg hmicros]
        exact hread

/-! ### Whole stamps -/

/-- The text of a time stamp, part by part. -/
theorem write_eq (instant : Instant) :
    write instant = Date.yearText instant.date.year ++ '-' ::
      (paddedDigits 2 instant.date.month ++ '-' :: (paddedDigits 2 instant.date.day ++ 'T' ::
        (paddedDigits 2 (instant.secondOfDay / 3600) ++ ':' ::
          (paddedDigits 2 (instant.secondOfDay / 60 % 60) ++ ':' ::
            (paddedDigits 2 (instant.secondOfDay % 60 + if instant.isLeap then 1 else 0) ++
              (fractionText (instant.nanos % nanosPerSecond) ++ ['Z'])))))) := by
  simp only [write, Date.text, Instant.clockText, List.append_assoc, List.cons_append]

/-- A fraction does not begin with a digit. -/
theorem breaks_fractionText (n : Nat) {rest : List Char} (hrest : Breaks rest) :
    Breaks (fractionText n ++ rest) := by
  unfold fractionText
  split
  · exact hrest
  · split
    · exact rfl
    · split <;> exact rfl

/-- A leap second stands behind the last second of a minute. -/
theorem second_of_isLeap {instant : Instant} (h : instant.isLeap = true) :
    instant.second % 60 = 59 :=
  instant.atMinuteEnd (of_decide_eq_true h)

/-- The moment of an instant is put together again from its parts. -/
theorem second_of_parts (instant : Instant) :
    instant.date.toDay * 86400 + (instant.secondOfDay / 3600 * 3600 +
      instant.secondOfDay / 60 % 60 * 60 +
        min (instant.secondOfDay % 60 + if instant.isLeap then 1 else 0) 59 : Nat) =
      instant.second := by
  have hday : instant.date.toDay = instant.second / 86400 := Date.toDay_ofDay _
  have hseconds : (instant.secondOfDay : Int) = instant.second % 86400 :=
    Int.toNat_of_nonneg (by omega)
  -- A leap second is written as the second 60, which the reader takes for 59.
  have hminute : min (instant.secondOfDay % 60 + if instant.isLeap then 1 else 0) 59 =
      instant.secondOfDay % 60 := by
    by_cases hleap : instant.isLeap = true
    · have hlast := second_of_isLeap hleap
      rw [if_pos hleap]
      omega
    · rw [if_neg hleap]
      omega
  rw [hday, hminute]
  omega

/-- The second half of a leap second is put back where it was. -/
theorem nanos_of_parts (instant : Instant) :
    (if instant.secondOfDay % 60 + (if instant.isLeap then 1 else 0) = 60 then
      instant.nanos % nanosPerSecond + nanosPerSecond
      else instant.nanos % nanosPerSecond) = instant.nanos := by
  have hseconds : (instant.secondOfDay : Int) = instant.second % 86400 :=
    Int.toNat_of_nonneg (by omega)
  have hlt := instant.nanos_lt
  by_cases hleap : instant.isLeap = true
  · -- Only a leap second is written as 60, and then the nanoseconds get their whole second back.
    have hge : nanosPerSecond ≤ instant.nanos := of_decide_eq_true hleap
    have hlast := instant.atMinuteEnd hge
    rw [if_pos hleap, if_pos (by omega)]
    unfold nanosPerSecond at *
    omega
  · have hless : ¬ nanosPerSecond ≤ instant.nanos := fun h => hleap (decide_eq_true h)
    rw [if_neg hleap, if_neg (by omega)]
    unfold nanosPerSecond at *
    omega

/-- An instant is the one of its second and nanoseconds. -/
theorem of?_self (instant : Instant) :
    Instant.of? instant.second instant.nanos = some instant :=
  dif_pos ⟨instant.inRange, instant.nanos_lt, instant.atMinuteEnd⟩

/-- A step of a reader that reads something hands it on. -/
theorem bind_of_eq_some {α β : Type} {first : Option α} {a : α} (h : first = some a)
    (next : α → Option β) : first >>= next = next a := by
  rw [h]
  rfl

/-- The parts of a stamp are read one after the other, and then put together. -/
theorem read_parts {date : Date} {hour minute second nanos : Nat} (hmonth : date.month < 100)
    (hday : date.day < 100) (hvalid : date.isValid = true) (hhour : hour < 24)
    (hminute : minute < 60) (hsecond : second < 61) (hnanos : nanos < nanosPerSecond) :
    Rfc3339.read (Date.yearText date.year ++ '-' :: (paddedDigits 2 date.month ++ '-' ::
      (paddedDigits 2 date.day ++ 'T' :: (paddedDigits 2 hour ++ ':' ::
        (paddedDigits 2 minute ++ ':' :: (paddedDigits 2 second ++
          (fractionText nanos ++ ['Z'])))))) ) =
      (Instant.of? (date.toDay * 86400 + (hour * 3600 + minute * 60 + min second 59 : Nat))
        (if second = 60 then nanos + nanosPerSecond else nanos)).bind fun instant =>
          Instant.of? (instant.second - 0)
            (if second = 60 then nanos + nanosPerSecond else nanos) := by
  obtain ⟨y, month, day⟩ := date
  have hbreak : ∀ c rest, c.isDigit = false → Breaks (c :: rest) := fun c rest h => h
  have hseparator : ∀ rest, separator ('T' :: rest) = some rest := fun _ => rfl
  have hzone : zone (skipBlanks ['Z']) = some (0, []) := rfl
  have hdate : ¬ (skipBlanks [] ≠ [] ∨ (Date.mk y month day).isValid = false) := by
    rw [hvalid]
    exact not_or.mpr ⟨fun h => h rfl, by decide⟩
  have hclock : ¬ (24 ≤ hour ∨ 60 ≤ minute ∨ 61 ≤ second ∨ 86400 ≤ (0 : Int).natAbs) := by
    have habs : (0 : Int).natAbs = 0 := rfl
    omega
  -- The steps are those of the reader, in its order.
  unfold Rfc3339.read
  refine (bind_of_eq_some (year_yearText y (hbreak '-' _ rfl)) _).trans ?_
  refine (bind_of_eq_some (mark_cons (by decide) _) _).trans ?_
  refine (bind_of_eq_some (number_two hmonth (hbreak '-' _ rfl)) _).trans ?_
  refine (bind_of_eq_some (mark_cons (by decide) _) _).trans ?_
  refine (bind_of_eq_some (number_two hday (hbreak 'T' _ rfl)) _).trans ?_
  refine (bind_of_eq_some (hseparator _) _).trans ?_
  refine (bind_of_eq_some (number_two (by omega) (hbreak ':' _ rfl)) _).trans ?_
  refine (bind_of_eq_some (mark_cons (by decide) _) _).trans ?_
  refine (bind_of_eq_some (number_two (by omega) (hbreak ':' _ rfl)) _).trans ?_
  refine (bind_of_eq_some (mark_cons (by decide) _) _).trans ?_
  refine (bind_of_eq_some (number_two (by omega)
    (breaks_fractionText nanos (hbreak 'Z' [] rfl))) _).trans ?_
  refine (bind_of_eq_some (fraction_fractionText hnanos (hbreak 'Z' [] rfl)) _).trans ?_
  refine (bind_of_eq_some hzone _).trans ?_
  exact (if_neg hdate).trans (if_neg hclock)

/-- A time stamp is read as the instant it was written for. -/
theorem read_write (instant : Instant) : Rfc3339.read (write instant) = some instant := by
  have hvalid : instant.date.isValid = true := isValid_ofDay _
  have hparts := (isValid_iff _).mp hvalid
  -- Each part fits into its two digits.
  have hmonthDays := daysInMonth_le instant.date.year instant.date.month
  have hday : instant.secondOfDay < 86400 := by
    unfold Instant.secondOfDay
    omega
  have hleap : (if instant.isLeap then 1 else 0) ≤ 1 := by
    split <;> decide
  have hnanos : instant.nanos % nanosPerSecond < nanosPerSecond := Nat.mod_lt _ (by decide)
  rw [write_eq, read_parts (by omega) (by omega) hvalid (by omega) (by omega) (by omega) hnanos]
  have hsecond : Instant.of? (instant.second - 0) instant.nanos = some instant := by
    rw [Int.sub_zero, of?_self]
  rw [second_of_parts, nanos_of_parts, of?_self, Option.bind_some, hsecond]

instance : LawfulForm Instant where
  inRange _ := trivial
  reads instant := by
    simp only [toJson, ofReading, Json.toReading, String.toList_ofList, read_write]

end ReleasePipeline.Proofs
