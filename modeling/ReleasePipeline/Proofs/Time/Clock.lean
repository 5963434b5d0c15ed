import ReleasePipeline.Proofs.Time.Order
import ReleasePipeline.Proofs.Time.Rfc3339

/-!
# `ReleasePipeline.Proofs.Time.Clock`: what the text of an instant says about it

`Instant.text` shows an instant to the second. Two instants have one text exactly if they lie in
the same second (`text_eq_iff`), in years of any sign and length. Nothing reads this text, but it
has all that a time stamp of the whole second has, and a time stamp is read as the instant that it
was written for.

In the years that are written with four digits every part of a text has a fixed width. There the
texts stand in the order of the seconds (`text_lt_text`): first in that of the dates, and on one
day in that of the clock.
-/

set_option autoImplicit false

namespace ReleasePipeline.Proofs

open Text (paddedDigits)

/-- Whether two instants lie in the same second. A leap second is another one than the second before
it, whose number it has. -/
def SameSecond (first second : Instant) : Prop :=
  first.second = second.second ∧ first.isLeap = second.isLeap

/-- Whether an instant lies in an earlier second than another one. -/
def EarlierSecond (first second : Instant) : Prop :=
  first.second < second.second ∨
    first.second = second.second ∧ first.isLeap = false ∧ second.isLeap = true

/-- Of two instants one is in an earlier second, or both are in the same one. -/
theorem earlierSecond_trichotomy (first second : Instant) :
    EarlierSecond first second ∨ SameSecond first second ∨ EarlierSecond second first := by
  unfold EarlierSecond SameSecond
  rcases Int.lt_trichotomy first.second second.second with hless | hsame | hgreater
  · exact Or.inl (Or.inl hless)
  · rw [hsame]
    cases first.isLeap <;> cases second.isLeap <;> simp
  · exact Or.inr (Or.inr (Or.inl hgreater))

/-! ### One text for one second -/

/-- A mark that stands at the front of a text, and nowhere else in it, is found at the front. -/
theorem eq_nil_of_cons_eq_append {mark : Char} {ys ys' between : List Char} (hys : mark ∉ ys)
    (h : mark :: ys = between ++ mark :: ys') : between = [] := by
  cases between with
  | nil => rfl
  | cons c more =>
      obtain ⟨-, hmore⟩ := List.cons.inj h
      exact absurd (hmore ▸ List.mem_append_right more List.mem_cons_self) hys

/-- A text is cut in one way at a mark that does not stand behind the cut. -/
theorem append_cons_inj {mark : Char} {xs ys xs' ys' : List Char} (hys : mark ∉ ys)
    (hys' : mark ∉ ys') : xs ++ mark :: ys = xs' ++ mark :: ys' ↔ xs = xs' ∧ ys = ys' := by
  refine ⟨fun h => ?_, fun ⟨hxs, hrest⟩ => by rw [hxs, hrest]⟩
  -- What lies between the two cuts is empty, whichever of them comes first.
  rcases List.append_eq_append_iff.mp h with ⟨between, hfront, hback⟩ | ⟨between, hfront, hback⟩
  · obtain rfl := eq_nil_of_cons_eq_append hys hback
    exact ⟨(hfront.trans (List.append_nil _)).symm, (List.cons.inj hback).2⟩
  · obtain rfl := eq_nil_of_cons_eq_append hys' hback
    exact ⟨hfront.trans (List.append_nil _), (List.cons.inj hback).2.symm⟩

/-- A padded number is made of digits alone. -/
theorem notMem_paddedDigits {c : Char} (h : c.isDigit = false) (width n : Nat) :
    c ∉ paddedDigits width n := by
  intro hmem
  have hdigit := isDigit_of_mem_paddedDigits hmem
  rw [h] at hdigit
  exact Bool.false_ne_true hdigit

/-- A clock shows digits and colons. -/
theorem notMem_clockText {c : Char} (hdigit : c.isDigit = false) (hcolon : c ≠ ':')
    (instant : Instant) : c ∉ instant.clockText := by
  simp only [Instant.clockText, List.mem_append, List.mem_cons, notMem_paddedDigits hdigit, hcolon,
    or_self, not_false_eq_true]

/-- A date is made of digits and signs. -/
theorem notMem_dateText {c : Char} (hdigit : c.isDigit = false) (hminus : c ≠ '-')
    (hplus : c ≠ '+') (date : Date) : c ∉ date.text := by
  have hyear : c ∉ Date.yearText date.year := by
    unfold Date.yearText
    split
    · exact notMem_paddedDigits hdigit _ _
    · refine List.not_mem_cons_of_ne_of_not_mem ?_ (notMem_paddedDigits hdigit _ _)
      split
      · exact hminus
      · exact hplus
  simp only [Date.text, List.mem_append, List.mem_cons, notMem_paddedDigits hdigit, hminus, hyear,
    or_self, not_false_eq_true]

/-- The beginning of the second that an instant lies in. -/
def wholeSecond (instant : Instant) : Instant where
  second := instant.second
  nanos := if instant.isLeap then nanosPerSecond else 0
  inRange := instant.inRange
  nanos_lt := by
    split <;> decide
  atMinuteEnd := by
    split
    · next h => exact fun _ => second_of_isLeap h
    · exact fun h => absurd h (by decide)

/-- The beginning of a leap second is in it as well. -/
theorem isLeap_wholeSecond (instant : Instant) :
    (wholeSecond instant).isLeap = instant.isLeap := by
  show decide (nanosPerSecond ≤ if instant.isLeap then nanosPerSecond else 0) = instant.isLeap
  cases instant.isLeap <;> decide

/-- The time stamp of a whole second shows its date and its clock. -/
theorem write_wholeSecond (instant : Instant) :
    Rfc3339.write (wholeSecond instant) =
      instant.date.text ++ 'T' :: instant.clockText ++ ['Z'] := by
  have hdate : (wholeSecond instant).date = instant.date := rfl
  have hclock : (wholeSecond instant).clockText = instant.clockText := by
    unfold Instant.clockText
    rw [isLeap_wholeSecond]
    rfl
  have hfraction : (wholeSecond instant).nanos % nanosPerSecond = 0 := by
    show (if instant.isLeap then nanosPerSecond else 0) % nanosPerSecond = 0
    cases instant.isLeap <;> decide
  unfold Rfc3339.write
  rw [hdate, hclock, hfraction]
  rfl

/-- Two instants have one text exactly if they lie in the same second. -/
theorem text_eq_iff {first second : Instant} :
    first.text = second.text ↔ SameSecond first second := by
  have hspace : ∀ instant : Instant, ' ' ∉ instant.clockText :=
    notMem_clockText rfl (by decide)
  unfold Instant.text
  rw [append_cons_inj (hspace first) (hspace second)]
  constructor
  · intro ⟨hdate, hclock⟩
    -- A text that shows a second is the front of a time stamp, which can be read back.
    have hwrite : Rfc3339.write (wholeSecond first) = Rfc3339.write (wholeSecond second) := by
      rw [write_wholeSecond, write_wholeSecond, hdate, hclock]
    have hread := congrArg Rfc3339.read hwrite
    rw [read_write, read_write] at hread
    have hwhole := Option.some.inj hread
    have hsecond : (wholeSecond first).second = (wholeSecond second).second := by rw [hwhole]
    have hleap : (wholeSecond first).isLeap = (wholeSecond second).isLeap := by rw [hwhole]
    rw [isLeap_wholeSecond, isLeap_wholeSecond] at hleap
    exact ⟨hsecond, hleap⟩
  · intro ⟨hsecond, hleap⟩
    unfold Instant.date Instant.clockText Instant.secondOfDay
    rw [hsecond, hleap]
    exact ⟨rfl, rfl⟩

/-! ### The order of texts -/

/-- In years of four digits the texts of dates stand in the order of the dates, and behind one
date in the order of what follows. -/
theorem dateText_append_lt {first second : Date} (hvalid : second.isValid = true)
    (hyear : 0 ≤ first.year ∧ first.year ≤ 9999)
    (hyear' : 0 ≤ second.year ∧ second.year ≤ 9999) {xs ys : List Char}
    (h : Before first second ∨ first = second ∧ xs < ys) :
    first.text ++ xs < second.text ++ ys := by
  rcases h with hbefore | ⟨rfl, hbehind⟩
  · obtain ⟨hmonth, hday, hdays⟩ := (isValid_iff second).mp hvalid
    have hmonthDays := daysInMonth_le second.year second.month
    unfold Date.text Date.yearText
    rw [if_pos hyear, if_pos hyear']
    simp only [List.append_assoc, List.cons_append]
    refine paddedDigits_cons_lt (by decide) (by omega) '-' ?_
    -- The first number that differs decides: the year, then the month, then the day.
    rcases hbefore with hless | ⟨hsame, hbefore⟩
    · exact Or.inl (by omega)
    · refine Or.inr ⟨congrArg Int.toNat hsame, paddedDigits_cons_lt (by decide) (by omega) '-' ?_⟩
      rcases hbefore with hless | ⟨hsame, hless⟩
      · exact Or.inl hless
      · exact Or.inr ⟨hsame, paddedDigits_append_lt (by decide) (by omega) (Or.inl hless)⟩
  · exact List.append_left_lt hbehind

/-- On one day the clock of an earlier second comes first. -/
theorem clockText_lt {first second : Instant} (hday : first.second / 86400 = second.second / 86400)
    (h : EarlierSecond first second) : first.clockText < second.clockText := by
  have hseconds : ∀ instant : Instant, (instant.secondOfDay : Int) = instant.second % 86400 :=
    fun instant => Int.toNat_of_nonneg (by omega)
  have hfirst := hseconds first
  have hsecond := hseconds second
  have hparts : first.secondOfDay / 3600 < second.secondOfDay / 3600 ∨
      first.secondOfDay / 3600 = second.secondOfDay / 3600 ∧
        (first.secondOfDay / 60 % 60 < second.secondOfDay / 60 % 60 ∨
          first.secondOfDay / 60 % 60 = second.secondOfDay / 60 % 60 ∧
            first.secondOfDay % 60 + (if first.isLeap then 1 else 0) <
              second.secondOfDay % 60 + (if second.isLeap then 1 else 0)) := by
    rcases h with hless | ⟨hsame, hno, hyes⟩
    · -- A leap second ends its minute, so what is later stands in another one.
      by_cases hleap : first.isLeap = true
      · have hend := second_of_isLeap hleap
        omega
      · rw [if_neg hleap]
        omega
    · rw [hno, hyes, if_neg Bool.false_ne_true, if_pos rfl]
      omega
  have hshown : second.secondOfDay % 60 + (if second.isLeap then 1 else 0) < 10 ^ 2 := by
    split <;> omega
  unfold Instant.clockText
  simp only [List.append_assoc, List.cons_append]
  refine paddedDigits_cons_lt (by decide) (by omega) ':' (hparts.imp_right (And.imp_right ?_))
  intro hbehind
  refine paddedDigits_cons_lt (by decide) (by omega) ':' (hbehind.imp_right (And.imp_right ?_))
  intro hless
  have hlast := @paddedDigits_append_lt 2 _ _ (by decide) hshown [] [] (Or.inl hless)
  rw [List.append_nil, List.append_nil] at hlast
  exact hlast

/-- In years of four digits the text of an earlier second comes first. -/
theorem text_lt_text {first second : Instant} (hyear : 0 ≤ first.date.year ∧ first.date.year ≤ 9999)
    (hyear' : 0 ≤ second.date.year ∧ second.date.year ≤ 9999) (h : EarlierSecond first second) :
    first.text < second.text := by
  unfold Instant.text
  refine dateText_append_lt (isValid_ofDay _) hyear hyear' ?_
  rcases Int.lt_trichotomy (first.second / 86400) (second.second / 86400)
    with hless | hsame | hgreater
  · exact Or.inl (before_ofDay hless)
  · refine Or.inr ⟨congrArg Date.ofDay hsame, ?_⟩
    exact List.cons_lt_cons_iff.mpr (Or.inr ⟨rfl, clockText_lt hsame h⟩)
  · unfold EarlierSecond at h
    omega

end ReleasePipeline.Proofs
