import Mathlib.Data.List.TakeWhile
import ReleasePipeline.Proofs.Json.Values

/-!
# `ReleasePipeline.Proofs.Json.Prefix`: a text that was cut off is no document

The parser decides by the bytes it has read. So a scan that came to its end comes to the same end
on every longer text, and leaves what follows behind (`ReadsOn`). A number is the exception: it
may go on where the text does, unless something stands behind it (`ReadsOnBefore`). `fuelReadsOn`
says this of values, items and members at once. Its induction is on the fuel, and it allows the
longer text more fuel, since a longer text is given more.

A written value is read with nothing left behind. If a part of its text could be read to the end
as well, the whole text would leave the other part behind. So of the parts that a written object
begins with only the whole is a document (`eq_of_decode_prefix`).
-/

set_option autoImplicit false

namespace ReleasePipeline.Proofs

open Json
  (octet isSpace skipSpace isDigit Piece stringPieces pieceText stringValue literal cutNumber
    exponentPart afterFraction afterWhole unsignedNumber Mantissa memberName write)

/-- A scan that came to its end does so where more follows as well, and leaves that behind. -/
def ReadsOn {α : Type} (more : List UInt8) (scan longer : Scan α) : Prop :=
  ∀ rest, scan.rest = .ok rest → longer = ⟨scan.found, .ok (rest ++ more)⟩

/-- The same of a scan that stopped in front of something. -/
def ReadsOnBefore {α : Type} (more : List UInt8) (scan longer : Scan α) : Prop :=
  ∀ rest, scan.rest = .ok rest → rest ≠ [] → longer = ⟨scan.found, .ok (rest ++ more)⟩

section
variable {α : Type} {more bytes rest : List UInt8} {scan longer : Scan α}

/-- A scan that comes to its end anyway does so where it stopped in front of something. -/
theorem ReadsOn.before (h : ReadsOn more scan longer) : ReadsOnBefore more scan longer :=
  fun rest hrest _ => h rest hrest

/-- A scan that ended in a fault came to no end. -/
theorem readsOn_of_error (fault : Fault) (h : scan.rest = .error fault) (longer : Scan α) :
    ReadsOn more scan longer :=
  fun _ hrest => nomatch h.symm.trans hrest

/-- Where an end was reached, what is left stands in front of what follows. -/
theorem readsOn_ok (more : List UInt8) (found : α) (rest : List UInt8) :
    ReadsOn more ⟨found, .ok rest⟩ ⟨found, .ok (rest ++ more)⟩ := by
  rintro _ ⟨⟩
  rfl

/-- A scan that took everything did not stop in front of something. -/
theorem readsOnBefore_nil (more : List UInt8) (found : α) (longer : Scan α) :
    ReadsOnBefore more ⟨found, .ok []⟩ longer := by
  rintro _ ⟨⟩ hsome
  exact absurd rfl hsome

/-- A choice reads on where both of its ways do. -/
theorem ReadsOn.ite {p : Prop} [Decidable p] {first second longerFirst longerSecond : Scan α}
    (hfirst : ReadsOn more first longerFirst) (hsecond : ReadsOn more second longerSecond) :
    ReadsOn more (if p then first else second) (if p then longerFirst else longerSecond) := by
  split
  · exact hfirst
  · exact hsecond

/-- So does a choice between scans that stop in front of something. -/
theorem ReadsOnBefore.ite {p : Prop} [Decidable p] {first second longerFirst longerSecond : Scan α}
    (hfirst : ReadsOnBefore more first longerFirst)
    (hsecond : ReadsOnBefore more second longerSecond) :
    ReadsOnBefore more (if p then first else second) (if p then longerFirst else longerSecond) := by
  split
  · exact hfirst
  · exact hsecond

/-- One thing more in front changes nothing of it. -/
theorem ReadsOn.cons {scan longer : Scan (List α)} (h : ReadsOn more scan longer) (first : α) :
    ReadsOn more (scan.cons first) (longer.cons first) := by
  intro rest hrest
  rw [h rest hrest]
  rfl

/-! ### Strings and literals -/

/-- Pieces in front change nothing of it either. -/
theorem ReadsOn.prepend {scan longer : Scan (List Piece)} (h : ReadsOn more scan longer)
    (pieces : List Piece) :
    ReadsOn more (Scan.prepend pieces scan) (Scan.prepend pieces longer) := by
  intro rest hrest
  rw [h rest hrest]
  rfl

/-- A string is read up to its closing quote, whatever follows. -/
theorem readsOn_stringPieces (more bytes : List UInt8) :
    ReadsOn more (stringPieces bytes) (stringPieces (bytes ++ more)) := by
  -- A quote ends the string, an escape or a byte that stands for itself goes on, all else is a
  -- fault.
  induction bytes using Json.stringPieces.induct with
  | case1 => exact readsOn_of_error _ rfl _
  | case2 rest =>
      rw [List.cons_append, stringPieces_quote, stringPieces_quote]
      exact readsOn_ok more [] rest
  | case3 => exact readsOn_of_error _ rfl _
  | case4 h₁ h₂ h₃ h₄ rest code hcode _ ih =>
      simp only [List.cons_append]
      rw [stringPieces_unit hcode, stringPieces_unit hcode]
      exact ih.prepend _
  | case5 h₁ h₂ h₃ h₄ rest hcode hquote =>
      refine readsOn_of_error .notJson ?_ _
      rw [Json.stringPieces.eq_def]
      simp only [if_neg hquote, if_true, hcode]
  | case6 rest hshort hquote =>
      refine readsOn_of_error .endsEarly ?_ _
      rw [Json.stringPieces.eq_def]
      simp only [if_neg hquote, if_true]
  | case7 e rest hu byte hbyte _ ih =>
      simp only [List.cons_append]
      rw [stringPieces_short hu hbyte, stringPieces_short hu hbyte]
      exact ih.prepend _
  | case8 e rest hu hbyte hquote =>
      refine readsOn_of_error .notJson ?_ _
      rw [Json.stringPieces.eq_def]
      simp only [if_neg hquote, if_true, if_neg hu, hbyte]
  | case9 b rest hquote hslash hlow =>
      refine readsOn_of_error .notJson ?_ _
      rw [Json.stringPieces.eq_def]
      simp only [if_neg hquote, if_neg hslash, if_pos hlow]
  | case10 b rest hquote hslash hlow ih =>
      have hplain : ∀ other ∈ [b], IsPlain other :=
        List.forall_mem_singleton.mpr ⟨hquote, hslash, hlow⟩
      have hstep : ∀ tail, stringPieces (b :: tail) = Scan.prepend [.octet b] (stringPieces tail) :=
        stringPieces_plain hplain
      rw [List.cons_append, hstep, hstep]
      exact ih.prepend _

/-- Which text the pieces of a string make does not depend on what stands behind it. -/
theorem pieceText_ok (pieces : List Piece) (rest other : List UInt8) :
    pieceText ⟨pieces, .ok rest⟩ = pieceText ⟨pieces, .ok other⟩ := by
  unfold pieceText
  simp only
  cases Json.pieceBytes .notJson pieces <;> rfl

/-- The pieces of a string with more behind it, and the text they make. -/
theorem stringPieces_append {bytes rest : List UInt8} (h : (stringPieces bytes).rest = .ok rest)
    (more : List UInt8) :
    stringPieces (bytes ++ more) = ⟨(stringPieces bytes).found, .ok (rest ++ more)⟩ ∧
      pieceText (stringPieces (bytes ++ more)) = pieceText (stringPieces bytes) := by
  have hlonger := readsOn_stringPieces more bytes rest h
  refine ⟨hlonger, ?_⟩
  have hscan : stringPieces bytes = ⟨(stringPieces bytes).found, .ok rest⟩ := by rw [← h]
  rw [hlonger, hscan]
  exact pieceText_ok _ _ _

/-- A string as a value is read up to its closing quote as well. -/
theorem readsOn_stringValue (more bytes : List UInt8) :
    ReadsOn more (stringValue bytes) (stringValue (bytes ++ more)) := by
  intro rest hrest
  have hend : (stringPieces bytes).rest = .ok rest := by
    rw [← hrest]
    unfold stringValue
    simp only
    split <;> rfl
  obtain ⟨hlonger, htext⟩ := stringPieces_append hend more
  unfold stringValue
  simp only [htext]
  rw [hlonger]
  cases pieceText (stringPieces bytes) <;> rfl

/-- A literal is read letter by letter. -/
theorem readsOn_literal (more : List UInt8) (value : Reading) (word bytes : List UInt8) :
    ReadsOn more (literal value word bytes) (literal value word (bytes ++ more)) := by
  induction word generalizing bytes with
  | nil => exact readsOn_ok more value bytes
  | cons w word ih =>
      cases bytes with
      | nil => exact readsOn_of_error _ rfl _
      | cons b rest => exact ReadsOn.ite (ih rest) (readsOn_of_error _ rfl _)

/-! ### Numbers -/

/-- What is left behind bytes of a kind is left there where more follows. -/
theorem dropWhile_append_of_cons {p : UInt8 → Bool} {b : UInt8} (h : bytes.dropWhile p = b :: rest)
    (more : List UInt8) : (bytes ++ more).dropWhile p = b :: (rest ++ more) := by
  rw [List.dropWhile_append, h]
  rfl

/-- The bytes of the kind are the same ones, since they end in front of a byte that was there
before. -/
theorem takeWhile_append_of_cons {p : UInt8 → Bool} {b : UInt8} (h : bytes.dropWhile p = b :: rest)
    (more : List UInt8) : (bytes ++ more).takeWhile p = bytes.takeWhile p := by
  rw [List.takeWhile_append, if_neg]
  intro hall
  have hlength := congrArg List.length (List.takeWhile_append_dropWhile (p := p) (l := bytes))
  rw [h, List.length_append, List.length_cons] at hlength
  omega

/-- A number that is cut off has no end. -/
theorem readsOn_cutNumber (more bytes : List UInt8) (longer : Scan Reading) :
    ReadsOn more (cutNumber bytes) longer := by
  cases bytes with
  | nil => exact readsOn_of_error _ rfl _
  | cons b rest => exact readsOn_of_error _ rfl _

/-- Digits with something behind them are the same where more follows, so what comes next
decides. -/
theorem readsOnBefore_digits (next : List UInt8 → List UInt8 → Scan α)
    (hend : ∀ digits longer, ReadsOnBefore more (next digits []) longer)
    (hnext : ∀ digits b rest,
      ReadsOnBefore more (next digits (b :: rest)) (next digits (b :: (rest ++ more))))
    (bytes : List UInt8) :
    ReadsOnBefore more (next (bytes.takeWhile isDigit) (bytes.dropWhile isDigit))
      (next ((bytes ++ more).takeWhile isDigit) ((bytes ++ more).dropWhile isDigit)) := by
  cases hleft : bytes.dropWhile isDigit with
  | nil => exact hend _ _
  | cons b rest =>
      rw [takeWhile_append_of_cons hleft, dropWhile_append_of_cons hleft]
      exact hnext _ b rest

/-- The same where there has to be a digit. -/
theorem readsOnBefore_someDigits (next : List UInt8 → List UInt8 → Scan Reading)
    (hend : ∀ digits longer, ReadsOnBefore more (next digits []) longer)
    (hnext : ∀ digits b rest,
      ReadsOnBefore more (next digits (b :: rest)) (next digits (b :: (rest ++ more))))
    (bytes : List UInt8) :
    ReadsOnBefore more
      (if (bytes.takeWhile isDigit).isEmpty then cutNumber (bytes.dropWhile isDigit)
        else next (bytes.takeWhile isDigit) (bytes.dropWhile isDigit))
      (if ((bytes ++ more).takeWhile isDigit).isEmpty
        then cutNumber ((bytes ++ more).dropWhile isDigit)
        else next ((bytes ++ more).takeWhile isDigit) ((bytes ++ more).dropWhile isDigit)) := by
  -- Whether there are digits is asked behind them, where both texts have the same ones.
  let checked := fun (digits rest : List UInt8) =>
    if digits.isEmpty then cutNumber rest else next digits rest
  refine readsOnBefore_digits checked (fun digits longer => ?_) (fun digits b rest => ?_) bytes
  · show ReadsOnBefore more (if _ then _ else _) longer
    split
    · exact (readsOn_cutNumber more [] longer).before
    · exact hend digits longer
  · exact ReadsOnBefore.ite (readsOn_cutNumber more _ _).before (hnext digits b rest)

/-- The digits of an exponent, behind its sign. -/
def exponentDigits (mantissa : Mantissa) (negative : Bool) (bytes : List UInt8) : Scan Reading :=
  if (bytes.takeWhile isDigit).isEmpty then cutNumber (bytes.dropWhile isDigit)
  else ⟨Json.scaledValue mantissa negative (bytes.takeWhile isDigit), .ok (bytes.dropWhile isDigit)⟩

/-- A sign in front of an exponent only says which way it counts. -/
theorem exponentPart_cons (mantissa : Mantissa) (b : UInt8) (rest : List UInt8) :
    exponentPart mantissa (b :: rest) =
      if b = octet '-' then exponentDigits mantissa true rest
      else if b = octet '+' then exponentDigits mantissa false rest
      else exponentDigits mantissa false (b :: rest) := by
  unfold exponentPart exponentDigits
  by_cases hminus : b = octet '-'
  · simp only [if_pos hminus]
  · by_cases hplus : b = octet '+'
    · simp only [if_neg hminus, if_pos hplus]
    · simp only [if_neg hminus, if_neg hplus]

/-- An exponent is read up to what stands behind it. -/
theorem readsOnBefore_exponentPart (more : List UInt8) (mantissa : Mantissa) (bytes : List UInt8) :
    ReadsOnBefore more (exponentPart mantissa bytes) (exponentPart mantissa (bytes ++ more)) := by
  have hdigits : ∀ negative rest, ReadsOnBefore more (exponentDigits mantissa negative rest)
      (exponentDigits mantissa negative (rest ++ more)) := fun negative =>
    readsOnBefore_someDigits
      (fun digits rest => ⟨Json.scaledValue mantissa negative digits, .ok rest⟩)
      (fun _ _ => readsOnBefore_nil more _ _)
      (fun _ b rest => (readsOn_ok more _ (b :: rest)).before)
  cases bytes with
  | nil => exact (readsOn_of_error _ rfl _).before
  | cons b rest =>
      rw [List.cons_append, exponentPart_cons, exponentPart_cons]
      exact ReadsOnBefore.ite (hdigits true rest)
        (ReadsOnBefore.ite (hdigits false rest) (hdigits false (b :: rest)))

/-- So is what stands in its place. -/
theorem readsOnBefore_afterFraction (more : List UInt8) (mantissa : Mantissa) (bytes : List UInt8) :
    ReadsOnBefore more (afterFraction mantissa bytes) (afterFraction mantissa (bytes ++ more)) := by
  cases bytes with
  | nil => exact readsOnBefore_nil more _ _
  | cons b rest =>
      exact ReadsOnBefore.ite (readsOnBefore_exponentPart more mantissa rest)
        (readsOn_ok more _ (b :: rest)).before

/-- What follows the whole part of a number is read up to its end. -/
theorem readsOnBefore_afterWhole (more : List UInt8) (negative : Bool)
    (whole : List UInt8) (b : UInt8) (rest : List UInt8) :
    ReadsOnBefore more (afterWhole negative whole (b :: rest))
      (afterWhole negative whole (b :: (rest ++ more))) := by
  refine ReadsOnBefore.ite ?_ (ReadsOnBefore.ite (readsOnBefore_exponentPart more _ rest)
    (readsOn_ok more _ (b :: rest)).before)
  exact readsOnBefore_someDigits
    (fun digits rest => afterFraction ((Mantissa.ofWhole whole).withFraction digits) rest)
    (fun _ _ => readsOnBefore_nil more _ _)
    (fun _ b rest => readsOnBefore_afterFraction more _ (b :: rest)) rest

/-- The parts of a number, from its digits on. -/
def numberFrom (negative : Bool) (whole rest : List UInt8) : Scan Reading :=
  match whole with
  | [] => cutNumber rest
  | first :: digits =>
    if first = octet '0' ∧ digits ≠ [] then ⟨.broken .notJson, .error .notJson⟩
    else afterWhole negative whole rest

/-- A number is read up to what stands behind it. -/
theorem readsOnBefore_unsignedNumber (more : List UInt8) (negative : Bool) (bytes : List UInt8) :
    ReadsOnBefore more (unsignedNumber negative bytes)
      (unsignedNumber negative (bytes ++ more)) := by
  refine readsOnBefore_digits (numberFrom negative)
    (fun whole longer => ?_) (fun whole b rest => ?_) bytes
  · cases whole with
    | nil => exact (readsOn_cutNumber more [] longer).before
    | cons first digits =>
        show ReadsOnBefore more (if _ then _ else _) longer
        split
        · exact (readsOn_of_error _ rfl longer).before
        · exact readsOnBefore_nil more _ longer
  · cases whole with
    | nil => exact (readsOn_cutNumber more _ _).before
    | cons first digits =>
        exact ReadsOnBefore.ite (readsOn_of_error _ rfl _).before
          (readsOnBefore_afterWhole more negative _ b rest)

/-! ### Containers -/

/-- What is read behind an opening bracket or brace: the closing one, or what stands before it. -/
def enclosed (close : UInt8) (make : List α → Option Fault → Reading)
    (content : List UInt8 → Scan (List α)) (bytes : List UInt8) : Scan Reading :=
  match skipSpace bytes with
  | b :: after =>
    if b = close then ⟨make [] none, .ok after⟩
    else ⟨make (content bytes).found (content bytes).tear, (content bytes).rest⟩
  | [] => ⟨make [] (some .endsEarly), .error .endsEarly⟩

/-- What is read behind an item: the closing byte, or a comma and the others. -/
def behindItem (close : UInt8) (others : List UInt8 → Scan (List α)) (item : α) :
    Except Fault (List UInt8) → Scan (List α)
  | .error fault => ⟨[item], .error fault⟩
  | .ok rest =>
    match skipSpace rest with
    | [] => ⟨[item], .error .endsEarly⟩
    | b :: after =>
      if b = close then ⟨[item], .ok after⟩
      else if b = octet ',' then (others after).cons item
      else ⟨[item], .error .notJson⟩

/-- What is enclosed is read up to the closing byte if its content is. -/
theorem readsOn_enclosed {content longer : List UInt8 → Scan (List α)} {rest : List UInt8}
    (h : ReadsOn more (content rest) (longer (rest ++ more))) (close : UInt8)
    (make : List α → Option Fault → Reading) :
    ReadsOn more (enclosed close make content rest)
      (enclosed close make longer (rest ++ more)) := by
  unfold enclosed
  cases hskip : skipSpace rest with
  | nil => exact readsOn_of_error _ rfl _
  | cons b after =>
      rw [show skipSpace (rest ++ more) = b :: (after ++ more) from
        dropWhile_append_of_cons hskip more]
      refine ReadsOn.ite (readsOn_ok more _ after) ?_
      intro left hleft
      have hleft : (content rest).rest = .ok left := hleft
      simp only [h left hleft, Scan.tear, hleft]

/-- Behind an item it goes on in the same way. -/
theorem readsOn_behindItem {others longer : List UInt8 → Scan (List α)}
    (h : ∀ bytes, ReadsOn more (others bytes) (longer (bytes ++ more))) (close : UInt8)
    {first second : Scan Reading} (hitem : ReadsOnBefore more first second) (make : Reading → α) :
    ReadsOn more (behindItem close others (make first.found) first.rest)
      (behindItem close longer (make second.found) second.rest) := by
  cases hend : first.rest with
  | error fault => exact readsOn_of_error _ rfl _
  | ok rest =>
      -- Behind an item stands its end or a comma, and neither is cut off by the end of the text.
      cases hskip : skipSpace rest with
      | nil =>
          refine readsOn_of_error .endsEarly ?_ _
          simp only [behindItem, hskip]
      | cons b after =>
          have hsome : rest ≠ [] := by
            rintro rfl
            cases hskip
          have hlonger : skipSpace (rest ++ more) = b :: (after ++ more) :=
            dropWhile_append_of_cons hskip more
          rw [hitem rest hend hsome]
          simp only [behindItem, hskip, hlonger]
          exact ReadsOn.ite (readsOn_ok more _ after)
            (ReadsOn.ite ((h after).cons _) (readsOn_of_error _ rfl _))

end

section
variable {fuel enough : Nat} {more bytes rest : List UInt8}

/-- Items are read one by one: a value, and then what stands behind it. -/
theorem items_succ (fuel : Nat) (bytes : List UInt8) :
    Json.items (fuel + 1) bytes = behindItem (octet ']') (Json.items fuel)
      (Json.value fuel bytes).found (Json.value fuel bytes).rest := by
  rw [Json.items]
  unfold behindItem
  cases (Json.value fuel bytes).rest <;> rfl

/-- The name of a member is read up to its closing quote. -/
theorem memberName_append {after : List UInt8} (h : (memberName bytes).after = .ok after)
    (more : List UInt8) :
    memberName (bytes ++ more) = ⟨(memberName bytes).text, .ok (after ++ more)⟩ := by
  cases bytes with
  | nil => cases h
  | cons b rest =>
      rw [List.cons_append]
      unfold memberName at h ⊢
      by_cases hquote : b = octet '"'
      · simp only [if_pos hquote] at h ⊢
        obtain ⟨hlonger, htext⟩ := stringPieces_append h more
        rw [htext, hlonger]
      · simp only [if_neg hquote] at h
        cases h

/-! ### Values -/

/-- Whether a byte begins a number. -/
def IsNumeral (b : UInt8) : Prop :=
  b = octet '-' ∨ isDigit b = true

/-- With some fuel everything is read to the end that it has, where more follows and where there
is more fuel. -/
structure FuelReadsOn (fuel : Nat) : Prop where
  value : ∀ more bytes enough, fuel ≤ enough →
    ReadsOnBefore more (Json.value fuel bytes) (Json.value enough (bytes ++ more))
  items : ∀ more bytes enough, fuel ≤ enough →
    ReadsOn more (Json.items fuel bytes) (Json.items enough (bytes ++ more))
  members : ∀ more bytes enough, fuel ≤ enough →
    ReadsOn more (Json.members fuel bytes) (Json.members enough (bytes ++ more))

/-- The items of an array are read up to its closing bracket. -/
theorem FuelReadsOn.items_succ (h : FuelReadsOn fuel) (henough : fuel ≤ enough)
    (more bytes : List UInt8) :
    ReadsOn more (Json.items (fuel + 1) bytes) (Json.items (enough + 1) (bytes ++ more)) := by
  rw [Proofs.items_succ, Proofs.items_succ]
  exact readsOn_behindItem (fun after => h.items more after enough henough) _
    (h.value more bytes enough henough) id

/-- The members of an object are read up to its closing brace. -/
theorem FuelReadsOn.members_succ (h : FuelReadsOn fuel) (henough : fuel ≤ enough)
    (more bytes : List UInt8) :
    ReadsOn more (Json.members (fuel + 1) bytes) (Json.members (enough + 1) (bytes ++ more)) := by
  rw [Json.members, Json.members]
  cases hbegin : skipSpace bytes with
  | nil => exact readsOn_of_error _ rfl _
  | cons b rest =>
      have hlonger : skipSpace (bytes ++ more) = b :: rest ++ more :=
        dropWhile_append_of_cons hbegin more
      rw [hlonger]
      -- A name, a colon and a value: each of them is there as a whole, or the text ends early.
      cases hname : (memberName (b :: rest)).after with
      | error fault =>
          refine readsOn_of_error fault ?_ _
          simp only
      | ok after =>
          rw [memberName_append hname more]
          cases hcolon : skipSpace after with
          | nil =>
              refine readsOn_of_error .endsEarly ?_ _
              simp only [hcolon]
          | cons c behind =>
              have hlonger : skipSpace (after ++ more) = c :: (behind ++ more) :=
                dropWhile_append_of_cons hcolon more
              simp only [hcolon, hlonger]
              refine ReadsOn.ite ?_ (readsOn_of_error _ rfl _)
              exact readsOn_behindItem (fun after => h.members more after enough henough)
                (octet '\x7d') (h.value more behind enough henough)
                (Json.wholeMember (memberName (b :: rest)).text)

/-- A value that begins no number is read up to its end. -/
theorem FuelReadsOn.value_succ (h : FuelReadsOn fuel) (henough : fuel ≤ enough) {b : UInt8}
    (hbegin : skipSpace bytes = b :: rest) (hnumeral : ¬ IsNumeral b) (more : List UInt8) :
    ReadsOn more (Json.value (fuel + 1) bytes) (Json.value (enough + 1) (bytes ++ more)) := by
  have hlonger : skipSpace (bytes ++ more) = b :: (rest ++ more) :=
    dropWhile_append_of_cons hbegin more
  obtain ⟨hminus, hdigit⟩ := not_or.mp hnumeral
  have hliteral := readsOn_literal more
  rw [Json.value, Json.value]
  simp only [hbegin, hlonger, if_neg hminus, if_neg hdigit]
  refine ReadsOn.ite (readsOn_stringValue more rest) (ReadsOn.ite ?_ (ReadsOn.ite ?_ ?_))
  · exact readsOn_enclosed (h.items more rest enough henough) (octet ']') .list
  · exact readsOn_enclosed (h.members more rest enough henough) (octet '\x7d') .object
  · exact ReadsOn.ite (hliteral _ _ rest) (ReadsOn.ite (hliteral _ _ rest)
      (ReadsOn.ite (hliteral _ _ rest) (readsOn_of_error _ rfl _)))

/-- A number is read up to what stands behind it. -/
theorem readsOnBefore_number {b : UInt8} (hbegin : skipSpace bytes = b :: rest)
    (hnumeral : IsNumeral b) (fuel enough : Nat) (more : List UInt8) :
    ReadsOnBefore more (Json.value (fuel + 1) bytes) (Json.value (enough + 1) (bytes ++ more)) := by
  have hspace : ∀ c ∈ bytes.takeWhile isSpace, isSpace c = true := fun c => List.mem_takeWhile_imp
  have hsplit : bytes = bytes.takeWhile isSpace ++ b :: rest := by
    rw [← hbegin]
    exact List.takeWhile_append_dropWhile.symm
  rw [hsplit, List.append_assoc, value_skip hspace, value_skip hspace, List.cons_append]
  rcases hnumeral with rfl | hdigit
  · rw [value_minus, value_minus]
    exact readsOnBefore_unsignedNumber more true rest
  · rw [value_digit hdigit, value_digit hdigit]
    exact readsOnBefore_unsignedNumber more false (b :: rest)

/-- With any fuel everything is read to the end that it has. -/
theorem fuelReadsOn (fuel : Nat) : FuelReadsOn fuel := by
  induction fuel with
  | zero =>
      refine ⟨fun _ _ _ _ => ?_, fun _ _ _ _ => ?_, fun _ _ _ _ => ?_⟩
      · exact (readsOn_of_error _ rfl _).before
      · exact readsOn_of_error _ rfl _
      · exact readsOn_of_error _ rfl _
  | succ fuel ih =>
      -- With more fuel on the side of the longer text, both sides take one step.
      have hpositive : ∀ enough, fuel + 1 ≤ enough → ∃ less, enough = less + 1 ∧ fuel ≤ less :=
        fun enough h => ⟨enough - 1, by omega, by omega⟩
      refine ⟨fun more bytes enough henough => ?_, fun more bytes enough henough => ?_,
        fun more bytes enough henough => ?_⟩
      · obtain ⟨less, rfl, hless⟩ := hpositive enough henough
        cases hbegin : skipSpace bytes with
        | nil =>
            refine (readsOn_of_error .endsEarly ?_ _).before
            rw [Json.value, hbegin]
        | cons b rest =>
            by_cases hnumeral : IsNumeral b
            · exact readsOnBefore_number hbegin hnumeral fuel less more
            · exact (ih.value_succ hless hbegin hnumeral more).before
      · obtain ⟨less, rfl, hless⟩ := hpositive enough henough
        exact ih.items_succ hless more bytes
      · obtain ⟨less, rfl, hless⟩ := hpositive enough henough
        exact ih.members_succ hless more bytes

end

/-! ### Texts that were cut off -/

/-- A text that begins no number and was read to its end leaves behind all that follows. -/
theorem scan_append {bytes rest : List UInt8}
    (hnumeral : ∀ b more, skipSpace bytes = b :: more → ¬ IsNumeral b)
    (h : (Json.scan bytes).rest = .ok rest) (more : List UInt8) :
    Json.scan (bytes ++ more) = ⟨(Json.scan bytes).found, .ok (rest ++ more)⟩ := by
  have henough : bytes.length ≤ (bytes ++ more).length := by
    rw [List.length_append]
    exact Nat.le_add_right _ _
  cases hbegin : skipSpace bytes with
  | nil =>
      have hnothing : (Json.scan bytes).rest = .error .endsEarly := by
        rw [Json.scan, Json.value, hbegin]
      cases hnothing.symm.trans h
  | cons b behind =>
      exact (fuelReadsOn bytes.length).value_succ henough hbegin
        (hnumeral b behind hbegin) more rest h

/-- A written object begins with its brace. -/
theorem encode_write_obj_cons (layout : Layout) (depth : Nat) (members : List (String × Json)) :
    ∃ rest, encode (write layout depth (.obj members)) = octet '\x7b' :: rest := by
  cases members with
  | nil => exact ⟨_, rfl⟩
  | cons member rest => exact ⟨_, encode_write_obj layout depth member.1 member.2 rest⟩

/-- What is decoded was read to its end. -/
theorem scan_of_decode {α : Type} {read : Reading → Except Fault α} {bytes : List UInt8}
    {result : α} (h : Json.decode read bytes = .ok result) :
    ∃ rest, (Json.scan bytes).rest = .ok rest := by
  unfold Json.decode at h
  cases hrest : (Json.scan bytes).rest with
  | ok rest => exact ⟨rest, rfl⟩
  | error fault =>
      simp only [hrest] at h
      cases hread : read (Json.scan bytes).found <;> simp [hread] at h

/-- Of the parts that a written object begins with only the whole is a document. -/
theorem eq_of_decode_prefix {α : Type} {read : Reading → Except Fault α} {layout : Layout}
    {members : List (String × Json)} (hrange : InRange (.obj members)) {part : List UInt8}
    (hpart : part <+: encode (write layout 0 (.obj members))) {result : α}
    (h : Json.decode read part = .ok result) : part = encode (write layout 0 (.obj members)) := by
  obtain ⟨left, hwhole⟩ := hpart
  obtain ⟨rest, hend⟩ := scan_of_decode h
  -- A part with something in it begins with the brace, which is neither blank nor the sign of a
  -- number.
  have hnumeral : ∀ b more, skipSpace part = b :: more → ¬ IsNumeral b := by
    intro b more hbegin
    obtain ⟨behind, hbrace⟩ := encode_write_obj_cons layout 0 members
    cases part with
    | nil => cases hbegin
    | cons first others =>
        obtain rfl : first = octet '\x7b' := (List.cons.inj (hwhole.trans hbrace)).1
        rw [skipSpace_cons (by decide)] at hbegin
        obtain rfl : octet '\x7b' = b := (List.cons.inj hbegin).1
        unfold IsNumeral
        decide
  have hall := scan_append hnumeral hend left
  rw [hwhole, scan_write layout hrange] at hall
  obtain ⟨-, hleft⟩ := List.append_eq_nil_iff.mp (Except.ok.inj (congrArg Scan.rest hall)).symm
  rw [← hwhole, hleft, List.append_nil]

end ReleasePipeline.Proofs
