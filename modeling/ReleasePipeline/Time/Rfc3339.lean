import ReleasePipeline.Json.Record
import ReleasePipeline.Time.Instant
import ReleasePipeline.Text.Blank

/-!
# `ReleasePipeline.Time.Rfc3339`: time stamps

A time stamp is written in RFC 3339 for the zone `Z`, with no fraction or with three, six or nine
digits of it, the fewest that keep the value. Reading is more lenient: blanks may stand between
the parts, a letter or a blank may separate date and time, the parts may have fewer digits, and
the zone may be any offset of less than a day. A minute may have sixty seconds, which is a leap
second. More than nine digits of a fraction are cut off.
-/

set_option autoImplicit false

namespace ReleasePipeline.Rfc3339

open Text (isBlank digitValue valueOfDigits paddedDigits)

/-! ### Writing -/

/-- The fraction of a second, with the fewest groups of three digits that keep it. -/
def fractionText (nanos : Nat) : List Char :=
  if nanos == 0 then []
  else if nanos % 1000000 == 0 then '.' :: paddedDigits 3 (nanos / 1000000)
  else if nanos % 1000 == 0 then '.' :: paddedDigits 6 (nanos / 1000)
  else '.' :: paddedDigits 9 nanos

/-- The time stamp of an instant. -/
def write (instant : Instant) : List Char :=
  instant.date.text ++ 'T' :: instant.clockText ++
    (fractionText (instant.nanos % nanosPerSecond) ++ ['Z'])

/-! ### Reading -/

/-- Skips the blanks in front. -/
def skipBlanks (text : List Char) : List Char :=
  text.dropWhile isBlank

/-- The digits in front, at most `limit` of them, and what follows. -/
def takeDigits : Nat → List Char → List Char × List Char
  | limit + 1, c :: rest =>
    if c.isDigit then
      let (digits, after) := takeDigits limit rest
      (c :: digits, after)
    else ([], c :: rest)
  | _, text => ([], text)

/-- A number of one digit up to `limit` digits, behind blanks. -/
def number (limit : Nat) (text : List Char) : Option (Nat × List Char) :=
  match takeDigits limit (skipBlanks text) with
  | ([], _) => none
  | (digits, rest) => some (valueOfDigits digits, rest)

/-- The year: a sign and any number of digits, or up to four digits without one. -/
def year (text : List Char) : Option (Int × List Char) :=
  match skipBlanks text with
  | '+' :: rest => signed 1 rest
  | '-' :: rest => signed (-1) rest
  | text => (number 4 text).map fun (value, rest) => (value, rest)
where
  /-- The digits of a year behind its sign. -/
  signed (sign : Int) (text : List Char) : Option (Int × List Char) :=
    match takeDigits text.length text with
    | ([], _) => none
    | (digits, rest) => some (sign * valueOfDigits digits, rest)

/-- A given character, behind blanks. -/
def mark (c : Char) (text : List Char) : Option (List Char) :=
  match skipBlanks text with
  | d :: rest => if d = c then some rest else none
  | [] => none

/-- The nanoseconds of the fraction that may follow a second. -/
def fraction (text : List Char) : Option (Nat × List Char) :=
  match text with
  | '.' :: rest =>
    let digits := rest.takeWhile Char.isDigit
    let kept := digits.take 9
    if digits.isEmpty then none
    else some (valueOfDigits kept * Nat.pow 10 (9 - kept.length), rest.dropWhile Char.isDigit)
  | text => some (0, text)

/-- What separates the date from the time. -/
def separator (text : List Char) : Option (List Char) :=
  match text with
  | c :: rest =>
    if c = 'T' ∨ c = 't' ∨ c = ' ' then some rest else none
  | [] => none

/-- Two digits, with no blank in front. -/
def twoDigits (text : List Char) : Option (Nat × List Char) :=
  match text with
  | a :: b :: rest =>
    if a.isDigit && b.isDigit then some (valueOfDigits [a, b], rest) else none
  | _ => none

/-- The seconds by which a zone is ahead of the zone `Z`. -/
def zone (text : List Char) : Option (Int × List Char) :=
  match text with
  | 'Z' :: rest => some (0, rest)
  | 'z' :: rest => some (0, rest)
  | c :: rest =>
    if c = '+' then offset 1 rest
    else if c = '-' ∨ c = '\u2212' then offset (-1) rest
    else if (text.take 3).map Char.toUpper = ['U', 'T', 'C'] then some (0, text.drop 3)
    else none
  | [] => none
where
  /-- Hours and minutes behind the sign of an offset. -/
  offset (sign : Int) (text : List Char) : Option (Int × List Char) := do
    let (hours, rest) ← twoDigits text
    let (minutes, rest) ← twoDigits (rest.dropWhile fun c => c == ':' || isBlank c)
    if minutes < 60 then some (sign * (hours * 3600 + minutes * 60 : Nat), rest) else none

/-- Reads a time stamp. -/
def read (text : List Char) : Option Instant := do
  let (year, text) ← year text
  let text ← mark '-' text
  let (month, text) ← number 2 text
  let text ← mark '-' text
  let (day, text) ← number 2 text
  let text ← separator text
  let (hour, text) ← number 2 text
  let text ← mark ':' text
  let (minute, text) ← number 2 text
  let text ← mark ':' text
  let (second, text) ← number 2 text
  let (nanos, text) ← fraction text
  let (ahead, text) ← zone (skipBlanks text)
  let date : Date := ⟨year, month, day⟩
  if skipBlanks text ≠ [] ∨ date.isValid = false then none
  else if 24 ≤ hour ∨ 60 ≤ minute ∨ 61 ≤ second ∨ 86400 ≤ ahead.natAbs then none
  else
    let nanos := if second = 60 then nanos + nanosPerSecond else nanos
    -- The moment has to be in range as it is written and as it is meant.
    let inZone ← Instant.of?
      (date.toDay * 86400 + (hour * 3600 + minute * 60 + min second 59 : Nat)) nanos
    Instant.of? (inZone.second - ahead) nanos

instance : JsonForm Instant where
  toJson instant := .str (String.ofList (write instant))
  ofReading
    | .str text =>
      match read text.toList with
      | some instant => .ok instant
      | none => .error .wrongShape
    | other => .error other.misfit

end ReleasePipeline.Rfc3339
