/-!
# `ReleasePipeline.Hosting.Punycode`: texts of any script in letters, digits and hyphens

The ASCII characters of a text come first, as they are, and a hyphen ends them if there are any.
What follows tells where the other characters go: they are put in one after the other, in ascending
order, and for each one there is a number that says how far it lies behind the one before. The pairs
of a place and a character are counted through, all places for one character and then all places for
the next, so one number moves both.

Such a number is written with the digits `a` to `z` and `0` to `9`, the lowest one first. A digit
below the threshold of its place is the last one. The thresholds follow the numbers seen so far, so
that texts of one script stay short.
-/

set_option autoImplicit false

namespace ReleasePipeline.Punycode

/-- The base of the numbers. -/
def base : Nat := 36

/-- The least threshold of a digit. -/
def minThreshold : Nat := 1

/-- The greatest threshold of a digit. -/
def maxThreshold : Nat := 26

/-- The first character that is not ASCII. -/
def firstOther : Nat := 128

/-- The bias before any number was seen. -/
def firstBias : Nat := 72

/-- The character of a digit. -/
def digitChar (digit : Nat) : Char :=
  if digit < 26 then Char.ofNat ('a'.toNat + digit) else Char.ofNat ('0'.toNat + (digit - 26))

/-- The value of a digit of either case. -/
def digit? (c : Char) : Option Nat :=
  if 'a' ≤ c ∧ c ≤ 'z' then some (c.toNat - 'a'.toNat)
  else if 'A' ≤ c ∧ c ≤ 'Z' then some (c.toNat - 'A'.toNat)
  else if c.isDigit then some (c.toNat - '0'.toNat + 26)
  else none

/-- The threshold of the digit at a place, which is a multiple of the base. -/
def threshold (bias place : Nat) : Nat :=
  max minThreshold (min maxThreshold (place - bias))

/-- Every digit has a threshold above zero. -/
theorem threshold_pos (bias place : Nat) : 0 < threshold bias place := by
  simp only [threshold, minThreshold]
  omega

/-- Divides a number until it is small, and counts the base once for each time. -/
def settle (number counted : Nat) : Nat × Nat :=
  -- The divisor is `base - minThreshold`, and the limit half of that times `maxThreshold`.
  if 455 < number then settle (number / 35) (counted + base) else (number, counted)
termination_by number
decreasing_by exact Nat.div_lt_self (by omega) (by omega)

/-- The bias after a number, when there are `size` characters. The first number counts little. -/
def adapt (number size : Nat) (first : Bool) : Nat :=
  let halved := if first then number / 700 else number / 2
  let (small, counted) := settle (halved + halved / size) 0
  counted + 36 * small / (small + 38)

/-! ### Writing -/

/-- The digits of a number, from a place on. -/
def digits (bias place number : Nat) : List Char :=
  let limit := threshold bias place
  if number < limit then [digitChar number]
  else
    digitChar (limit + (number - limit) % (base - limit)) ::
      digits bias (place + base) ((number - limit) / (base - limit))
termination_by number
decreasing_by
  have := threshold_pos bias place
  have := Nat.div_le_self (number - threshold bias place) (base - threshold bias place)
  omega

/-- What is known while a text is written: the characters handled so far, how far the next one lies
behind the last one, and the bias. -/
structure Writing where
  handled : Nat
  distance : Nat
  bias : Nat

/-- Goes over a text for one character: the digits of each place where it stands. -/
def writeChar (basic char : Nat) : Writing → List Nat → List Char × Writing
  | state, [] => ([], state)
  | state, c :: rest =>
    if c < char then writeChar basic char { state with distance := state.distance + 1 } rest
    else if c = char then
      let next : Writing :=
        { handled := state.handled + 1
          distance := 0
          bias := adapt state.distance (state.handled + 1) (state.handled == basic) }
      let (written, last) := writeChar basic char next rest
      (digits state.bias base state.distance ++ written, last)
    else writeChar basic char state rest

/-- Goes over a text once for each of its characters that are not ASCII, in ascending order. The
characters below `lowest` are done. -/
def writeChars (text : List Nat) (basic lowest : Nat) (state : Writing) : List Nat → List Char
  | [] => []
  | char :: rest =>
    -- All places are counted through for each character between the last one and this one.
    let skipped := (char - lowest) * (state.handled + 1)
    let (written, state) :=
      writeChar basic char { state with distance := state.distance + skipped } text
    written ++ writeChars text basic (char + 1) { state with distance := state.distance + 1 } rest

/-- Puts a number into ascending numbers, unless it is there. -/
def place (number : Nat) : List Nat → List Nat
  | [] => [number]
  | first :: rest =>
    if number < first then number :: first :: rest
    else if number = first then first :: rest
    else first :: place number rest

/-- A text in letters, digits and hyphens. -/
def encode (text : List Char) : List Char :=
  let basic := text.filter fun c => c.toNat < firstOther
  let others := (text.filter fun c => firstOther ≤ c.toNat).map Char.toNat
  basic ++ (if basic.isEmpty then [] else ['-']) ++
    writeChars (text.map Char.toNat) basic.length firstOther ⟨basic.length, 0, firstBias⟩
      (others.foldr place [])

/-! ### Reading -/

/-- The greatest weight of a digit. Numbers are of 32 bits. -/
def maxWeight : Nat := 4294967295

/-- Reads a number, whose digits weigh `weight` from here on, and adds it to another one. -/
def number? (bias : Nat) : Nat → Nat → Nat → List Char → Option (Nat × List Char)
  | _, _, _, [] => none
  | place, weight, number, c :: rest =>
    match if maxWeight < weight then none else digit? c with
    | none => none
    | some digit =>
      let limit := threshold bias place
      let number := number + digit * weight
      if digit < limit then some (number, rest)
      else number? bias (place + base) (weight * (base - limit)) number rest

/-- A number takes at least one character. -/
theorem length_lt_of_number? {bias place weight number result : Nat} {text rest : List Char}
    (h : number? bias place weight number text = some (result, rest)) :
    rest.length < text.length := by
  induction text generalizing place weight number with
  | nil => simp [number?] at h
  | cons c tail ih =>
    simp only [number?] at h
    split at h
    · simp at h
    · split at h
      · simp only [Option.some.injEq, Prod.mk.injEq] at h
        rw [← h.2, List.length_cons]
        exact Nat.lt_succ_self _
      · exact Nat.lt_succ_of_lt (ih h)

/-- The character of a code point, if there is one. -/
def char? (code : Nat) : Option Char :=
  if code < 0xd800 ∨ (0xdfff < code ∧ code < 0x110000) then some (Char.ofNat code) else none

/-- Puts characters into a text as the numbers say. The last one was put in before `place`, and
`char` is the least one that may follow. -/
def insertAll (bias char place : Nat) (text : List Char) (input : List Char) :
    Option (List Char) :=
  if input.isEmpty then some text
  else
    match _h : number? bias base 1 place input with
    | none => none
    | some (number, rest) =>
      -- One number tells both: whole rounds over the places go to the character, the rest to the
      -- place.
      let size := text.length + 1
      let code := char + number / size
      match char? code with
      | none => none
      | some c =>
        insertAll (adapt (number - place) size (place == 0)) code
          (number % size + 1) (text.insertIdx (number % size) c) rest
termination_by input.length
decreasing_by exact length_lt_of_number? (by assumption)

/-- Reads a text that was written in letters, digits and hyphens. A hyphen with nothing in front of
it ends no characters. -/
def decode? (input : List Char) : Option (List Char) :=
  if input.any fun c => firstOther ≤ c.toNat then none
  else
    let tail := (input.reverse.takeWhile (· ≠ '-')).reverse
    let basic := input.take (input.length - tail.length)
    match basic with
    | [] => insertAll firstBias firstOther 0 [] tail
    | ['-'] => none
    | basic => insertAll firstBias firstOther 0 basic.dropLast tail

end ReleasePipeline.Punycode
