import ReleasePipeline.Text.Decimal

/-!
# `ReleasePipeline.Glob`: patterns for file names

A pattern matches a whole text. `?` stands for one character, a class in brackets for one of its
characters (or, behind `!`, for one of all others), and `*` for any run of characters. A
separator or a leading dot is a character like any other. `**` has to be a whole component of
the pattern, and stands for any number of whole components.

`Pattern.ofText` reads a pattern, and a text that is no pattern is refused with the position of
the character that is at fault, counted from 0. `Pattern.accepts` matches.
-/

set_option autoImplicit false

namespace ReleasePipeline.Glob

/-- A part of a class: one character, or a range with both of its ends. -/
inductive ClassPart where
  | one (c : Char)
  | range (first last : Char)
  deriving DecidableEq, Repr

/-- Whether a character belongs to a part of a class. -/
def ClassPart.holds (c : Char) : ClassPart → Bool
  | .one d => c == d
  | .range first last => first ≤ c && c ≤ last

/-- A part of a pattern. -/
inductive Token where
  | char (c : Char)
  | anyChar
  /-- One character of a class, or one outside of it. -/
  | oneOf (negated : Bool) (parts : List ClassPart)
  /-- Any run of characters. -/
  | anyRun
  /-- Any run of whole components. -/
  | anyComponents
  deriving DecidableEq, Repr

/-- What is wrong with a pattern. -/
inductive PatternFault where
  | manyStars
  | partialComponent
  | invalidClass
  deriving DecidableEq, Repr

/-- What is wrong with a pattern, and at which of its characters. -/
structure PatternError where
  position : Nat
  fault : PatternFault
  deriving DecidableEq, Repr

/-- The wording of what is wrong. -/
def PatternFault.message : PatternFault → String
  | .manyStars => "wildcards are either regular `*` or recursive `**`"
  | .partialComponent => "recursive wildcards must form a single path component"
  | .invalidClass => "invalid range pattern"

/-- The wording of what is wrong and where. -/
def PatternError.message (error : PatternError) : String :=
  "Pattern syntax error near position " ++ String.ofList (Text.digits error.position) ++ ": " ++
    error.fault.message

/-! ### Reading a pattern -/

/-- The parts of a class. A hyphen between two characters makes a range of them. -/
def classParts : List Char → List ClassPart
  | first :: '-' :: last :: rest => .range first last :: classParts rest
  | c :: rest => .one c :: classParts rest
  | [] => []

/-- The characters of a class up to its closing bracket, and what follows. The first character
belongs to the class whatever it is. -/
def takeClass : List Char → Option (List Char × List Char)
  | [] => none
  | first :: rest =>
    match rest.dropWhile (· ≠ ']') with
    | [] => none
    | _ :: after => some (first :: rest.takeWhile (· ≠ ']'), after)

/-- A class from behind its opening bracket, and what follows. -/
def readClass : List Char → Option (Token × List Char)
  | '!' :: rest =>
    (takeClass rest).map fun (chars, after) => (.oneOf true (classParts chars), after)
  | rest =>
    (takeClass rest).map fun (chars, after) => (.oneOf false (classParts chars), after)

/-- What follows a class is shorter than the text that begins with it. -/
theorem length_of_takeClass {text chars after : List Char}
    (h : takeClass text = some (chars, after)) : after.length < text.length := by
  cases text with
  | nil => simp [takeClass] at h
  | cons first rest =>
    simp only [takeClass] at h
    split at h
    · simp at h
    next found =>
      simp only [Option.some.injEq, Prod.mk.injEq] at h
      have hlen := (List.dropWhile_sublist (l := rest) (· ≠ ']')).length_le
      rw [found] at hlen
      simp only [List.length_cons] at hlen ⊢
      rw [← h.2]
      omega

/-- So is what follows one that may be negated, and reading a pattern comes to an end. -/
theorem length_of_readClass {text after : List Char} {token : Token}
    (h : readClass text = some (token, after)) : after.length < text.length := by
  unfold readClass at h
  split at h
  next rest =>
    obtain ⟨⟨chars, found⟩, hfound, heq⟩ := Option.map_eq_some_iff.1 h
    simp only [Prod.mk.injEq] at heq
    have := length_of_takeClass hfound
    simp only [List.length_cons]
    rw [← heq.2]
    omega
  next =>
    obtain ⟨⟨chars, found⟩, hfound, heq⟩ := Option.map_eq_some_iff.1 h
    simp only [Prod.mk.injEq] at heq
    have := length_of_takeClass hfound
    rw [← heq.2]
    omega

/-- The tokens of the rest of a pattern. The length of the whole pattern tells positions, and the
character before the rest tells where a component begins. -/
def tokens (size : Nat) (previous : Option Char) (text : List Char) :
    Except PatternError (List Token) :=
  match text with
  | [] => .ok []
  | '?' :: rest => (tokens size (some '?') rest).map (.anyChar :: ·)
  | '*' :: '*' :: '*' :: _ => .error ⟨size - text.length + 2, .manyStars⟩
  | '*' :: '*' :: rest =>
    -- A recursive wildcard needs a separator or an end on both of its sides.
    if previous = none ∨ previous = some '/' then
      match rest with
      | [] => .ok [.anyComponents]
      | '/' :: after => (tokens size (some '/') after).map (.anyComponents :: ·)
      | _ => .error ⟨size - text.length + 2, .partialComponent⟩
    else .error ⟨size - text.length - 1, .partialComponent⟩
  | '*' :: rest => (tokens size (some '*') rest).map (.anyRun :: ·)
  | '[' :: rest =>
    match hclass : readClass rest with
    | none => .error ⟨size - text.length, .invalidClass⟩
    | some (token, after) =>
      have := length_of_readClass hclass
      (tokens size (some ']') after).map (token :: ·)
  | c :: rest => (tokens size (some c) rest).map (.char c :: ·)
termination_by text.length
decreasing_by all_goals simp only [List.length_cons]; omega

/-- A pattern. -/
structure Pattern where
  tokens : List Token
  deriving DecidableEq, Repr

/-- Reads a pattern. -/
def Pattern.ofText (text : String) : Except PatternError Pattern :=
  (Glob.tokens text.toList.length none text.toList).map Pattern.mk

/-! ### Matching -/

/-- The texts that remain when some run of characters is taken from the front. -/
def afterRun : List Char → List (List Char)
  | [] => [[]]
  | c :: rest => (c :: rest) :: afterRun rest

/-- The texts that remain when some whole components are taken from the front. -/
def afterComponents : List Char → List (List Char)
  | [] => []
  | c :: rest => if c = '/' then rest :: afterComponents rest else afterComponents rest

/-- Whether a token that stands for one character stands for this one. -/
def Token.holds (c : Char) : Token → Bool
  | .char d => c == d
  | .anyChar => true
  | .oneOf negated parts => parts.any (·.holds c) != negated
  | .anyRun | .anyComponents => false

/-- What comes of trying to match a text. -/
inductive Verdict where
  | fits
  /-- A character is in the way, or is left over. -/
  | differs
  /-- Characters are wanted and none are left. No later part of the text can do better. -/
  | tooShort
  deriving DecidableEq, Repr

/-- The first verdict on some texts that is not that they differ. -/
def Verdict.first (judge : List Char → Verdict) : List (List Char) → Verdict
  | [] => .differs
  | text :: rest =>
    match judge text with
    | .differs => first judge rest
    | decided => decided

/-- Matches tokens against a whole text. -/
def judge : List Token → List Char → Verdict
  | [], [] => .fits
  | [], _ :: _ => .differs
  -- The shortest run is tried first.
  | .anyRun :: rest, text => .first (judge rest) (afterRun text)
  | .anyComponents :: rest, text => .first (judge rest) (text :: (afterComponents text ++ [[]]))
  | _ :: _, [] => .tooShort
  | token :: rest, c :: text => if token.holds c then judge rest text else .differs

/-- Whether a pattern matches a text. -/
def Pattern.accepts (pattern : Pattern) (text : String) : Bool :=
  judge pattern.tokens text.toList = .fits

end ReleasePipeline.Glob
