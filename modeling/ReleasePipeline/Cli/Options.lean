import ReleasePipeline.Text.Decimal

/-!
# `ReleasePipeline.Cli.Options`: reading the options of a command line

A command takes options with values, options without, and no other arguments. A value stands
behind its option as the next argument, or behind an equals sign. An option is settled when the
next one is read, or at the end; only then its value is judged. So the first fault met is the
one reported, and an argument that nothing knows is a fault as soon as it is read.
-/

set_option autoImplicit false

namespace ReleasePipeline.Cli

/-- Why a command line cannot be carried out as it stands. -/
inductive UsageError where
  | missingRequiredArgument
  | unknownArgument
  | invalidSubcommand
  /-- A value is missing. -/
  | invalidValue
  | valueValidation
  /-- A value too much. -/
  | tooManyValues
  /-- An option was given twice. -/
  | argumentConflict
  | displayHelp
  | displayVersion
  /-- There is no command, and help is to be shown for that reason. -/
  | displayHelpOnMissing
  deriving DecidableEq, Repr

/-- The name of a kind of usage error. -/
def UsageError.name : UsageError → String
  | .missingRequiredArgument => "MissingRequiredArgument"
  | .unknownArgument => "UnknownArgument"
  | .invalidSubcommand => "InvalidSubcommand"
  | .invalidValue => "InvalidValue"
  | .valueValidation => "ValueValidation"
  | .tooManyValues => "TooManyValues"
  | .argumentConflict => "ArgumentConflict"
  | .displayHelp => "DisplayHelp"
  | .displayVersion => "DisplayVersion"
  | .displayHelpOnMissing => "DisplayHelpOnMissingArgumentOrSubcommand"

/-- What an option takes. -/
inductive OptionKind where
  /-- No value. -/
  | flag
  /-- One value, once. -/
  | text
  /-- One value, as often as one likes. -/
  | texts
  /-- A number, once. -/
  | count
  deriving DecidableEq, Repr

/-- An option of a command. -/
structure OptionSpec where
  name : String
  kind : OptionKind
  deriving DecidableEq, Repr

/-- An option that was given, with its value if it takes one. -/
structure GivenOption where
  name : String
  value : String
  deriving DecidableEq, Repr

/-- The options read so far. -/
structure OptionState where
  given : List GivenOption
  /-- The option that was read last and takes a value, and its value if that was read. -/
  pending : Option (OptionSpec × Option String)

namespace OptionState

/-- No options. -/
def start : OptionState := ⟨[], none⟩

/-- Whether an option was given. -/
def has (state : OptionState) (name : String) : Bool :=
  state.given.any (·.name == name)

/-- Whether a text will do as a value. -/
def isValue (kind : OptionKind) (value : String) : Bool :=
  match kind with
  | .count =>
    match Text.readCount value.toList with
    | .ok _ => true
    | .error _ => false
  | _ => true

/-- Adds an option with its value. -/
def give (state : OptionState) (spec : OptionSpec) (value : String) :
    Except UsageError OptionState :=
  if spec.kind ≠ .texts ∧ state.has spec.name = true then .error .argumentConflict
  else if isValue spec.kind value then
    .ok { state with given := state.given ++ [⟨spec.name, value⟩] }
  else .error .valueValidation

/-- Settles the option that was read last. -/
def settle (state : OptionState) : Except UsageError OptionState :=
  match state.pending with
  | none => .ok state
  | some (_, none) => .error .invalidValue
  | some (spec, some value) => { state with pending := none }.give spec value

/-- Reads an option by its long name, with the value behind an equals sign if there is one. -/
def readLong (specs : List OptionSpec) (name : String) (attached : Option String)
    (state : OptionState) : Except UsageError OptionState := do
  if name = "help" then
    if attached.isSome then .error .tooManyValues
    -- A fault of the option before outweighs the wish for help.
    let _ ← state.settle
    .error .displayHelp
  match specs.find? (·.name == name), attached with
  | none, _ => .error .unknownArgument
  | some spec, some value =>
    if spec.kind = .flag then .error .tooManyValues
    else do
      let state ← state.settle
      state.give spec value
  | some spec, none => do
    let state ← state.settle
    if spec.kind = .flag then state.give spec ""
    else .ok { state with pending := some (spec, none) }

/-- Reads an argument that is no option. -/
def readValue (value : String) (state : OptionState) : Except UsageError OptionState :=
  match state.pending with
  | some (spec, none) => .ok { state with pending := some (spec, some value) }
  | _ => .error .unknownArgument

end OptionState

/-- How an argument is to be understood. -/
inductive Argument where
  /-- Two hyphens: what follows are no options. -/
  | escape
  /-- A long option, and the text behind its equals sign. -/
  | long (name : String) (attached : Option String)
  /-- A group of options of one letter each. -/
  | short (letters : List Char)
  | word (text : String)
  deriving DecidableEq, Repr

/-- Understands an argument. -/
def Argument.ofText (text : String) : Argument :=
  match text.toList with
  | ['-', '-'] => .escape
  | '-' :: '-' :: rest =>
    let value := rest.dropWhile (· ≠ '=')
    .long (String.ofList (rest.takeWhile (· ≠ '='))) (value.tail?.map String.ofList)
  | '-' :: c :: rest => .short (c :: rest)
  | _ => .word text

/-- Reads the options of a command. -/
def readOptions (specs : List OptionSpec) : OptionState → List String →
    Except UsageError (List GivenOption)
  | state, [] => do
    let state ← state.settle
    .ok state.given
  | state, text :: rest =>
    match Argument.ofText text with
    | .escape =>
      -- No command takes arguments of its own, so nothing may follow the two hyphens.
      if rest.isEmpty then do
        let state ← state.settle
        .ok state.given
      else .error .unknownArgument
    | .long name attached => do
      let state ← state.readLong specs name attached
      readOptions specs state rest
    | .short letters =>
      if letters.head? = some 'h' then do
        let _ ← state.settle
        .error .displayHelp
      else .error .unknownArgument
    | .word text => do
      let state ← state.readValue text
      readOptions specs state rest

/-- The values given for an option, in order. -/
def valuesOf (given : List GivenOption) (name : String) : List String :=
  (given.filter (·.name == name)).map (·.value)

/-- The value given for an option. -/
def valueOf? (given : List GivenOption) (name : String) : Option String :=
  (given.find? (·.name == name)).map (·.value)

end ReleasePipeline.Cli
