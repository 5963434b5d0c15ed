import ReleasePipeline.Bindings
import ReleasePipeline.Json.Basic

/-!
# `ReleasePipeline.Json.Record`: reading values of known types

A record is read from an object by the names of its members: unknown members are skipped, and of
several faults the one that stands first in the text is reported. A repeated member is at fault
where it stands the second time, a missing one only where the object ends. Fields are combined
with the operations of an applicative functor, so the reader of a record is its constructor
applied to its fields.

A record may also be written as an array that holds its fields in order. Then only a field with
a default may be missing, and an item too many is not JSON that anything could read.

An enumeration is the name of one of its values, or an object with that name as its only member.
-/

set_option autoImplicit false

namespace ReleasePipeline

/-- A fault met in a record, and how many members stand before it. -/
structure Misfit where
  place : Nat
  fault : Fault

/-- The one of two faults that stands first. -/
def Misfit.first (a b : Misfit) : Misfit :=
  if b.place < a.place then b else a

/-- The members of a record, and whether they were given by name or by position. -/
structure Members where
  entries : List (Option String × Reading)
  named : Bool

/-- The members of one name, each with the number of members before it. -/
def occurrences (name : String) :
    Nat → List (Option String × Reading) → List (Nat × Reading)
  | _, [] => []
  | place, (found, value) :: rest =>
    if found = some name then (place, value) :: occurrences name (place + 1) rest
    else occurrences name (place + 1) rest

/-- A reader for some of the fields of a record: their names in order, and how to read them. -/
structure Fields (α : Type) where
  names : List String
  read : Members → Except Misfit α

namespace Fields

/-- A reader that needs no field. -/
def none {α : Type} (value : α) : Fields α :=
  ⟨[], fun _ => .ok value⟩

/-- Reads two groups of fields; the fault that stands first counts. -/
def apply {α β : Type} (f : Fields (α → β)) (x : Fields α) : Fields β where
  names := f.names ++ x.names
  read members :=
    match f.read members, x.read members with
    | .ok f, .ok a => .ok (f a)
    | .error misfit, .ok _ => .error misfit
    | .ok _, .error misfit => .error misfit
    | .error a, .error b => .error (a.first b)

instance : Applicative Fields where
  pure := none
  seq f x := apply f (x ())

/-- Reads one field with a reader for its value; `absent` is what a missing one gives, where a
missing one is allowed. -/
def single {α : Type} (name : String) (read : Reading → Except Fault α)
    (absent : Members → Option α) : Fields α where
  names := [name]
  read members :=
    match occurrences name 0 members.entries with
    | [] =>
      match absent members with
      | some value => .ok value
      -- That a field is missing shows only behind all members.
      | .none => .error ⟨members.entries.length + 1, .wrongShape⟩
    | (place, value) :: more =>
      -- The value is read before the name is met again.
      match read value, more with
      | .error fault, _ => .error ⟨place, fault⟩
      | .ok result, [] => .ok result
      | .ok _, (again, _) :: _ => .error ⟨again, .wrongShape⟩

/-- A field that must be there. -/
def required {α : Type} [JsonForm α] (name : String) : Fields α :=
  single name ofReading fun _ => .none

/-- A field that may be missing, and then has a value of its own. -/
def defaulted {α : Type} [JsonForm α] (name : String) (value : α) : Fields α :=
  single name ofReading fun _ => some value

/-- A field that may be missing from an object, but not from an array. -/
def optional {α : Type} [JsonForm (Option α)] (name : String) : Fields (Option α) :=
  single name ofReading fun members => if members.named then some .none else .none

/-- Where an object itself is at fault: at a member without a readable name, or where it was cut
short. -/
def objectFlaw (tear : Option Fault) : Nat → List (Option String × Reading) → Option Misfit
  | place, [] => tear.map (⟨place, ·⟩)
  | place, (.none, value) :: _ => some ⟨place, value.misfit⟩
  | place, (some _, _) :: rest => objectFlaw tear (place + 1) rest

/-- Where an array that holds `size` fields is itself at fault: at an item too many, or where it
was cut short. -/
def arrayFlaw (size : Nat) (items : List Reading) (tear : Option Fault) : Option Misfit :=
  if size < items.length then some ⟨size, .notJson⟩ else tear.map (⟨items.length, ·⟩)

/-- What comes of reading the fields of a container that may itself be at fault. -/
def settle {α : Type} (result : Except Misfit α) (flaw : Option Misfit) : Except Fault α :=
  match result, flaw with
  | .ok value, .none => .ok value
  | .ok _, some misfit => .error misfit.fault
  | .error misfit, .none => .error misfit.fault
  | .error misfit, some other => .error (misfit.first other).fault

/-- Reads a record. -/
def record {α : Type} (fields : Fields α) : Reading → Except Fault α
  | .object members tear => settle (fields.read ⟨members, true⟩) (objectFlaw tear 0 members)
  | .list items tear =>
    let members := (fields.names.zip items).map fun (name, item) => (some name, item)
    settle (fields.read ⟨members, false⟩) (arrayFlaw fields.names.length items tear)
  | other => .error other.misfit

end Fields

/-! ### Enumerations -/

/-- One value of an enumeration, or a family of values that carry one thing more. -/
inductive Choice (α : Type) where
  | plain (value : α)
  | carrying (read : Reading → Except Fault α)

/-- Reads the payload that stands behind the name of a choice. -/
def Choice.payload {α : Type} (choice : Choice α) (content : Reading) : Except Fault α :=
  match choice, content with
  | .plain value, .null => .ok value
  | .plain _, other => .error other.misfit
  | .carrying read, other => read other

/-- Reads a value of an enumeration with the given choices. -/
def enumeration {α : Type} (choices : List (String × Choice α)) : Reading → Except Fault α
  | .str text =>
    match choices.lookup text with
    | some (.plain value) => .ok value
    | _ => .error .wrongShape
  | .object [] tear => .error (tear.getD .notJson)
  | .object ((none, value) :: _) _ => .error value.misfit
  | .object ((some name, content) :: more) tear =>
    match choices.lookup name with
    | none => .error .wrongShape
    | some choice =>
      -- The payload stands first in the text, then a second member, then the end.
      match choice.payload content, more, tear with
      | .error fault, _, _ => .error fault
      | .ok _, _ :: _, _ => .error .notJson
      | .ok _, [], some fault => .error fault
      | .ok value, [], none => .ok value
  | .broken fault => .error fault
  | _ => .error .notJson

/-! ### Plain types -/

instance : JsonForm String where
  toJson := .str
  ofReading
    | .str text => .ok text
    | other => .error other.misfit

instance : JsonForm Bool where
  toJson := .bool
  ofReading
    | .bool value => .ok value
    | other => .error other.misfit

instance : JsonForm UInt64 where
  toJson value := .int value.toNat
  ofReading
    | .int value =>
      if 0 ≤ value ∧ value ≤ 18446744073709551615 then .ok (UInt64.ofNat value.toNat)
      else .error .wrongShape
    | other => .error other.misfit

instance : JsonForm Int32 where
  toJson value := .int value.toInt
  ofReading
    | .int value =>
      if -2147483648 ≤ value ∧ value ≤ 2147483647 then .ok (Int32.ofInt value)
      else .error .wrongShape
    | other => .error other.misfit

instance {α : Type} [JsonForm α] : JsonForm (Option α) where
  toJson
    | none => .null
    | some value => toJson value
  ofReading
    | .null => .ok none
    | other => (ofReading other).map some

/-- Reads the items of an array one after the other. -/
def readList {α : Type} (read : Reading → Except Fault α) (tear : Option Fault) :
    List Reading → Except Fault (List α)
  | [] =>
    match tear with
    | none => .ok []
    | some fault => .error fault
  | item :: rest =>
    match read item with
    | .error fault => .error fault
    | .ok first => (readList read tear rest).map (first :: ·)

instance {α : Type} [JsonForm α] : JsonForm (List α) where
  toJson values := .arr (values.map toJson)
  ofReading
    | .list items tear => readList ofReading tear items
    | other => .error other.misfit

/-- Reads the members of an object as names bound to texts. -/
def readBindings (tear : Option Fault) (bindings : Bindings) :
    List (Option String × Reading) → Except Fault Bindings
  | [] =>
    match tear with
    | none => .ok bindings
    | some fault => .error fault
  | (none, value) :: _ => .error value.misfit
  | (some name, .str text) :: rest => readBindings tear (bindings.insert name text) rest
  | (some _, value) :: _ => .error value.misfit

instance : JsonForm Bindings where
  toJson bindings := .obj (bindings.entries.map fun (name, value) => (name, .str value))
  ofReading
    | .object members tear => readBindings tear Bindings.empty members
    | other => .error other.misfit

end ReleasePipeline
