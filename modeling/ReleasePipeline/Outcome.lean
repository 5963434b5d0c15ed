import ReleasePipeline.Json.Parser
import ReleasePipeline.Release.Descriptor
import ReleasePipeline.Report

/-!
# `ReleasePipeline.Outcome`: how a pipeline ended

An outcome is a status together with the reports it rests on and the release it led to. A pipeline
is a success when it published, or when it rightly did not: off the released branch, or when
publishing was put off.

A status is written as one object: its kind, under the name `status`, and what belongs to that
kind beside it.
-/

set_option autoImplicit false

namespace ReleasePipeline

/-- How a pipeline ended. -/
inductive PipelineStatus where
  | skippedByGate
  | variantsFailed
  | notOnReleaseBranch (branch target : String)
  | publishDeferred (built : List String)
  | published (release : PublishedRelease)
  | publishFailed (kind : FailureKind) (message : String)
  deriving DecidableEq

namespace PipelineStatus

/-- The member that holds the kind of a status. -/
def tag : String := "status"

/-- The kind of a status. -/
def kind : PipelineStatus → String
  | .skippedByGate => "skipped_by_gate"
  | .variantsFailed => "variants_failed"
  | .notOnReleaseBranch .. => "not_on_release_branch"
  | .publishDeferred _ => "publish_deferred"
  | .published _ => "published"
  | .publishFailed .. => "publish_failed"

/-- What belongs to a status beside its kind. -/
def content : PipelineStatus → List (String × Json)
  | .skippedByGate | .variantsFailed => []
  | .notOnReleaseBranch branch target => [("branch", toJson branch), ("target", toJson target)]
  | .publishDeferred built => [("built", toJson built)]
  | .published release => [("release", toJson release)]
  | .publishFailed kind message => [("kind", toJson kind), ("message", toJson message)]

/-- A status that nothing belongs to. An array may hold nothing after its kind. -/
def bare (status : PipelineStatus) : Reading → Except Fault PipelineStatus
  | .list (_ :: _) _ => .error .wrongShape
  | _ => .ok status

/-- The kind of a failure that belongs to a status. Where a kind is written as an object, its member
may be empty here, and not only `null`. -/
def readFailureKind : Reading → Except Fault FailureKind
  | .object [(some name, .object [] none)] none => ofReading (.object [(some name, .null)] none)
  | other => ofReading other

/-- The readers for what belongs to each kind. -/
def readers : List (String × (Reading → Except Fault PipelineStatus)) :=
  [("skipped_by_gate", bare .skippedByGate), ("variants_failed", bare .variantsFailed),
   ("not_on_release_branch", Fields.record
      (notOnReleaseBranch <$> .required "branch" <*> .required "target")),
   ("publish_deferred", Fields.record (publishDeferred <$> .required "built")),
   ("published", Fields.record (published <$> .required "release")),
   ("publish_failed", Fields.record
      (publishFailed <$> .single "kind" readFailureKind (fun _ => none) <*> .required "message"))]

/-- The reader for what belongs to the kind that is written. -/
def readerOf (kind : Reading) : Except Fault (Reading → Except Fault PipelineStatus) :=
  match kind with
  | .str name =>
    match readers.lookup name with
    | some read => .ok read
    | none => .error .wrongShape
  | other => .error other.misfit

mutual

/-- The first fault anywhere in a reading whose containers may nest `depth` deep. -/
def flaw? (depth : Nat) : Reading → Option Fault
  | .list items tear =>
    match depth with
    | 0 => some .notJson
    | depth + 1 => (itemsFlaw? depth items).or tear
  | .object members tear =>
    match depth with
    | 0 => some .notJson
    | depth + 1 => (membersFlaw? depth members).or tear
  | .cutScalar => some .endsEarly
  | .broken fault => some fault
  | _ => none

/-- The first fault in the items of an array. -/
def itemsFlaw? (depth : Nat) : List Reading → Option Fault
  | [] => none
  | item :: rest => (flaw? depth item).or (itemsFlaw? depth rest)

/-- The first fault in the members of an object. -/
def membersFlaw? (depth : Nat) : List (Option String × Reading) → Option Fault
  | [] => none
  | (none, value) :: _ => some value.misfit
  | (some _, value) :: rest => (flaw? depth value).or (membersFlaw? depth rest)

end

/-- Goes through the members of a status up to its end: the kind is read where it stands, and a
second one is a fault. The other members are only looked through, since what they should be
depends on a kind that may come later. -/
def scanMembers (depth : Nat) (tear : Option Fault)
    (found : Option (Reading → Except Fault PipelineStatus)) :
    List (Option String × Reading) →
      Except Fault (Option (Reading → Except Fault PipelineStatus))
  | [] =>
    match tear with
    | some fault => .error fault
    | none => .ok found
  | (none, value) :: _ => .error value.misfit
  | (some name, value) :: rest =>
    if name = tag then
      -- The second kind is at fault before it is looked at.
      match found, readerOf value with
      | some _, _ => .error .wrongShape
      | none, .error fault => .error fault
      | none, .ok read => scanMembers depth tear (some read) rest
    else
      match flaw? depth value with
      | some fault => .error fault
      | none => scanMembers depth tear found rest

/-- What belongs to a status was looked through before, so any fault found in it now is one of
shape. -/
def asShape {α : Type} (result : Except Fault α) : Except Fault α :=
  result.mapError fun _ => .wrongShape

/-- How deep the values beside the kind of a status may nest. -/
def contentDepth : Nat := 126

/-- Reads a status. -/
def read : Reading → Except Fault PipelineStatus
  | .object members tear => do
    let found ← scanMembers contentDepth tear none members
    match found with
    | none => .error .wrongShape
    -- The kind is taken out, as it is no member of what belongs to it.
    | some read => asShape (read (.object (members.filter fun member => member.1 ≠ some tag) none))
  | .list [] tear => .error (tear.getD .wrongShape)
  | .list (kind :: rest) tear => do
    let read ← readerOf kind
    match (itemsFlaw? contentDepth rest).or tear with
    | some fault => .error fault
    | none => asShape (read (.list rest none))
  | other => .error other.misfit

instance : JsonForm PipelineStatus where
  toJson status := .obj ((tag, .str status.kind) :: status.content)
  ofReading := read

end PipelineStatus

/-- The end of a pipeline, with what it rests on. -/
structure PipelineOutcome where
  status : PipelineStatus
  variants : List VariantReport
  release : Option ReleaseDescriptor
  deriving DecidableEq

namespace PipelineOutcome

/-- The outcome of a pipeline that was not started. -/
def skippedByGate : PipelineOutcome :=
  ⟨.skippedByGate, [], none⟩

/-- Whether the pipeline did what it should. -/
def isSuccess (outcome : PipelineOutcome) : Bool :=
  match outcome.status with
  | .published _ | .notOnReleaseBranch .. | .publishDeferred _ => true
  | .skippedByGate | .variantsFailed | .publishFailed .. => false

/-- Whether the pipeline released something. -/
def isPublished (outcome : PipelineOutcome) : Bool :=
  match outcome.status with
  | .published _ => true
  | _ => false

/-- The exit code for an outcome. -/
def exitCode (outcome : PipelineOutcome) : UInt8 :=
  if outcome.isSuccess then 0 else 1

/-- The artifacts of all reports that have one. -/
def artifacts (outcome : PipelineOutcome) : List Artifact :=
  outcome.variants.filterMap (·.artifact)

instance : JsonForm PipelineOutcome where
  toJson outcome := .obj
    [("status", toJson outcome.status), ("variants", toJson outcome.variants),
     ("release", toJson outcome.release)]
  ofReading := Fields.record <|
    PipelineOutcome.mk <$> .required "status" <*> .required "variants" <*> .optional "release"

end PipelineOutcome
end ReleasePipeline
