import ReleasePipeline.Report
import ReleasePipeline.Text.Decimal

/-!
# `ReleasePipeline.Schedule`: running all variants, so many at a time

Every variant is a task of its own. A task waits for a place on the floor, runs, and gives its
place back however it ends. The reports come back in the order of the variants, whatever order
the tasks ended in, and a task that crashed is reported as aborted.

`Floor` is the state of all tasks, `Floor.step` what may happen next. `runAll` lets the tasks run
one after the other, which is one of the orders that the floor allows; the reports of any other
order are collected by the same `collect`.
-/

set_option autoImplicit false

namespace ReleasePipeline

/-- How many variants may run at once: the cap that was asked for, or as many as there are, but
always one. -/
def places (cap : Option Nat) (variants : Nat) : Nat :=
  max (cap.getD variants) 1

/-- The greatest number of places that can be asked for. -/
def maxPlaces : Nat := 2305843009213693951

/-- The end of a task: what it returned, or the message it crashed with. -/
abbrev TaskEnd := Except String VariantReport

/-- Where a task stands. -/
inductive TaskState where
  | waiting
  | running
  | ended (result : TaskEnd)

/-- Whether a task is running. -/
def TaskState.isRunning : TaskState → Bool
  | .running => true
  | _ => false

/-- The tasks of all variants, in the order of the variants. -/
structure Floor where
  places : Nat
  tasks : List TaskState

/-- Something that happens on the floor. -/
inductive FloorEvent where
  /-- A waiting task takes a place. -/
  | start (task : Nat)
  /-- A running task ends and gives its place back. -/
  | finish (task : Nat) (result : TaskEnd)

namespace Floor

/-- The floor on which no task has started. -/
def opening (cap : Option Nat) (variants : List Variant) : Floor :=
  ⟨ReleasePipeline.places cap variants.length, variants.map fun _ => .waiting⟩

/-- How many tasks are running. -/
def running (floor : Floor) : Nat :=
  floor.tasks.countP TaskState.isRunning

/-- What an event makes of the floor, if it can happen. -/
def step (floor : Floor) : FloorEvent → Option Floor
  | .start task =>
    match floor.tasks[task]? with
    | some .waiting =>
      -- A task that finds no place keeps waiting.
      if floor.running < floor.places then
        some { floor with tasks := floor.tasks.set task .running }
      else none
    | _ => none
  | .finish task result =>
    match floor.tasks[task]? with
    | some .running => some { floor with tasks := floor.tasks.set task (.ended result) }
    | _ => none

/-- What a sequence of events makes of the floor, if they can happen. -/
def run (floor : Floor) : List FloorEvent → Option Floor
  | [] => some floor
  | event :: rest => (floor.step event).bind (run · rest)

/-- The ends of all tasks, once all have ended. -/
def results? (floor : Floor) : Option (List TaskEnd) :=
  floor.tasks.mapM fun
    | .ended result => some result
    | _ => none

end Floor

/-- What is reported of a task that crashed. -/
def crashReason (task : Nat) (message : String) : String :=
  "variant task aborted: task " ++ String.ofList (Text.digits task) ++
    " panicked with message \"" ++ message ++ "\""

section
variable {m : Type → Type} [Monad m]

/-- The report of a task, whose number is only told if it crashed. -/
def reportTask (now : m Instant) (newRunId : m RunId) (number : Nat) (variant : Variant) :
    TaskEnd → m VariantReport
  | .ok report => pure report
  | .error message => do
    let runId ← newRunId
    let now ← now
    pure (.aborted runId now variant (crashReason number message))

/-- The reports of all tasks, in the order of the variants. -/
def collect (now : m Instant) (newRunId : m RunId) :
    Nat → List Variant → List TaskEnd → m (List VariantReport)
  | number, variant :: variants, result :: results => do
    let report ← reportTask now newRunId number variant result
    let reports ← collect now newRunId (number + 1) variants results
    pure (report :: reports)
  | _, _, _ => pure []

/-- Runs every variant and reports on all of them. -/
def runAll (execute : Variant → m TaskEnd) (now : m Instant) (newRunId : m RunId)
    (variants : List Variant) : m (List VariantReport) := do
  let results ← variants.mapM execute
  -- Tasks are numbered from one on.
  collect now newRunId 1 variants results

end
end ReleasePipeline
