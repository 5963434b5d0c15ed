import ReleasePipeline.Hosting.Http
import ReleasePipeline.Site

/-!
# `ReleasePipeline.Proofs.Support.Dialogue`: what a program asks, for every answer

A program asks things of its surroundings, and goes on by what it is told. A `Dialogue` is a
program as just that: a tree that has a question at each node, and a branch for each reply to it.
At a leaf the program has come to its end.

Programs are written for any site and transport of any monad. `Dialogue.site` and
`Dialogue.transport` make them dialogues. So where two dialogues are equal, the two programs ask
the same in the same order as long as they are told the same, and come to the same end. This is so
whatever the replies are, and whoever it is that gives them: it may well remember what it was
asked before.
-/

set_option autoImplicit false

namespace ReleasePipeline.Proofs

/-- Something that a program asks of its surroundings. -/
inductive Question where
  | read (path : Path)
  | write (path : Path) (content : ByteArray)
  | createDirs (path : Path)
  | copy (source target : Path)
  | isFile (path : Path)
  | invoke (invocation : Invocation)
  | now
  | stopwatch
  | newRunId
  | send (request : Http.Request)

/-- What a question is replied with. -/
def Question.Reply : Question → Type
  | .read _ => Except OsError ByteArray
  | .write .. => Except OsError Unit
  | .createDirs _ => Except OsError Unit
  | .copy .. => Except OsError Nat
  | .isFile _ => Bool
  | .invoke _ => Answer
  | .now => Instant
  | .stopwatch => UInt64
  | .newRunId => RunId
  | .send _ => Except String Http.Response

/-- A program that goes on by what it is told. -/
inductive Dialogue (α : Type) where
  | ended (result : α)
  | ask (question : Question) (next : question.Reply → Dialogue α)

namespace Dialogue

/-- One program behind another one. -/
def andThen {α β : Type} : Dialogue α → (α → Dialogue β) → Dialogue β
  | .ended result, following => following result
  | .ask question next, following => .ask question fun reply => (next reply).andThen following

instance : Monad Dialogue where
  pure := .ended
  bind := andThen

/-- Files that are asked for. -/
def files : Files Dialogue where
  read path := .ask (.read path) .ended
  write path content := .ask (.write path content) .ended
  createDirs path := .ask (.createDirs path) .ended
  copy source target := .ask (.copy source target) .ended
  isFile path := .ask (.isFile path) .ended

/-- A site of which everything is asked. -/
def site : Site Dialogue :=
  { files with
    invoke := fun invocation => .ask (.invoke invocation) .ended
    now := .ask .now .ended
    stopwatch := .ask .stopwatch .ended
    newRunId := .ask .newRunId .ended }

/-- A transport of which requests are asked, as far as these are shown. -/
def transport (shown : Http.Request → Http.Request) : Http.Transport Dialogue where
  send request := .ask (.send (shown request)) .ended

end Dialogue
end ReleasePipeline.Proofs
