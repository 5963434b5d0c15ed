import ReleasePipeline.Bindings
import ReleasePipeline.Json.Record
import ReleasePipeline.Path
import ReleasePipeline.Text.Blank
import ReleasePipeline.Text.Decimal

/-!
# `ReleasePipeline.Command`: commands and what they leave behind

A `Command` is a program with its arguments. An `Invocation` is a command together with where and
how it is to run: its working directory, the variables set for it and the time it may take. A
`CommandOutput` is what is known of it afterwards. A command that takes too long is stopped and
counts as failed, with an exit code of its own and nothing of what it had printed.
-/

set_option autoImplicit false

namespace ReleasePipeline

/-- A program and its arguments. -/
structure Command where
  program : String
  args : List String
  deriving DecidableEq, Repr

namespace Command

/-- The command on one line. -/
def text (command : Command) : String :=
  command.args.foldl (fun line arg => line ++ " " ++ arg) command.program

instance : JsonForm Command where
  toJson command := .obj [("program", toJson command.program), ("args", toJson command.args)]
  ofReading := Fields.record <| Command.mk <$> .required "program" <*> .required "args"

end Command

/-- A command and the conditions it runs under. -/
structure Invocation where
  command : Command
  cwd : Path
  env : Bindings
  timeoutSeconds : UInt64
  deriving DecidableEq

/-- What a command left behind. -/
structure CommandOutput where
  /-- The code the command ended with, unless a signal ended it. -/
  exitCode : Option Int32
  stdout : String
  stderr : String
  timedOut : Bool
  deriving DecidableEq

namespace CommandOutput

/-- The exit code of a command that took too long. -/
def timeoutExitCode : Int32 := 124

/-- The output of a command that was stopped after a number of seconds. -/
def ofTimeout (seconds : Nat) : CommandOutput where
  exitCode := some timeoutExitCode
  stdout := ""
  stderr := "timed out after " ++ String.ofList (Text.digits seconds) ++ "s"
  timedOut := true

/-- Whether the command ended on its own, and well. -/
def succeeded (output : CommandOutput) : Bool :=
  !output.timedOut && output.exitCode == some 0

/-- Everything the command printed: its output, then its error output, each without blanks at its
end, and a line feed between them if there is something of both. -/
def combined (output : CommandOutput) : String :=
  let out := Text.trimEnd output.stdout.toList
  let err := Text.trimEnd output.stderr.toList
  if out.isEmpty then String.ofList err
  else if err.isEmpty then String.ofList out
  else String.ofList (out ++ '\n' :: err)

end CommandOutput
end ReleasePipeline
