import ReleasePipeline.FileSystem

/-!
# `ReleasePipeline.Rehearsal.Script`: commands that follow a script

A script is a list of rules. The first rule whose text occurs in a command answers for it: it
writes its files, and then the command ends as the rule says. A command that no rule speaks of
succeeds and prints nothing.
-/

set_option autoImplicit false

namespace ReleasePipeline.Rehearsal

/-- How a scripted command ends. -/
inductive Ending where
  | crash
  /-- The command cannot be run, for these causes. -/
  | unrunnable (causes : List String)
  /-- The command takes too long. -/
  | timeout
  | finish (exitCode : Option Int32) (stdout stderr : String)
  deriving DecidableEq

/-- A rule of a script. -/
structure Rule where
  occurs : String
  writes : List (Path × ByteArray)
  ending : Ending

/-- The rules of a script, the ones that go first in front. -/
abbrev Script := List Rule

/-- Whether a text occurs in another one. -/
def occursIn (needle : List Char) : List Char → Bool
  | [] => needle.isEmpty
  | c :: rest => needle.isPrefixOf (c :: rest) || occursIn needle rest

/-- The rule that answers for a command. -/
def Script.rule? (script : Script) (command : Command) : Option Rule :=
  script.find? fun rule => occursIn rule.occurs.toList command.text.toList

/-- The message of a scripted crash. -/
def crashMessage : String := "runner exploded"

/-- The answer for a command that ends in some way. -/
def Ending.answer (ending : Ending) (invocation : Invocation) : Answer :=
  match ending with
  | .crash => .crashed crashMessage
  | .unrunnable [] => .failed [""]
  | .unrunnable causes => .failed causes
  | .timeout => .finished (.ofTimeout invocation.timeoutSeconds.toNat)
  | .finish exitCode stdout stderr => .finished ⟨exitCode, stdout, stderr, false⟩

/-- Plays a command: the answer, and the files afterwards. -/
def Script.play (script : Script) (files : FileSystem) (invocation : Invocation) :
    Answer × FileSystem :=
  match script.rule? invocation.command with
  | none => (.finished ⟨some 0, "", "", false⟩, files)
  | some rule =>
    (rule.ending.answer invocation,
      rule.writes.foldl (fun files entry => files.place entry.1 entry.2) files)

end ReleasePipeline.Rehearsal
