import ReleasePipeline.FileSystem
import ReleasePipeline.Text.Lossy
import ReleasePipeline.Text.Pieces

/-!
# `ReleasePipeline.Rehearsal.Workshop`: programs that are plain values

A workshop holds tools. They stand in one folder, which is the place where programs are looked for
unless a command brings a search path of its own. A tool prints what it is told to, writes files,
and ends with an exit code or by a signal, or it never ends. A tool may behave differently for some
first argument.

No file but a tool is a program. A folder or another file is found like a tool, and then it may not
be run.
-/

set_option autoImplicit false

namespace ReleasePipeline.Rehearsal

/-- What a tool does when it is run. -/
structure Behaviour where
  /-- Whether the tool prints its arguments, each on a line. -/
  printsArgs : Bool
  /-- The variables the tool prints. -/
  printsEnv : List String
  stdout : ByteArray
  stderr : ByteArray
  writes : List (Path × ByteArray)
  hangs : Bool
  /-- The code the tool ends with, unless a signal ends it. -/
  exitCode : Option Int32

/-- What a tool that nothing is said about does. -/
def Behaviour.silent : Behaviour where
  printsArgs := false
  printsEnv := []
  stdout := ByteArray.empty
  stderr := ByteArray.empty
  writes := []
  hangs := false
  exitCode := some 0

/-- A program, and what it does: for one first argument, or whenever nothing else is said. -/
structure Tool where
  program : String
  firstArg : Option String
  behaviour : Behaviour

/-- The tools of a place, and the variables set there. -/
structure Workshop where
  tools : List Tool
  env : Bindings

namespace Workshop

/-- The folder the tools stand in, in the working folder. -/
def folder : String := ".tools"

/-- The place of the tools in some files. -/
def home (files : FileSystem) : Place :=
  files.workingDir ++ [folder]

/-- Puts the tools into the working folder. What they are made of does not matter. -/
def install (workshop : Workshop) (files : FileSystem) : FileSystem :=
  workshop.tools.foldl
    (fun files tool => files.place ⟨folder ++ "/" ++ tool.program⟩ ByteArray.empty)
    (files.put (home files) .folder)

/-- What a tool does with its arguments. -/
def behaviour (workshop : Workshop) (program : String) (args : List String) : Behaviour :=
  let named := workshop.tools.filter fun tool => tool.program = program
  let special := named.find? fun tool => tool.firstArg.isSome && tool.firstArg = args.head?
  let general := named.find? fun tool => tool.firstArg.isNone
  match special.or general with
  | some tool => tool.behaviour
  | none => .silent

/-- The name of the tool that stands at a place, in the workshop whose tools are at `home`. -/
def toolAt? (workshop : Workshop) (home place : Place) : Option String :=
  (workshop.tools.map (·.program)).find? fun program => Path.resolve home ⟨program⟩ = place

/-- Loads the program that a path leads to. -/
def load (workshop : Workshop) (home : Place) (files : FileSystem) (path : Path) :
    Except OsError String := do
  let place ← files.locate path
  match files.get? place with
  | none => .error .notFound
  | some .folder => .error .permissionDenied
  | some (.file _) =>
    match workshop.toolAt? home place with
    | some tool => .ok tool
    | none => .error .permissionDenied

/-- The path of a program in a folder of a search path. An empty name is the folder one is in. -/
def candidate (folder program : String) : Path :=
  if folder.isEmpty then ⟨program⟩ else ⟨folder ++ "/" ++ program⟩

/-- Looks for a program in one folder after the other. Where it is not found the search goes on, and
so it does where it may not be run, but in the end that is what was wrong. -/
def search (workshop : Workshop) (home : Place) (files : FileSystem) (program : String)
    (wrong : OsError) : List String → Except OsError String
  | [] => .error wrong
  | folder :: rest =>
    match workshop.load home files (candidate folder program) with
    | .error .permissionDenied => workshop.search home files program .permissionDenied rest
    | .error .notFound => workshop.search home files program (still .notFound) rest
    | .error .notADirectory => workshop.search home files program (still .notADirectory) rest
    | result => result
where
  /-- What is wrong after one more folder was of no use. -/
  still (reason : OsError) : OsError :=
    if wrong = .permissionDenied then wrong else reason

/-- The name of the variable that holds the search path. -/
def searchPathName : String := "PATH"

/-- The folders where a program is looked for. -/
def searchPath (home : Place) (invocation : Invocation) : List String :=
  match invocation.env.get? searchPathName with
  | some path => (Text.pieces (· == ':') path.toList).map String.ofList
  | none => ["/" ++ String.intercalate "/" home]

/-- The greatest number of bytes in one text that a program is started with. -/
def maxText : Nat := 131071

/-- The texts that a program is started with: its arguments and its variables. -/
def startTexts (invocation : Invocation) : List String :=
  invocation.command.program :: (invocation.command.args ++
    invocation.env.entries.map fun (name, value) => name ++ "=" ++ value)

/-- Finds the program of a command, which is run in some folder. A bare name is looked for in the
folders of the search path, and any other one is a path. -/
def find (workshop : Workshop) (home cwd : Place) (files : FileSystem) (invocation : Invocation) :
    Except OsError String :=
  let program := invocation.command.program
  let files := { files with workingDir := cwd }
  if program.isEmpty then .error .notFound
  else if program.toList.contains '/' then workshop.load home files ⟨program⟩
  else workshop.search home files program .notFound (searchPath home invocation)

/-- Checks that a command can be started, and finds its program and where it is to run. -/
def start (workshop : Workshop) (files : FileSystem) (invocation : Invocation) :
    Except String (String × Place) := do
  if (invocation.cwd.text :: startTexts invocation).any fun text => text.toList.contains '\x00' then
    .error "nul byte found in provided data"
  let cwd ← (files.locate invocation.cwd).mapError OsError.message
  (files.checkFolder cwd).mapError OsError.message
  let tool ← (workshop.find (home files) cwd files invocation).mapError OsError.message
  -- The texts are measured when the program is loaded, and so after it is found.
  if (startTexts invocation).any fun text => maxText < text.utf8ByteSize then
    .error OsError.argumentsTooLong.message
  .ok (tool, cwd)

/-- What a tool prints to its output. -/
def printed (workshop : Workshop) (behaviour : Behaviour) (invocation : Invocation) : ByteArray :=
  let args := if behaviour.printsArgs then invocation.command.args.map (· ++ "\n") else []
  let env := behaviour.printsEnv.map fun name =>
    let value := (invocation.env.get? name).or (workshop.env.get? name)
    name ++ "=" ++ value.getD "" ++ "\n"
  (String.join (args ++ env)).toUTF8 ++ behaviour.stdout

/-- Runs a command: the answer, and the files afterwards. The time limit is given in milliseconds;
within none at all nothing is done. -/
def play (workshop : Workshop) (limitMs : Nat) (files : FileSystem) (invocation : Invocation) :
    Answer × FileSystem :=
  match workshop.start files invocation with
  | .error reason =>
    (.failed ["Failed to execute '" ++ invocation.command.text ++ "'", reason], files)
  | .ok (tool, cwd) =>
    let behaviour := workshop.behaviour tool invocation.command.args
    if limitMs = 0 then (.finished (.ofTimeout 0), files)
    else
      let written := behaviour.writes.foldl
        (fun files entry => files.place entry.1 entry.2) { files with workingDir := cwd }
      let files := { written with workingDir := files.workingDir }
      -- What is printed by a tool that never ends is lost, but its files are there.
      if behaviour.hangs then (.finished (.ofTimeout (limitMs / 1000)), files)
      else
        (.finished
          { exitCode := behaviour.exitCode
            stdout := Text.lossy (workshop.printed behaviour invocation)
            stderr := Text.lossy behaviour.stderr
            timedOut := false }, files)

end Workshop
end ReleasePipeline.Rehearsal
