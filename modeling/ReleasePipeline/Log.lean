import ReleasePipeline.Text.Lines
import ReleasePipeline.Time.Rfc3339

/-!
# `ReleasePipeline.Log`: what is noted during a variant run

A log is the list of its entries, oldest first. Output is noted line by line: lines of nothing
but blanks are left out, and the others are kept as they are.
-/

set_option autoImplicit false

namespace ReleasePipeline

/-- How serious a log entry is. -/
inductive LogLevel where
  | debug
  | info
  | warning
  | error
  deriving DecidableEq, Repr

namespace LogLevel

/-- The level as it is shown. -/
def text : LogLevel → String
  | .debug => "DEBUG"
  | .info => "INFO"
  | .warning => "WARN"
  | .error => "ERROR"

/-- The name of a level. -/
def name : LogLevel → String
  | .debug => "Debug"
  | .info => "Info"
  | .warning => "Warning"
  | .error => "Error"

/-- All levels. -/
def all : List LogLevel := [.debug, .info, .warning, .error]

instance : JsonForm LogLevel where
  toJson level := .str level.name
  ofReading := enumeration (all.map fun level => (level.name, .plain level))

end LogLevel

/-- One note of a log. -/
structure LogEntry where
  timestamp : Instant
  level : LogLevel
  message : String
  deriving DecidableEq

namespace LogEntry

instance : JsonForm LogEntry where
  toJson entry := .obj
    [("timestamp", toJson entry.timestamp), ("level", toJson entry.level),
     ("message", toJson entry.message)]
  ofReading := Fields.record <|
    LogEntry.mk <$> .required "timestamp" <*> .required "level" <*> .required "message"

end LogEntry

/-- The lines of an output that are worth a log entry. -/
def notedLines (output : String) : List String :=
  (Text.linesOf output).filter fun line => !Text.isBlankText line

end ReleasePipeline
