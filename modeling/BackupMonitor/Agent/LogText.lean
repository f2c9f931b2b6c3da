import BackupMonitor.Json.Writer
import BackupMonitor.Log
/-!
# The text of log lines

A log line is written as one JSON object on a line of its own, with its message as the first of
its fields.
-/

namespace BackupMonitor.Log

/-- The JSON form of the value of a field. -/
def Value.json : Value → Json
  | text s => .string s
  | int n => .int n
  | float x => .float x

/-- The JSON form of a line. -/
def Line.json (l : Line) : Json :=
  .object
    [("level", .string l.level.label),
     ("fields", .object (("message", .string l.message) :: l.fields.map fun (k, v) => (k, v.json))),
     ("target", .string l.source.target)]

/-- The text of a line. -/
def Line.written (l : Line) : String :=
  l.json.compact

end BackupMonitor.Log
