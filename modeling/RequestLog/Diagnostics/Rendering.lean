import RequestLog.Diagnostics.Event
import RequestLog.Json.Printer

/-!
Diagnostic events as lines of text, for people and as JSON.
-/

namespace RequestLog

def FieldValue.toJson : FieldValue → Json
  | .text s => .string s
  | .count n => .number (.integer n)
  | .flag b => .bool b

namespace Event

/-- The message counts as one of the fields. -/
def fieldsJson (event : Event) : Json :=
  .object (("message", .string event.message)
    :: event.fields.map fun (name, value) => (name, value.toJson))

def toJson (target : String) (event : Event) : Json :=
  .object
    [ ("level", .string event.level.label), ("fields", event.fieldsJson),
      ("target", .string target) ]

def jsonLine (target : String) (event : Event) : String := (event.toJson target).toText ++ "\n"

def consoleLine (target : String) (event : Event) : String :=
  event.level.label ++ " " ++ target ++ ": " ++ event.message
    ++ String.join (event.fields.map fun (name, value) => " " ++ name ++ "=" ++ value.toText)
    ++ "\n"

end Event

end RequestLog
