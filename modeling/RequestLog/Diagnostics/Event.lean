/-!
Diagnostic events: what the program says about itself, apart from the lines it writes.
-/

namespace RequestLog

inductive Level where
  | trace
  | debug
  | info
  | warn
  | error
deriving DecidableEq, Repr

namespace Level

def severity : Level → Nat
  | .trace => 0
  | .debug => 1
  | .info => 2
  | .warn => 3
  | .error => 4

def all : List Level := [.trace, .debug, .info, .warn, .error]

def name : Level → String
  | .trace => "trace"
  | .debug => "debug"
  | .info => "info"
  | .warn => "warn"
  | .error => "error"

def label : Level → String
  | .trace => "TRACE"
  | .debug => "DEBUG"
  | .info => "INFO"
  | .warn => "WARN"
  | .error => "ERROR"

def ofName? (name : String) : Option Level :=
  all.find? (·.name == name)

end Level

inductive FieldValue where
  | text (s : String)
  | count (n : Nat)
  | flag (b : Bool)
deriving DecidableEq, Repr

def FieldValue.toText : FieldValue → String
  | .text s => s
  | .count n => toString n
  | .flag b => toString b

structure Event where
  level : Level
  message : String
  fields : List (String × FieldValue) := []
deriving DecidableEq, Repr

end RequestLog
