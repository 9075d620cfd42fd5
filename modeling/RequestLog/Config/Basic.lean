import RequestLog.Config.Duration
import RequestLog.Diagnostics.Event
import RequestLog.Record.Basic

/-!
What can be configured: where lines go, how they look and how they are delivered, and the
diagnostics of the program itself.
-/

namespace RequestLog

inductive Destination where
  | stdout
  | stderr
  | file (path : String)
deriving DecidableEq, Repr

namespace Destination

def ofName (name : String) : Destination :=
  if name = "stdout" then .stdout
  else if name = "stderr" then .stderr
  else .file name

def toText : Destination → String
  | .stdout => "stdout"
  | .stderr => "stderr"
  | .file path => path

/-- The streams that have a name of their own. -/
def keywords : List Destination := [.stdout, .stderr]

def keyword? (name : String) : Option Destination :=
  keywords.find? (·.toText == name)

def isFile : Destination → Bool
  | .file _ => true
  | _ => false

def path? : Destination → Option String
  | .file path => some path
  | _ => none

end Destination

structure Delivery where
  pattern : String := "combined"
  separator : String := "\n"
  /-- Whether the trigger reopens the output. -/
  rotateOnSignal : Bool := true
  eventKinds : List String := [Record.responseKind]
  /-- Records that may wait for the writer. -/
  queueSize : Nat := 1024
  /-- Bytes that may wait for the output. -/
  bufferSize : Nat := 65536
  flushInterval : Duration := Duration.ofMillis 100
deriving DecidableEq, Repr

/-- The section `access_log`. -/
structure AccessLog where
  target : Option Destination := none
  delivery : Delivery := {}
deriving DecidableEq, Repr

inductive LogFormat where
  | console
  | json
deriving DecidableEq, Repr

namespace LogFormat

def name : LogFormat → String
  | .console => "console"
  | .json => "json"

def ofName? (name : String) : Option LogFormat :=
  [console, json].find? (·.name == name)

end LogFormat

/-- The section `log`. -/
structure Diagnostics where
  level : Level := .info
  format : LogFormat := .console
  output : Destination := .stderr
deriving DecidableEq, Repr

structure Config where
  log : Diagnostics := {}
  accessLog : AccessLog := {}
deriving DecidableEq, Repr

end RequestLog
