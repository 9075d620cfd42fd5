import RequestLog.Config.Basic
import RequestLog.Config.Error

/-!
Which configurations can be used. Of several faults the first one in this order is reported.
-/

namespace RequestLog

def accessLogPart : String := "access_log"

def require (condition : Bool) (field message : String) : Except ConfigError Unit :=
  if condition then .ok () else .error (.invalidValue accessLogPart field message)

def Delivery.validate (d : Delivery) : Except ConfigError Unit := do
  require (!d.eventKinds.isEmpty) "event_kinds" "at least one event kind is required"
  require (!d.eventKinds.any Blank.isBlankText) "event_kinds" "event kinds must not be empty"
  require (d.queueSize ≠ 0) "queue_size" "must be at least 1"
  require (d.bufferSize ≠ 0) "buffer_size" "must be at least 1"
  require (!d.flushInterval.isZero) "flush_interval" "must be greater than zero"

def validateTarget : Option Destination → Except ConfigError Unit
  | none => .error (.missingField accessLogPart "target")
  | some (.file path) => require (!Blank.isBlankText path) "target" "path must not be empty"
  | some _ => .ok ()

def AccessLog.validate (a : AccessLog) : Except ConfigError Unit := do
  validateTarget a.target
  a.delivery.validate

/-- Diagnostics and lines on standard output, or in the file of one path, would mix. -/
def clash : Destination → Option Destination → Bool
  | .stdout, some .stdout => true
  | .file log, some (.file access) => log == access
  | _, _ => false

def Config.validate (c : Config) : Except ConfigError Unit := do
  c.accessLog.validate
  if clash c.log.output c.accessLog.target then
    throw (.invalidValue "log" "output" "must differ from the access log target")

end RequestLog
