import RequestLog.Config.Validation
import RequestLog.Pipeline.Error

/-!
What a pipeline is built from.
-/

namespace RequestLog

structure Settings where
  /-- The name in diagnostics. -/
  name : String := "access_log"
  delivery : Delivery := {}
deriving DecidableEq, Repr

namespace Settings

def ofAccessLog (accessLog : AccessLog) : Settings := { delivery := accessLog.delivery }

/-- Settings are held to the rules for the section `access_log`. -/
def validate (settings : Settings) : Except PipelineError Unit :=
  match settings.delivery.validate with
  | .ok () => .ok ()
  | .error error => .error (.config error)

end Settings

end RequestLog
