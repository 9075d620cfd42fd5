import RequestLog.Config.Error
import RequestLog.Sink.Error
import RequestLog.Trigger.Error

/-!
Why a pipeline cannot be built, started or stopped.
-/

namespace RequestLog

inductive PipelineError where
  | config (error : ConfigError)
  | sink (error : SinkError)
  | trigger (error : TriggerError)
  | taskFailed (text : String)
deriving DecidableEq, Repr

namespace PipelineError

def message : PipelineError → String
  | .config error => "invalid access log settings: " ++ error.message
  | .sink error => error.message
  | .trigger error => "rotation trigger unavailable: " ++ error.message
  | .taskFailed text => "pipeline task failed: " ++ text

/-- A target that cannot be opened is a fault of the settings. -/
def ofOpening : SinkError → PipelineError
  | .openFailed path cause => .config (.target path cause)
  | error => .sink error

end PipelineError

end RequestLog
