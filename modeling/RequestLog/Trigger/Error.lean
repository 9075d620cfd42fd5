import RequestLog.Output.IoError

/-!
Why a signal cannot be listened for.
-/

namespace RequestLog

inductive TriggerError where
  | install (signal : String) (cause : IoError)
  | noRuntime (signal : String)
  | unsupported (signal : String)
deriving DecidableEq, Repr

def TriggerError.message : TriggerError → String
  | .install signal cause => "failed to install " ++ signal ++ " listener: " ++ cause.message
  | .noRuntime signal => "no tokio runtime available to listen for " ++ signal
  | .unsupported signal => signal ++ " is not supported on this platform"

end RequestLog
