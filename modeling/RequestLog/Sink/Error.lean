import RequestLog.Output.IoError

/-!
Why a sink did not do what it was asked for.
-/

namespace RequestLog

inductive SinkError where
  | openFailed (path : String) (cause : IoError)
  | writeFailed (cause : IoError)
  | closeFailed (cause : IoError)
  | detached
  | unattached
  | closed
deriving DecidableEq, Repr

namespace SinkError

def message : SinkError → String
  | .openFailed path cause => "failed to open '" ++ path ++ "': " ++ cause.message
  | .writeFailed cause => "write failed: " ++ cause.message
  | .closeFailed cause => "close failed: " ++ cause.message
  | .detached => "sink is detached from its output"
  | .unattached => "sink has no open output"
  | .closed => "sink is closed"

/-- Whether a later rotation may let the same line through. -/
def isRecoverable (error : SinkError) : Bool := error ≠ .closed

end SinkError

end RequestLog
