import RequestLog.Pipeline.Error

/-!
What the program says when it fails: what it was about, and what that comes from.
-/

namespace RequestLog

structure Failure where
  message : String
  /-- From the nearest cause to the last one. -/
  causes : List String := []
deriving DecidableEq, Repr

def ConfigError.causes : ConfigError → List String
  | .read _ cause => [cause.message]
  | .target _ cause => [cause.message]
  | .malformed => [ConfigError.shapeFault]
  | _ => []

def SinkError.causes : SinkError → List String
  | .openFailed _ cause => [cause.message]
  | .writeFailed cause => [cause.message]
  | .closeFailed cause => [cause.message]
  | _ => []

def TriggerError.causes : TriggerError → List String
  | .install _ cause => [cause.message]
  | _ => []

/-- A sink's error stands for itself, so its causes follow at once. -/
def PipelineError.causes : PipelineError → List String
  | .config error => error.message :: error.causes
  | .sink error => error.causes
  | .trigger error => error.message :: error.causes
  | .taskFailed _ => []

namespace Failure

/-- Later lines of a text are moved in like its first one. -/
def moveIn (margin text : String) : String :=
  ("\n" ++ margin).intercalate (text.splitOn "\n")

def numbered (causes : List String) : List String :=
  causes.zipIdx.map fun (cause, i) => "    " ++ toString i ++ ": " ++ moveIn "       " cause

/-- Causes are numbered if there are several. -/
def causeLines : List String → List String
  | [cause] => ["    " ++ moveIn "    " cause]
  | causes => numbered causes

def toText (failure : Failure) : String :=
  "Error: " ++ failure.message ++
    (if failure.causes.isEmpty then ""
      else "\n\nCaused by:\n" ++ "\n".intercalate (causeLines failure.causes)) ++ "\n"

end Failure

end RequestLog
