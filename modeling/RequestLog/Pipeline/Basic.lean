import RequestLog.Pipeline.Settings
import RequestLog.Sink.Basic

/-!
A pipeline that is ready to start: its settings hold and its output is open.
-/

namespace RequestLog

structure Pipeline (σ : Type) where
  settings : Settings
  session : Session σ

namespace Pipeline

variable {σ : Type}

def sinkOf (settings : Settings) : Sink :=
  { name := settings.name, bufferSize := settings.delivery.bufferSize }

/-- A pipeline that writes to a path. Settings are judged before anything is opened. -/
def openAt (o : Outputs σ) (settings : Settings) (path : String) (outputs : σ) :
    Except PipelineError (Pipeline σ) × σ :=
  match settings.validate with
  | .error error => (.error error, outputs)
  | .ok () =>
    match Session.openAt o (sinkOf settings) path outputs with
    | (.ok session, outputs) => (.ok { settings, session }, outputs)
    | (.error error, outputs) => (.error (.ofOpening error), outputs)

/-- A pipeline that writes to a stream, which is open already. -/
def adopt (settings : Settings) (stream : Handle) (outputs : σ) :
    Except PipelineError (Pipeline σ) :=
  match settings.validate with
  | .error error => .error error
  | .ok () => .ok { settings, session := Session.start (sinkOf settings) stream outputs }

end Pipeline

end RequestLog
