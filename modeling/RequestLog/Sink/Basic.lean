import RequestLog.Sink.Pending
import RequestLog.Sink.Error
import RequestLog.Diagnostics.Limiter
import RequestLog.Text.Quoted

/-!
A sink: lines go into a queue, and from there to the output that is attached. A rotation drains the
queue into the old output and attaches a fresh one at the same path; an output that fails is
detached, and what it did not take waits for the next one.
-/

namespace RequestLog

namespace Sink

/-- What a sink shows of itself. Between operations it is never unattached. -/
inductive State where
  | unattached
  | attached
  | detached
  | closed
deriving DecidableEq, Repr

namespace State

def name : State → String
  | .unattached => "unattached"
  | .attached => "attached"
  | .detached => "detached"
  | .closed => "closed"

/-- Nothing is gained by waiting any longer. -/
def isSettled : State → Bool
  | .attached => true
  | .closed => true
  | _ => false

end State

inductive Slot where
  | unattached
  | attached (handle : Handle)
  | detached
  | closed
deriving DecidableEq, Repr

namespace Slot

def state : Slot → State
  | .unattached => .unattached
  | .attached _ => .attached
  | .detached => .detached
  | .closed => .closed

def unavailable : Slot → SinkError
  | .closed => .closed
  | .detached => .detached
  | _ => .unattached

end Slot

end Sink

structure Sink where
  name : String := "access_log"
  /-- Queued bytes beyond which the next write drains first. -/
  bufferSize : Nat := 65536
  /-- None for streams, which cannot be reopened. -/
  path : Option String := none
  slot : Sink.Slot := .unattached
  /-- The state that others see. -/
  shown : Sink.State := .unattached
  pending : Sink.Pending := {}
  /-- Handles attached so far. -/
  generation : Nat := 0
  counters : Sink.Counters := {}
  limiter : Limiter := {}
  /-- The time for the limits of diagnostics, in nanoseconds. -/
  now : Nat := 0
  /-- How closing the previous handle went, until someone looks. -/
  lastDrain : Option Reply := none
deriving DecidableEq, Repr

namespace Sink

def isRotatable (sink : Sink) : Bool := sink.path.isSome

def stateName : State → String
  | .unattached => "Unattached"
  | .attached => "Attached"
  | .detached => "Detached"
  | .closed => "Closed"

def toText (sink : Sink) : String :=
  let path :=
    match sink.path with
    | some path => "Some(" ++ Quoted.quote Quoted.path path ++ ")"
    | none => "None"
  "RotatingSink \x7b name: " ++ Quoted.quote Quoted.plain sink.name ++ ", path: " ++ path
    ++ ", state: " ++ stateName sink.shown ++ ", generation: " ++ toString sink.generation
    ++ " \x7d"

end Sink

structure Session (σ : Type) where
  sink : Sink
  outputs : σ
  events : List Event := []

structure Rejected where
  line : Bytes
  error : SinkError
deriving DecidableEq, Repr

inductive Rotation where
  | rotated (generation : Nat)
  | notRotatable
deriving DecidableEq, Repr

inductive Flushed where
  | done
  | failed (error : SinkError)
  | crashed
deriving DecidableEq, Repr

namespace Session

variable {σ : Type}

def log (s : Session σ) (event : Event) : Session σ :=
  { s with events := s.events ++ [event] }

def count (s : Session σ) (f : Sink.Counters → Sink.Counters) : Session σ :=
  { s with sink := { s.sink with counters := f s.sink.counters } }

def elapse (nanos : Nat) (s : Session σ) : Session σ :=
  { s with sink := { s.sink with now := s.sink.now + nanos } }

def setSlot (s : Session σ) (slot : Sink.Slot) : Session σ :=
  { s with sink := { s.sink with slot, shown := slot.state } }

def about (s : Session σ) (fields : List (String × FieldValue)) : List (String × FieldValue) :=
  ("sink", .text s.sink.name) :: fields

/-! ### Opening -/

def start (sink : Sink) (handle : Handle) (outputs : σ) : Session σ :=
  let opened :=
    { sink with
      slot := .attached handle
      shown := .attached
      generation := 1
      counters := sink.counters.addOpen }
  { sink := opened, outputs }

def openAt (o : Outputs σ) (sink : Sink) (path : String) (outputs : σ) :
    Except SinkError (Session σ) × σ :=
  match o.openPath path outputs with
  | (.ok handle, outputs) => (.ok (start { sink with path := some path } handle outputs), outputs)
  | (.error cause, outputs) => (.error (.openFailed path cause), outputs)

/-! ### Handles -/

/-- Closes a handle that is no longer written to. This happens apart from everything else, so a
failure is only counted. -/
def retire (o : Outputs σ) (handle : Handle) (s : Session σ) : Session σ :=
  let (reply, outputs) := o.finish handle s.outputs
  let s := { s with outputs, sink := { s.sink with lastDrain := some reply } }
  match reply with
  | .failed _ => s.count .addDrainError
  | _ => s

def drainInto (o : Outputs σ) (handle : Handle) (s : Session σ) :
    Except IoError Unit × Session σ :=
  let d := s.sink.pending.drain o handle s.sink.counters s.outputs
  (d.result,
    { s with
      outputs := d.outputs
      sink := { s.sink with pending := d.pending, counters := d.counters } })

def detach (o : Outputs σ) (handle : Handle) (message : String) (cause : IoError)
    (s : Session σ) : Session σ :=
  let (event, limiter) := s.sink.limiter.report s.sink.now .error message cause.message
  let s := s.count .addWriteError
  let s := { s with sink := { s.sink with limiter }, events := s.events ++ event.toList }
  (s.retire o handle).setSlot .detached

/-! ### Operations -/

def accept (line : Bytes) (s : Session σ) : Session σ :=
  { s with sink := { s.sink with pending := s.sink.pending.push line } }

/-- The line would not fit the queue, and there is something in it to drain first. -/
def mustDrain (line : Bytes) (s : Session σ) : Bool :=
  s.sink.bufferSize < s.sink.pending.bytes + line.length && !s.sink.pending.isEmpty

/-- Queues a line. If the queue cannot be drained to make room, the handle is detached and the line
comes back. -/
def write (o : Outputs σ) (line : Bytes) (s : Session σ) : Except Rejected Unit × Session σ :=
  match s.sink.slot with
  | .attached handle =>
    if line.isEmpty then (.ok (), s)
    else if s.mustDrain line then
      match s.drainInto o handle with
      | (.ok (), s) => (.ok (), s.accept line)
      | (.error cause, s) =>
        (.error ⟨line, .writeFailed cause⟩,
          s.detach o handle "access log write failed, detaching output" cause)
    else (.ok (), s.accept line)
  | slot => (.error ⟨line, slot.unavailable⟩, s)

def writeLines (o : Outputs σ) : List Bytes → Session σ → Nat × Option Rejected × Session σ
  | [], s => (0, none, s)
  | line :: lines, s =>
    match s.write o line with
    | (.ok (), s) =>
      let (accepted, rejected, s) := writeLines o lines s
      (accepted + 1, rejected, s)
    | (.error rejected, s) => (0, some rejected, s)

/-- Brings all queued lines to the output. Unless attached there is nothing to do. -/
def flush (o : Outputs σ) (s : Session σ) : Flushed × Session σ :=
  let failed (handle : Handle) (cause : IoError) (s : Session σ) : Flushed × Session σ :=
    (.failed (.writeFailed cause),
      s.detach o handle "access log flush failed, detaching output" cause)
  match s.sink.slot with
  | .attached handle =>
    match s.drainInto o handle with
    | (.error cause, s) => failed handle cause s
    | (.ok (), s) =>
      let (reply, outputs) := o.flush handle s.outputs
      let s := { s with outputs }
      match reply with
      | .done => (.done, s.count .addFlush)
      | .failed cause => failed handle cause s
      | .crashed => (.crashed, s)
  | _ => (.done, s)

/-- Lets go of the attached handle: it gets what it will take, and the rest stays queued. -/
def release (o : Outputs σ) (s : Session σ) : Session σ :=
  match s.sink.slot with
  | .attached handle =>
    match s.drainInto o handle with
    | (.ok (), s) => (s.retire o handle).setSlot .unattached
    | (.error cause, s) =>
      let s := s.count .addWriteError
      let s := s.log
        { level := .warn
          message := "previous access log handle failed, moving queued lines to the new handle"
          fields := s.about
            [("error", .text cause.message), ("queued", .count s.sink.pending.lines.length)] }
      (s.retire o handle).setSlot .unattached
  | _ => s.setSlot .unattached

def reopen (o : Outputs σ) (path : String) (s : Session σ) :
    Except SinkError Rotation × Session σ :=
  match o.openPath path s.outputs with
  | (.ok handle, outputs) =>
    let s := { s with outputs, sink := { s.sink with generation := s.sink.generation + 1 } }
    let s := s.count .addRotation
    (.ok (.rotated s.sink.generation), s.setSlot (.attached handle))
  | (.error cause, outputs) =>
    let s := { s with outputs }.setSlot .detached
    let s := s.count .addFailedRotation
    let s := s.log
      { level := .error
        message := "failed to reopen access log, output detached"
        fields := s.about
          [ ("path", .text path), ("error", .text cause.message),
            ("queued", .count s.sink.pending.lines.length) ] }
    (.error (.openFailed path cause), s)

def rotate (o : Outputs σ) (s : Session σ) : Except SinkError Rotation × Session σ :=
  if s.sink.slot = .closed then (.error .closed, s)
  else
    match s.sink.path with
    | none => (.ok .notRotatable, s)
    | some path => (s.release o).reopen o path

/-- Drains and closes the last handle. A crash while closing loses count of the queue. -/
def finish (o : Outputs σ) (handle : Handle) (s : Session σ) :
    Except SinkError Unit × Session σ :=
  match s.drainInto o handle with
  | (.error cause, s) =>
    (.error (.closeFailed cause), s.count .addWriteError)
  | (.ok (), s) =>
    let (reply, outputs) := o.finish handle s.outputs
    let s := { s with outputs }
    match reply with
    | .done => (.ok (), s)
    | .failed cause => (.error (.closeFailed cause), s)
    | .crashed =>
      (.error (.closeFailed .crashed), { s with sink := { s.sink with pending := {} } })

def collectDrain (s : Session σ) : Session σ :=
  let s' := { s with sink := { s.sink with lastDrain := none } }
  if s.sink.lastDrain = some .crashed then
    s'.log
      { level := .warn, message := "drain task failed"
        fields := s.about [("error", .text IoError.crashed.message)] }
  else s'

def dropPending (s : Session σ) : Session σ :=
  let left := s.sink.pending
  let s' := { s with sink := { s.sink with pending := {} } }
  if left.isEmpty then s'
  else
    (s'.count (.addDropped left.lines.length)).log
      { level := .error
        message := "access log closed with lines that never reached the output"
        fields := s.about [("lines", .count left.lines.length), ("bytes", .count left.bytes)] }

def reportClose (result : Except SinkError Unit) (s : Session σ) : Session σ :=
  match result with
  | .ok () => s
  | .error error =>
    s.log
      { level := .error, message := "failed to close access log"
        fields := s.about [("error", .text error.message)] }

/-- Closes the slot for good. A handle that is attached first gets what it will take. -/
def windUp (o : Outputs σ) (s : Session σ) : Except SinkError Unit × Session σ :=
  match s.sink.slot with
  | .attached handle => (s.setSlot .closed).finish o handle
  | _ => (.ok (), s.setSlot .closed)

/-- Brings the queue to the last handle and closes for good. Closing again does nothing. -/
def close (o : Outputs σ) (s : Session σ) : Except SinkError Unit × Session σ :=
  if s.sink.slot = .closed then (.ok (), s)
  else
    let (result, s) := s.windUp o
    (result, s.collectDrain.dropPending.reportClose result)

end Session

end RequestLog
