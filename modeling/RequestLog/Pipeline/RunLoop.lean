import RequestLog.Pipeline.Basic
import RequestLog.Pipeline.Channel
import RequestLog.Pipeline.Counters
import RequestLog.Pipeline.Filter
import RequestLog.Pipeline.Formatter
import RequestLog.Trigger.Hub

/-!
The loop of a running pipeline. It takes one thing at a time, the first of: a request to stop, a
firing of the trigger, a flush that is due, a record. A rendered line goes to the sink before
anything else; while the sink does not take it no further record is looked at. At the end all
records that wait are still delivered, one after the other.
-/

namespace RequestLog

structure StopReport where
  counters : Pipeline.Counters
  sink : Sink.Counters
  /-- Rendered lines that never reached the output. -/
  undelivered : Nat
  closedCleanly : Bool
deriving DecidableEq, Repr

namespace RunLoop

inductive Phase where
  /-- It has no line and waits for whatever comes first. -/
  | choosing
  /-- It has a line for the sink. -/
  | offering (line : Bytes)
  /-- The sink rejected the line, which waits for a fresh output. -/
  | holding (line : Bytes)
  /-- It is to end, and delivers the line at hand and all that still waits. The sink has rejected
  so many lines since. -/
  | draining (line : Option Bytes) (lost : Nat)
  | ended (report : StopReport)
  | crashed
deriving DecidableEq, Repr

end RunLoop

structure RunLoop (σ : Type) where
  settings : Settings
  filter : KindFilter
  formatter : Formatter
  session : Session σ
  channel : Channel
  /-- The trigger. Without a subscription its firings pass by. -/
  hub : Hub
  subscription : Option Subscription := none
  isCancelled : Bool := false
  counters : Pipeline.Counters := {}
  /-- The time for flushes, in nanoseconds. -/
  now : Nat := 0
  /-- The time of the next flush. -/
  nextTick : Nat := 0
  phase : RunLoop.Phase := .choosing

namespace RunLoop

variable {σ : Type}

/-- Starts a pipeline. It subscribes to the trigger only if it is to rotate; the first flush is due
at once. -/
def start (pipeline : Pipeline σ) (trigger : Option Hub) (channel : Channel) (now : Nat) :
    RunLoop σ :=
  let delivery := pipeline.settings.delivery
  let renderer : Renderer :=
    { pattern := Pattern.compile delivery.pattern, separator := delivery.separator }
  let (formatter, events) := Formatter.create renderer
  let (subscription, hub) :=
    match trigger, delivery.rotateOnSignal with
    | some hub, true =>
      let (subscription, hub) := hub.subscribe
      (some subscription, hub)
    | some hub, false => (none, hub)
    | none, _ => (none, { name := "" })
  { settings := pipeline.settings
    filter := KindFilter.ofList delivery.eventKinds
    formatter, channel, hub, subscription, now
    nextTick := now
    session := { pipeline.session with events := pipeline.session.events ++ events } }

/-! ### Records and lines -/

def process (record : Record) (loop : RunLoop σ) : Option Bytes × RunLoop σ :=
  let counters := loop.counters.addReceived
  if loop.filter.accepts record then
    let (line, events, formatter) := loop.formatter.format loop.session.sink.now record
    (some line.bytes,
      { loop with
        counters := counters.addRendered line.unresolved
        formatter
        session := { loop.session with events := loop.session.events ++ events } })
  else (none, { loop with counters := counters.addSkipped })

def countWritten (loop : RunLoop σ) : RunLoop σ :=
  { loop with counters := loop.counters.addWritten }

/-! ### The end -/

def shutDown (line : Option Bytes) (loop : RunLoop σ) : RunLoop σ :=
  { loop with channel := loop.channel.close, phase := .draining line 0 }

/-- Writes one line at the end. After the first that fails the others are only counted. -/
def deliver (o : Outputs σ) (line : Bytes) (lost : Nat) (loop : RunLoop σ) : RunLoop σ :=
  if 0 < lost then { loop with phase := .draining none (lost + 1) }
  else
    match loop.session.write o line with
    | (.ok (), session) => { { loop with session }.countWritten with phase := .draining none 0 }
    | (.error _, session) => { loop with session, phase := .draining none 1 }

def dropSubscription (loop : RunLoop σ) : RunLoop σ :=
  match loop.subscription with
  | some subscription =>
    { loop with subscription := none, hub := loop.hub.unsubscribe subscription }
  | none => loop

def reportLost (undelivered : Nat) (session : Session σ) (name : String) : Session σ :=
  if undelivered = 0 then session
  else
    session.log
      { level := .error
        message := "access log stopped with lines the output never accepted"
        fields := [("pipeline", .text name), ("undelivered", .count undelivered)] }

/-- Closes the sink and draws up the account. -/
def conclude (o : Outputs σ) (lost : Nat) (loop : RunLoop σ) : RunLoop σ :=
  let (closed, session) := loop.session.close o
  let undelivered := lost + session.sink.counters.linesDropped
  { { loop with channel := loop.channel.drop }.dropSubscription with
    session := reportLost undelivered session loop.settings.name
    phase := .ended
      { counters := loop.counters
        sink := session.sink.counters
        undelivered
        closedCleanly := closed matches .ok () } }

/-- One step of the end: the line at hand, else the next record, else nothing is left. -/
def drain (o : Outputs σ) (line : Option Bytes) (lost : Nat) (loop : RunLoop σ) : RunLoop σ :=
  match line with
  | some line => loop.deliver o line lost
  | none =>
    match loop.channel.queue with
    | record :: rest =>
      let (line, loop) :=
        { loop with channel := { loop.channel with queue := rest } }.process record
      { loop with phase := .draining line lost }
    | [] => loop.conclude o lost

/-- A crash of the output takes the loop with it; the sink is left as it is. -/
def crash (loop : RunLoop σ) : RunLoop σ :=
  { { loop with channel := loop.channel.drop }.dropSubscription with phase := .crashed }

/-! ### What the loop reacts to -/

/-- Rotates for a firing. A trigger that is gone is given up. -/
def react (o : Outputs σ) (received : Received) (loop : RunLoop σ) : RunLoop σ :=
  match received with
  | .firing _ =>
    { loop with
      counters := loop.counters.addTriggered
      session := (loop.session.rotate o).2 }
  | .closed =>
    { loop.dropSubscription with
      session := loop.session.log
        { level := .warn
          message := "rotation trigger closed, rotation on trigger disabled"
          fields := [("pipeline", .text loop.settings.name)] } }
  | .pending => loop

/-- The trigger's news, if there are any, and the loop after taking them. -/
def news (loop : RunLoop σ) : Option (Received × RunLoop σ) :=
  match loop.subscription with
  | none => none
  | some subscription =>
    match loop.hub.receive subscription with
    | (.pending, _) => none
    | (received, hub) => some (received, { loop with hub })

/-- A flush that comes later than this is taken as missed. -/
def tolerance : Nat := 5000000

/-- The time of the flush after the one for `tick`. Missed ones are left out. -/
def tickAfter (interval now tick : Nat) : Nat :=
  if tick + tolerance < now then now + interval - (now - tick) % interval else tick + interval

/-- Flushes. A failure detaches the output, which is all there is to it. -/
def flush (o : Outputs σ) (loop : RunLoop σ) : RunLoop σ :=
  let interval := loop.settings.delivery.flushInterval.toNanos
  let loop := { loop with nextTick := tickAfter interval loop.now loop.nextTick }
  match loop.session.flush o with
  | (.crashed, session) => { loop with session }.crash
  | (_, session) => { loop with session }

/-- Takes the next record, which makes a line unless its kind is not logged. -/
def take (record : Record) (rest : List Record) (loop : RunLoop σ) : RunLoop σ :=
  match { loop with channel := { loop.channel with queue := rest } }.process record with
  | (some line, loop) => { loop with phase := .offering line }
  | (none, loop) => loop

/-- Offers a line to the sink. One that may be accepted later is held. -/
def offer (o : Outputs σ) (line : Bytes) (loop : RunLoop σ) : RunLoop σ :=
  match loop.session.write o line with
  | (.ok (), session) => { { loop with session }.countWritten with phase := .choosing }
  | (.error rejected, session) =>
    let loop := { loop with session }
    if rejected.error.isRecoverable then
      { loop with
        counters := loop.counters.addHeld
        phase := .holding rejected.line }
    else loop.shutDown (some rejected.line)

/-! ### Steps -/

/-- One step while there is no line. -/
def choose (o : Outputs σ) (loop : RunLoop σ) : Option (RunLoop σ) :=
  if loop.isCancelled then some (loop.shutDown none)
  else
    match loop.news with
    | some (received, loop) => some (loop.react o received)
    | none =>
      if loop.nextTick ≤ loop.now then some (loop.flush o)
      else
        match loop.channel.queue with
        | record :: rest => some (loop.take record rest)
        | [] => if loop.channel.senderGone then some (loop.shutDown none) else none

/-- One step while a line is held. -/
def hold (o : Outputs σ) (line : Bytes) (loop : RunLoop σ) : Option (RunLoop σ) :=
  if loop.isCancelled then some (loop.shutDown (some line))
  else
    match loop.news with
    | some (received, loop) => some { loop.react o received with phase := .offering line }
    | none =>
      if loop.session.sink.shown.isSettled then some { loop with phase := .offering line } else none

def step (o : Outputs σ) (loop : RunLoop σ) : Option (RunLoop σ) :=
  match loop.phase with
  | .choosing => loop.choose o
  | .offering line => some (loop.offer o line)
  | .holding line => loop.hold o line
  | .draining line lost => some (loop.drain o line lost)
  | .ended _ => none
  | .crashed => none

def steps (o : Outputs σ) : Nat → RunLoop σ → RunLoop σ
  | 0, loop => loop
  | n + 1, loop =>
    match loop.step o with
    | some next => steps o n next
    | none => loop

/-- What the trigger may still ask for. -/
def triggerEffort (loop : RunLoop σ) : Nat :=
  match loop.subscription with
  | some subscription => loop.hub.backlog subscription + 1
  | none => 0

/-- A bound on the steps until there is nothing left to do: firings and records lead to at most four
steps each, and a flush that is due to one. -/
def effort (loop : RunLoop σ) : Nat :=
  4 * (loop.triggerEffort + loop.channel.queue.length) + (loop.now + 1 - loop.nextTick) + 4

def settle (o : Outputs σ) (loop : RunLoop σ) : RunLoop σ := loop.steps o loop.effort

/-! ### From outside -/

def isFinished (loop : RunLoop σ) : Bool :=
  match loop.phase with
  | .ended _ => true
  | .crashed => true
  | _ => false

/-- Lets time pass for the flushes. -/
def advance (nanos : Nat) (loop : RunLoop σ) : RunLoop σ := { loop with now := loop.now + nanos }

/-- Lets time pass for the diagnostics. -/
def elapse (nanos : Nat) (loop : RunLoop σ) : RunLoop σ :=
  { loop with session := loop.session.elapse nanos }

def send (record : Record) (loop : RunLoop σ) : Sent × RunLoop σ :=
  let (result, channel) := loop.channel.send record
  (result, { loop with channel })

def closeSource (loop : RunLoop σ) : RunLoop σ :=
  { loop with channel := { loop.channel with senderGone := true } }

def fire (loop : RunLoop σ) : Nat × RunLoop σ :=
  let (reached, hub) := loop.hub.fire
  (reached, { loop with hub })

def closeTrigger (loop : RunLoop σ) : RunLoop σ := { loop with hub := loop.hub.close }

/-- Does something to the sink, apart from the loop. -/
def onSink {α : Type} (f : Session σ → α × Session σ) (loop : RunLoop σ) : α × RunLoop σ :=
  let (result, session) := f loop.session
  (result, { loop with session })

def cancel (loop : RunLoop σ) : RunLoop σ := { loop with isCancelled := true }

def report (loop : RunLoop σ) : Except PipelineError StopReport :=
  match loop.phase with
  | .ended report => .ok report
  | _ => .error (.taskFailed "panicked")

/-- Stops, whatever the loop is at. -/
def stop (o : Outputs σ) (loop : RunLoop σ) : Except PipelineError StopReport × RunLoop σ :=
  let loop := loop.cancel.settle o
  (loop.report, loop)

end RunLoop

end RequestLog
