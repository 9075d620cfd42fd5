import RequestLog.Pipeline.Channel
import RequestLog.Diagnostics.Limiter
import RequestLog.Record.Reader
import RequestLog.Text.Blank
import RequestLog.Output.IoError

/-!
A source of records: input with one record on each line. Blank lines are passed over, and so are
malformed ones, with a warning. A record that finds the channel full waits, and with it all that
comes after.
-/

namespace RequestLog

namespace Source

structure Stats where
  lines : Nat := 0
  sent : Nat := 0
  blank : Nat := 0
  malformed : Nat := 0
deriving DecidableEq, Repr

inductive InputEnd where
  | complete
  | failed (cause : IoError)
deriving DecidableEq, Repr

inductive Status where
  | running
  | finished
  | failed (cause : IoError)
deriving DecidableEq, Repr

inductive Content where
  | blank
  | malformed (fault : Record.Fault)
  | record (record : Record)

def newline : UInt8 := 10

def Content.ofLine (line : Bytes) : Content :=
  if line.all Blank.isAsciiBlank then .blank
  else
    match Record.ofBytes line with
    | .ok found => .record found
    | .error fault => .malformed fault

/-- The first line with its newline, and what follows. -/
def splitLine? (bytes : Bytes) : Option (Bytes × Bytes) :=
  match bytes.dropWhile (· ≠ newline) with
  | [] => none
  | c :: rest => some (bytes.takeWhile (· ≠ newline) ++ [c], rest)

end Source

structure Source where
  /-- Input that has not been looked at. -/
  unread : Bytes := []
  inputEnd : Option Source.InputEnd := none
  /-- A record that waits for room in the channel. -/
  waiting : Option Record := none
  stats : Source.Stats := {}
  limiter : Limiter := {}
  /-- The time for the limit of diagnostics, in nanoseconds. -/
  now : Nat := 0
  isCancelled : Bool := false
  status : Source.Status := .running
  events : List Event := []

namespace Source

def feed (bytes : Bytes) (source : Source) : Source :=
  { source with unread := source.unread ++ bytes }

def endInput (inputEnd : InputEnd) (source : Source) : Source :=
  { source with inputEnd := some inputEnd }

def elapse (nanos : Nat) (source : Source) : Source := { source with now := source.now + nanos }

def cancel (source : Source) : Source := { source with isCancelled := true }

def isRunning (source : Source) : Bool := source.status = .running

def takeLine (line : Bytes) (source : Source) : Source :=
  let stats := { source.stats with lines := source.stats.lines + 1 }
  match Content.ofLine line with
  | .blank => { source with stats := { stats with blank := stats.blank + 1 } }
  | .malformed fault =>
    let (event, limiter) :=
      source.limiter.report source.now .warn "skipping malformed event record" fault.message
    { source with
      stats := { stats with malformed := stats.malformed + 1 }
      limiter
      events := source.events ++ event.toList }
  | .record record => { source with stats, waiting := some record }

/-- Tries to send the record that waits. Nothing happens while the channel is full. -/
def sendWaiting (record : Record) (channel : Channel) (source : Source) :
    Option (Source × Channel) :=
  match channel.send record with
  | (.sent, channel) =>
    some ({ source with
      waiting := none
      stats := { source.stats with sent := source.stats.sent + 1 } }, channel)
  | (.full, _) => none
  | (.closed, channel) => some ({ source with status := .finished }, channel)

/-- Takes the next line, or comes to the end of the input. -/
def readNext (source : Source) : Option Source :=
  match splitLine? source.unread with
  | some (line, rest) => some ({ source with unread := rest }.takeLine line)
  | none =>
    match source.inputEnd with
    | none => none
    | some .complete =>
      if source.unread.isEmpty then some { source with status := .finished }
      else some ({ source with unread := [] }.takeLine source.unread)
    | some (.failed cause) => some { source with status := .failed cause }

def step (source : Source) (channel : Channel) : Option (Source × Channel) :=
  match source.status with
  | .running =>
    if source.isCancelled then some ({ source with status := .finished }, channel)
    else
      match source.waiting with
      | some record => source.sendWaiting record channel
      | none => source.readNext.map fun source => (source, channel)
  | _ => none

def steps : Nat → Source → Channel → Source × Channel
  | 0, source, channel => (source, channel)
  | n + 1, source, channel =>
    match source.step channel with
    | some (source, channel) => steps n source channel
    | none => (source, channel)

/-- A bound on the steps until there is nothing left to do: every line has a byte, and takes one
step to read and one to send. -/
def effort (source : Source) : Nat := 2 * source.unread.length + 4

def settle (source : Source) (channel : Channel) : Source × Channel :=
  source.steps source.effort channel

def result (source : Source) : Except IoError Stats :=
  match source.status with
  | .failed cause => .error cause
  | _ => .ok source.stats

end Source

end RequestLog
