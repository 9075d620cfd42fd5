/-!
The counters of a sink: what became of the lines that it accepted, and of its outputs. They have no
bound. The program's words of 64 bits begin again at 0 after `2 ^ 64` counts, and a run as long as
that is left out.
-/

namespace RequestLog

namespace Sink

structure Counters where
  /-- Lines taken in full. -/
  linesWritten : Nat := 0
  bytesWritten : Nat := 0
  /-- Lines still queued when the sink closed. -/
  linesDropped : Nat := 0
  writeErrors : Nat := 0
  flushCount : Nat := 0
  opens : Nat := 0
  rotations : Nat := 0
  failedRotations : Nat := 0
  /-- Earlier handles that could not be closed. -/
  drainErrors : Nat := 0
deriving DecidableEq, Repr

namespace Counters

def addLines (n : Nat) (c : Counters) : Counters := { c with linesWritten := c.linesWritten + n }

def addBytes (n : Nat) (c : Counters) : Counters := { c with bytesWritten := c.bytesWritten + n }

def addDropped (n : Nat) (c : Counters) : Counters := { c with linesDropped := c.linesDropped + n }

def addWriteError (c : Counters) : Counters := { c with writeErrors := c.writeErrors + 1 }

def addFlush (c : Counters) : Counters := { c with flushCount := c.flushCount + 1 }

def addOpen (c : Counters) : Counters := { c with opens := c.opens + 1 }

/-- A rotation also opens an output. -/
def addRotation (c : Counters) : Counters :=
  { c with rotations := c.rotations + 1, opens := c.opens + 1 }

def addFailedRotation (c : Counters) : Counters :=
  { c with failedRotations := c.failedRotations + 1 }

def addDrainError (c : Counters) : Counters := { c with drainErrors := c.drainErrors + 1 }

end Counters

end Sink

end RequestLog
