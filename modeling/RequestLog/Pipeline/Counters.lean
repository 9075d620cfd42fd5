/-!
The counters of a pipeline. Like those of a sink they have no bound, where the program's words of 64
bits begin again at 0 after `2 ^ 64` counts.
-/

namespace RequestLog

namespace Pipeline

structure Counters where
  /-- Records taken from the channel. -/
  received : Nat := 0
  /-- Records of a kind that is not logged. -/
  skipped : Nat := 0
  rendered : Nat := 0
  /-- Lines that the sink accepted. -/
  written : Nat := 0
  /-- Directives that showed a dash. -/
  unresolved : Nat := 0
  /-- Times that the sink rejected a line which was then held. -/
  held : Nat := 0
  /-- Rotations that the trigger asked for. -/
  triggered : Nat := 0
deriving DecidableEq, Repr

namespace Counters

def addReceived (c : Counters) : Counters := { c with received := c.received + 1 }

def addSkipped (c : Counters) : Counters := { c with skipped := c.skipped + 1 }

def addRendered (unresolved : Nat) (c : Counters) : Counters :=
  { c with rendered := c.rendered + 1, unresolved := c.unresolved + unresolved }

def addWritten (c : Counters) : Counters := { c with written := c.written + 1 }

def addHeld (c : Counters) : Counters := { c with held := c.held + 1 }

def addTriggered (c : Counters) : Counters := { c with triggered := c.triggered + 1 }

end Counters

end Pipeline

end RequestLog
