import RequestLog.Record.Basic

/-!
A bounded queue of records between a source and a pipeline.
-/

namespace RequestLog

structure Channel where
  /-- Records that may wait at a time. -/
  capacity : Nat
  queue : List Record := []
  /-- The receiving side takes nothing new. -/
  isClosed : Bool := false
  /-- Nothing more will be sent. -/
  senderGone : Bool := false

/-- What became of a record that was sent without waiting. -/
inductive Sent where
  | sent
  | full
  | closed
deriving DecidableEq, Repr

namespace Channel

def maxCapacity : Nat := 0x1FFFFFFFFFFFFFFF

/-- A channel. There is none for a capacity of zero or one beyond counting. -/
def create? (capacity : Nat) : Option Channel :=
  if 0 < capacity ∧ capacity ≤ maxCapacity then some { capacity } else none

def send (record : Record) (channel : Channel) : Sent × Channel :=
  if channel.isClosed then (.closed, channel)
  else if channel.capacity ≤ channel.queue.length then (.full, channel)
  else (.sent, { channel with queue := channel.queue ++ [record] })

/-- The receiving side takes nothing new, and keeps what waits. -/
def close (channel : Channel) : Channel := { channel with isClosed := true }

/-- The receiving side goes away with all that waits. -/
def drop (channel : Channel) : Channel := { channel with isClosed := true, queue := [] }

end Channel

end RequestLog
