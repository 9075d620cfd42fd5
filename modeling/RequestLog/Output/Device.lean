import RequestLog.Output.Outputs

/-!
Devices: outputs that can run full, take little at a time, be interrupted or fail.
-/

namespace RequestLog

structure Device where
  /-- Bytes that the device still has room for. -/
  budget : Option Nat := none
  /-- The most bytes that one call takes. -/
  chunk : Option Nat := none
  /-- Whether one call takes from all slices or only from the first that is not empty. -/
  vectored : Bool := false
  /-- Whether calls take nothing. -/
  zero : Bool := false
  /-- Calls that will still be interrupted. -/
  interrupts : Nat := 0
  /-- What every call fails with. -/
  fail : Option String := none
  /-- What flushing fails with. -/
  failFlush : Option String := none
  crashesOnFlush : Bool := false
  /-- What opening fails with. -/
  openError : Option String := none
  /-- What was taken, the latest first. -/
  taken : List Bytes := []
  calls : Nat := 0
deriving DecidableEq, Repr

namespace Device

def content (device : Device) : Bytes := device.taken.reverse.flatten

def size (device : Device) : Nat := device.taken.flatten.length

/-- The bytes that one call looks at. -/
def offered (device : Device) (slices : List Bytes) : Bytes :=
  if device.vectored then slices.flatten else (slices.find? (!·.isEmpty)).getD []

def atMost (limit : Option Nat) (n : Nat) : Nat :=
  match limit with
  | some limit => min limit n
  | none => n

def share (device : Device) (n : Nat) : Nat :=
  atMost device.budget (atMost device.chunk n)

def take (device : Device) (bytes : Bytes) : Device :=
  { device with
    taken := bytes :: device.taken
    budget := device.budget.map (· - bytes.length) }

/-- A call that is not interrupted. -/
def answer (slices : List Bytes) (device : Device) : WriteReply × Device :=
  match device.fail with
  | some text => (.failed (.failed text), device)
  | none =>
    if device.zero then (.took 0, device)
    else if device.budget = some 0 then (.failed (.failed "device full"), device)
    else
      let bytes := device.offered slices
      let count := device.share bytes.length
      (.took count, device.take (bytes.take count))

def write (slices : List Bytes) (device : Device) : WriteReply × Device :=
  if 0 < device.interrupts then
    (.interrupted,
      { device with calls := device.calls + 1, interrupts := device.interrupts - 1 })
  else answer slices { device with calls := device.calls + 1 }

theorem answer_ne_interrupted (slices : List Bytes) (device : Device) :
    (answer slices device).1 ≠ .interrupted := by
  unfold answer
  split
  · simp
  · split
    · simp
    · split <;> simp

theorem write_interrupted {slices : List Bytes} {device : Device}
    (h : (write slices device).1 = .interrupted) :
    (write slices device).2.interrupts < device.interrupts := by
  unfold write at h ⊢
  split at h
  · rename_i hpos
    rw [if_pos hpos]
    exact Nat.sub_lt hpos Nat.one_pos
  · exact absurd h (answer_ne_interrupted _ _)

def flush (device : Device) : Reply :=
  if device.crashesOnFlush then .crashed
  else
    match device.failFlush with
    | some text => .failed (.failed text)
    | none => .done

end Device

end RequestLog
