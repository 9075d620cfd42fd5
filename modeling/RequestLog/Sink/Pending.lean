import RequestLog.Output.Outputs
import RequestLog.Sink.Counters

/-!
The queue of a sink: lines accepted but not yet taken in full by an output.
-/

namespace RequestLog

namespace Sink

/-- `bytes` counts the bytes of all lines. The first line may have lost its beginning to an output
that took only part of it. -/
structure Pending where
  lines : List Bytes := []
  bytes : Nat := 0
deriving DecidableEq, Repr

namespace Pending

def push (pending : Pending) (line : Bytes) : Pending :=
  ⟨pending.lines ++ [line], pending.bytes + line.length⟩

def isEmpty (pending : Pending) : Bool := pending.lines.isEmpty

/-- The lines that remain once so many bytes are taken from the front, and how many lines that
finished. -/
def dropBytes : Nat → List Bytes → List Bytes × Nat
  | _, [] => ([], 0)
  | 0, lines => (lines, 0)
  | n + 1, line :: lines =>
    if line.length ≤ n + 1 then
      let (rest, finished) := dropBytes (n + 1 - line.length) lines
      (rest, finished + 1)
    else (line.drop (n + 1) :: lines, 0)

/-- Bytes and lines together: what a call that takes something makes smaller. -/
def weight (lines : List Bytes) : Nat := lines.flatten.length + lines.length

theorem weight_dropBytes_le (n : Nat) (lines : List Bytes) :
    weight (dropBytes n lines).1 ≤ weight lines := by
  induction lines generalizing n with
  | nil => simp [dropBytes]
  | cons line lines ih =>
    cases n with
    | zero => simp [dropBytes]
    | succ n =>
      simp only [dropBytes]
      split
      · have := ih (n + 1 - line.length)
        simp only [weight, List.flatten_cons, List.length_append, List.length_cons] at this ⊢
        omega
      · simp [weight]

theorem weight_dropBytes_lt (n : Nat) {lines : List Bytes} (h : lines ≠ []) :
    weight (dropBytes (n + 1) lines).1 < weight lines := by
  cases lines with
  | nil => exact absurd rfl h
  | cons line lines =>
    simp only [dropBytes]
    split
    · have := weight_dropBytes_le (n + 1 - line.length) lines
      simp only [weight, List.flatten_cons, List.length_append, List.length_cons] at this ⊢
      omega
    · simp [weight]
      omega

def consume (n : Nat) (pending : Pending) (counters : Counters) : Pending × Counters :=
  let (lines, finished) := dropBytes n pending.lines
  (⟨lines, pending.bytes - n⟩, (counters.addBytes n).addLines finished)

def batch : Nat := 64

structure Drained (σ : Type) where
  result : Except IoError Unit
  pending : Pending
  counters : Counters
  outputs : σ

/-- Offers the queue to an output until it is empty or the output fails. A call that takes nothing
is a failure; an interrupted one is made again. -/
def drain {σ : Type} (o : Outputs σ) (handle : Handle) (pending : Pending) (counters : Counters)
    (s : σ) : Drained σ :=
  if _he : pending.lines = [] then ⟨.ok (), pending, counters, s⟩
  else
    match _hw : o.write handle (pending.lines.take batch) s with
    | (.took 0, t) => ⟨.error .writeZero, pending, counters, t⟩
    | (.took (n + 1), t) =>
      let after := pending.consume (n + 1) counters
      drain o handle after.1 after.2 t
    | (.interrupted, t) => drain o handle pending counters t
    | (.failed cause, t) => ⟨.error cause, pending, counters, t⟩
termination_by (weight pending.lines, o.patience handle s)
decreasing_by
  · apply Prod.Lex.left
    exact weight_dropBytes_lt n _he
  · apply Prod.Lex.right
    have := o.patience_interrupted handle (pending.lines.take batch) s
    rw [_hw] at this
    exact this rfl

end Pending

end Sink

end RequestLog
