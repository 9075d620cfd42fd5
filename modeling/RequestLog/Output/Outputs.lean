import RequestLog.Output.IoError
import RequestLog.Text.Utf8

/-!
Outputs as a sink sees them: things that can be opened, take bytes, and be flushed and closed, each
in its own way. A sink is written for every such behaviour.
-/

namespace RequestLog

abbrev Handle := Nat

/-- The answer to one write call. Only `took` takes bytes, the first ones of those offered. -/
inductive WriteReply where
  | took (count : Nat)
  | interrupted
  | failed (cause : IoError)
deriving DecidableEq, Repr

inductive Reply where
  | done
  | failed (cause : IoError)
  | crashed
deriving DecidableEq, Repr

/-- The behaviour of outputs whose joint state is a `σ`. -/
structure Outputs (σ : Type) where
  openPath : String → σ → Except IoError Handle × σ
  /-- One call that offers several slices at once. -/
  write : Handle → List Bytes → σ → WriteReply × σ
  flush : Handle → σ → Reply × σ
  /-- Brings the bytes to safety and closes. -/
  finish : Handle → σ → Reply × σ
  /-- A bound on the interruptions that a handle still answers in a row. -/
  patience : Handle → σ → Nat
  patience_interrupted : ∀ handle slices s, (write handle slices s).1 = .interrupted →
    patience handle (write handle slices s).2 < patience handle s

end RequestLog
