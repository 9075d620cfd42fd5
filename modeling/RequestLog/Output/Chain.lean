import RequestLog.Output.World

/-!
Writing to one open output: single calls, and a write that goes on until all is taken.
-/

namespace RequestLog

namespace Outputs

variable {σ : Type}

def writeOnce (o : Outputs σ) (handle : Handle) (slices : List Bytes) (s : σ) :
    Except IoError Nat × σ :=
  match o.write handle slices s with
  | (.took count, s) => (.ok count, s)
  | (.interrupted, s) => (.error .interrupted, s)
  | (.failed cause, s) => (.error cause, s)

/-- Calls until every byte is taken; a call that takes nothing fails. -/
def writeAll (o : Outputs σ) (handle : Handle) (bytes : Bytes) (s : σ) : Except IoError Unit × σ :=
  match _hb : bytes with
  | [] => (.ok (), s)
  | b :: rest =>
    match _hw : o.write handle [b :: rest] s with
    | (.took 0, t) => (.error .incompleteWrite, t)
    | (.took (count + 1), t) => writeAll o handle (rest.drop count) t
    | (.interrupted, t) => writeAll o handle (b :: rest) t
    | (.failed cause, t) => (.error cause, t)
termination_by (bytes.length, o.patience handle s)
decreasing_by
  · apply Prod.Lex.left
    simp only [List.length_drop, List.length_cons]
    omega
  · subst _hb
    apply Prod.Lex.right
    have := o.patience_interrupted handle [b :: rest] s
    rw [_hw] at this
    exact this rfl

def replyResult : Reply → Except IoError Unit
  | .done => .ok ()
  | .failed cause => .error cause
  | .crashed => .error .crashed

def flushOnce (o : Outputs σ) (handle : Handle) (s : σ) : Except IoError Unit × σ :=
  let (reply, s) := o.flush handle s
  (replyResult reply, s)

def finishOnce (o : Outputs σ) (handle : Handle) (s : σ) : Except IoError Unit × σ :=
  let (reply, s) := o.finish handle s
  (replyResult reply, s)

end Outputs

end RequestLog
