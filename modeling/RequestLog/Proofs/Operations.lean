import RequestLog.Proofs.Queue
import RequestLog.Sink.Basic

/-! What one operation on a sink can do, case by case, and what each case leaves alone. -/

namespace RequestLog

namespace Session

variable {σ : Type} {o : Outputs σ} {s t : Session σ}

/-! ### Outcomes -/

/-- A sink that opens is the one that starts on the handle of its path. -/
theorem openAt_ok {sink : Sink} {path : String} {outputs rest : σ}
    (h : openAt o sink path outputs = (.ok s, rest)) :
    ∃ handle, o.openPath path outputs = (.ok handle, rest) ∧
      s = start { sink with path := some path } handle rest := by
  unfold openAt at h
  rcases ho : o.openPath path outputs with ⟨cause | handle, opened⟩
  · simp [ho] at h
  · obtain ⟨rfl, rfl⟩ : start _ handle opened = s ∧ opened = rest := by simpa [ho] using h
    exact ⟨handle, rfl, rfl⟩

inductive WriteOutcome (o : Outputs σ) (line : Bytes) (s : Session σ) :
    Except Rejected Unit × Session σ → Prop where
  | unavailable (hs : ∀ handle, s.sink.slot ≠ .attached handle) :
    WriteOutcome o line s (.error ⟨line, s.sink.slot.unavailable⟩, s)
  | empty {handle : Handle} (hs : s.sink.slot = .attached handle) (hl : line = []) :
    WriteOutcome o line s (.ok (), s)
  | queued {handle : Handle} (hs : s.sink.slot = .attached handle) (hl : line ≠ [])
      (hd : s.mustDrain line = false) :
    WriteOutcome o line s (.ok (), s.accept line)
  | drained {handle : Handle} {t : Session σ} (hs : s.sink.slot = .attached handle)
      (hl : line ≠ []) (hd : s.mustDrain line = true) (h : s.drainInto o handle = (.ok (), t)) :
    WriteOutcome o line s (.ok (), t.accept line)
  | failed {handle : Handle} {cause : IoError} {t : Session σ}
      (hs : s.sink.slot = .attached handle) (hl : line ≠ []) (hd : s.mustDrain line = true)
      (h : s.drainInto o handle = (.error cause, t)) :
    WriteOutcome o line s (.error ⟨line, .writeFailed cause⟩,
      t.detach o handle "access log write failed, detaching output" cause)

theorem write_outcome (o : Outputs σ) (line : Bytes) (s : Session σ) :
    WriteOutcome o line s (s.write o line) := by
  unfold write
  split
  · rename_i handle hs
    split
    · rename_i hl
      exact .empty hs (List.isEmpty_iff.1 hl)
    · rename_i hl
      have hl : line ≠ [] := fun h => hl (List.isEmpty_iff.2 h)
      split
      · rename_i hd
        split
        · rename_i t h; exact .drained hs hl hd h
        · rename_i cause t h; exact .failed hs hl hd h
      · rename_i hd
        exact .queued hs hl (by simpa using hd)
  · rename_i hs
    exact .unavailable hs

/-- A line that is refused comes back. -/
theorem line_of_write_error {line : Bytes} {rejected : Rejected}
    (h : s.write o line = (.error rejected, t)) : rejected.line = line := by
  have hw := write_outcome o line s
  rw [h] at hw
  cases hw <;> rfl

inductive FlushOutcome (o : Outputs σ) (s : Session σ) : Flushed × Session σ → Prop where
  | idle (hs : ∀ handle, s.sink.slot ≠ .attached handle) : FlushOutcome o s (.done, s)
  | undrained {handle : Handle} {cause : IoError} {t : Session σ}
      (hs : s.sink.slot = .attached handle) (h : s.drainInto o handle = (.error cause, t)) :
    FlushOutcome o s (.failed (.writeFailed cause),
      t.detach o handle "access log flush failed, detaching output" cause)
  | done {handle : Handle} {t : Session σ} {outputs : σ} (hs : s.sink.slot = .attached handle)
      (h : s.drainInto o handle = (.ok (), t)) (hf : o.flush handle t.outputs = (.done, outputs)) :
    FlushOutcome o s (.done, { t with outputs }.count .addFlush)
  | failed {handle : Handle} {cause : IoError} {t : Session σ} {outputs : σ}
      (hs : s.sink.slot = .attached handle) (h : s.drainInto o handle = (.ok (), t))
      (hf : o.flush handle t.outputs = (.failed cause, outputs)) :
    FlushOutcome o s (.failed (.writeFailed cause),
      { t with outputs }.detach o handle "access log flush failed, detaching output" cause)
  | crashed {handle : Handle} {t : Session σ} {outputs : σ} (hs : s.sink.slot = .attached handle)
      (h : s.drainInto o handle = (.ok (), t))
      (hf : o.flush handle t.outputs = (.crashed, outputs)) :
    FlushOutcome o s (.crashed, { t with outputs })

theorem flush_outcome (o : Outputs σ) (s : Session σ) : FlushOutcome o s (s.flush o) := by
  unfold flush
  split
  · rename_i handle hs
    rcases h : s.drainInto o handle with ⟨_ | _, t⟩
    · exact .undrained hs h
    · rcases hf : o.flush handle t.outputs with ⟨_ | cause | _, outputs⟩ <;> simp only [hf]
      · exact .done hs h hf
      · exact .failed hs h hf
      · exact .crashed hs h hf
  · rename_i hs
    exact .idle hs

/-- The ways a rotation can go. Whatever happens to the old handle, the path is opened again. -/
inductive RotateOutcome (o : Outputs σ) (s : Session σ) :
    Except SinkError Rotation × Session σ → Prop where
  | closed (hs : s.sink.slot = .closed) : RotateOutcome o s (.error .closed, s)
  | stream (hs : s.sink.slot ≠ .closed) (hp : s.sink.path = none) :
    RotateOutcome o s (.ok .notRotatable, s)
  | reopened {path : String} (hs : s.sink.slot ≠ .closed) (hp : s.sink.path = some path) :
    RotateOutcome o s ((s.release o).reopen o path)

theorem rotate_outcome (o : Outputs σ) (s : Session σ) : RotateOutcome o s (s.rotate o) := by
  unfold rotate
  split
  · rename_i hs
    exact .closed hs
  · rename_i hs
    split
    · rename_i hp
      exact .stream hs hp
    · rename_i path hp
      exact .reopened hs hp

/-- The ways the last handle can be let go. A crash takes the queue along. -/
inductive FinishOutcome (o : Outputs σ) (handle : Handle) (s : Session σ) :
    Except SinkError Unit × Session σ → Prop where
  | undrained {cause : IoError} {t : Session σ} (h : s.drainInto o handle = (.error cause, t)) :
    FinishOutcome o handle s (.error (.closeFailed cause), t.count .addWriteError)
  | done {t : Session σ} {outputs : σ} (h : s.drainInto o handle = (.ok (), t))
      (hf : o.finish handle t.outputs = (.done, outputs)) :
    FinishOutcome o handle s (.ok (), { t with outputs })
  | failed {cause : IoError} {t : Session σ} {outputs : σ}
      (h : s.drainInto o handle = (.ok (), t))
      (hf : o.finish handle t.outputs = (.failed cause, outputs)) :
    FinishOutcome o handle s (.error (.closeFailed cause), { t with outputs })
  | crashed {t : Session σ} {outputs : σ} (h : s.drainInto o handle = (.ok (), t))
      (hf : o.finish handle t.outputs = (.crashed, outputs)) :
    FinishOutcome o handle s (.error (.closeFailed .crashed),
      { t with outputs, sink := { t.sink with pending := {} } })

theorem finish_outcome (o : Outputs σ) (handle : Handle) (s : Session σ) :
    FinishOutcome o handle s (s.finish o handle) := by
  unfold finish
  rcases h : s.drainInto o handle with ⟨_ | _, t⟩
  · exact .undrained h
  · rcases hf : o.finish handle t.outputs with ⟨_ | cause | _, outputs⟩ <;> simp only [hf]
    · exact .done h hf
    · exact .failed h hf
    · exact .crashed h hf

/-! ### One handle, or none -/

theorem handle_unique {handle other : Handle} (h : s.sink.slot = .attached handle)
    (h' : s.sink.slot = .attached other) : handle = other :=
  Sink.Slot.attached.inj (h.symm.trans h')

theorem write_of_not_attached (o : Outputs σ) (line : Bytes)
    (hs : ∀ handle, s.sink.slot ≠ .attached handle) :
    s.write o line = (.error ⟨line, s.sink.slot.unavailable⟩, s) := by
  unfold write
  split
  · rename_i handle hslot
    exact absurd hslot (hs handle)
  · rfl

theorem flush_of_not_attached (o : Outputs σ) (hs : ∀ handle, s.sink.slot ≠ .attached handle) :
    s.flush o = (.done, s) := by
  unfold flush
  split
  · rename_i handle hslot
    exact absurd hslot (hs handle)
  · rfl

theorem release_of_not_attached (o : Outputs σ) (hs : ∀ handle, s.sink.slot ≠ .attached handle) :
    s.release o = s.setSlot .unattached := by
  unfold release
  split
  · rename_i handle hslot
    exact absurd hslot (hs handle)
  · rfl

/-! ### Only a close closes -/

theorem write_of_closed (o : Outputs σ) (line : Bytes) (hs : s.sink.slot = .closed) :
    s.write o line = (.error ⟨line, .closed⟩, s) := by
  rw [write_of_not_attached o line (by simp [hs]), hs]
  rfl

theorem flush_of_closed (o : Outputs σ) (hs : s.sink.slot = .closed) : s.flush o = (.done, s) := by
  simp [flush, hs]

theorem rotate_of_closed (o : Outputs σ) (hs : s.sink.slot = .closed) :
    s.rotate o = (.error .closed, s) :=
  if_pos hs

theorem rotate_of_stream (o : Outputs σ) (hs : s.sink.slot ≠ .closed) (hp : s.sink.path = none) :
    s.rotate o = (.ok .notRotatable, s) := by
  simp [rotate, hs, hp]

theorem write_closed_iff (o : Outputs σ) (line : Bytes) (s : Session σ) :
    (s.write o line).2.sink.slot = .closed ↔ s.sink.slot = .closed := by
  have hw := write_outcome o line s
  generalize s.write o line = r at hw ⊢
  cases hw with
  | unavailable _ => exact Iff.rfl
  | empty _ _ => exact Iff.rfl
  | queued _ _ _ => exact Iff.rfl
  | drained hs _ _ hdrain =>
    obtain ⟨-, rfl⟩ := Prod.mk.inj hdrain
    exact Iff.rfl
  | failed hs _ _ _ => simp [detach, setSlot, hs]

theorem flush_closed_iff (o : Outputs σ) (s : Session σ) :
    (s.flush o).2.sink.slot = .closed ↔ s.sink.slot = .closed := by
  have hw := flush_outcome o s
  generalize s.flush o = r at hw ⊢
  cases hw with
  | idle _ => exact Iff.rfl
  | undrained hs _ => simp [detach, setSlot, hs]
  | done hs hdrain _ =>
    obtain ⟨-, rfl⟩ := Prod.mk.inj hdrain
    exact Iff.rfl
  | failed hs _ _ => simp [detach, setSlot, hs]
  | crashed hs hdrain _ =>
    obtain ⟨-, rfl⟩ := Prod.mk.inj hdrain
    exact Iff.rfl

theorem reopen_not_closed (o : Outputs σ) (path : String) (s : Session σ) :
    (s.reopen o path).2.sink.slot ≠ .closed := by
  unfold reopen
  rcases o.openPath path s.outputs with ⟨cause | handle, outputs⟩ <;> simp [setSlot, count, log]

theorem rotate_closed_iff (o : Outputs σ) (s : Session σ) :
    (s.rotate o).2.sink.slot = .closed ↔ s.sink.slot = .closed := by
  have hw := rotate_outcome o s
  generalize s.rotate o = r at hw ⊢
  cases hw with
  | closed _ => exact Iff.rfl
  | stream _ _ => exact Iff.rfl
  | reopened hs _ => exact iff_of_false (reopen_not_closed o _ _) hs

/-! ### Parts of a close -/

@[simp] theorem collectDrain_slot (s : Session σ) : s.collectDrain.sink.slot = s.sink.slot := by
  unfold collectDrain
  split <;> rfl

@[simp] theorem collectDrain_pending (s : Session σ) :
    s.collectDrain.sink.pending = s.sink.pending := by
  unfold collectDrain
  split <;> rfl

@[simp] theorem collectDrain_counters (s : Session σ) :
    s.collectDrain.sink.counters = s.sink.counters := by
  unfold collectDrain
  split <;> rfl

@[simp] theorem collectDrain_outputs (s : Session σ) : s.collectDrain.outputs = s.outputs := by
  unfold collectDrain
  split <;> rfl

theorem dropPending_of_empty (h : s.sink.pending.isEmpty) :
    s.dropPending = { s with sink := { s.sink with pending := {} } } :=
  if_pos h

@[simp] theorem dropPending_slot (s : Session σ) : s.dropPending.sink.slot = s.sink.slot := by
  unfold dropPending
  dsimp only
  split <;> rfl

@[simp] theorem dropPending_outputs (s : Session σ) : s.dropPending.outputs = s.outputs := by
  unfold dropPending
  dsimp only
  split <;> rfl

@[simp] theorem reportClose_sink (result : Except SinkError Unit) (s : Session σ) :
    (s.reportClose result).sink = s.sink := by
  cases result <;> rfl

@[simp] theorem reportClose_outputs (result : Except SinkError Unit) (s : Session σ) :
    (s.reportClose result).outputs = s.outputs := by
  cases result <;> rfl

theorem close_of_closed (o : Outputs σ) (hs : s.sink.slot = .closed) : s.close o = (.ok (), s) :=
  if_pos hs

theorem close_of_not_closed (o : Outputs σ) (hs : s.sink.slot ≠ .closed) :
    s.close o = ((s.windUp o).1,
      (s.windUp o).2.collectDrain.dropPending.reportClose (s.windUp o).1) :=
  if_neg hs

theorem close_outputs_of_not_attached (o : Outputs σ)
    (hs : ∀ handle, s.sink.slot ≠ .attached handle) : (s.close o).2.outputs = s.outputs := by
  by_cases hclosed : s.sink.slot = .closed
  · rw [close_of_closed o hclosed]
  · have hwind : (s.windUp o).2.outputs = s.outputs := by
      unfold windUp
      split
      · rename_i handle hslot
        exact absurd hslot (hs handle)
      · rfl
    rw [close_of_not_closed o hclosed]
    simpa using hwind

theorem drainInto_slot {handle : Handle} {r : Except IoError Unit} {t : Session σ}
    (h : s.drainInto o handle = (r, t)) : t.sink.slot = s.sink.slot := by
  obtain ⟨-, rfl⟩ := Prod.mk.inj h
  rfl

theorem finish_slot (o : Outputs σ) (handle : Handle) (s : Session σ) :
    (s.finish o handle).2.sink.slot = s.sink.slot := by
  have hw := finish_outcome o handle s
  generalize s.finish o handle = r at hw ⊢
  cases hw with
  | undrained h =>
    rw [← drainInto_slot h]
    rfl
  | done h _ => rw [← drainInto_slot h]
  | failed h _ => rw [← drainInto_slot h]
  | crashed h _ => rw [← drainInto_slot h]

theorem windUp_slot (o : Outputs σ) (s : Session σ) : (s.windUp o).2.sink.slot = .closed := by
  unfold windUp
  split
  · exact finish_slot o _ _
  · rfl

theorem close_slot (o : Outputs σ) (s : Session σ) : (s.close o).2.sink.slot = .closed := by
  by_cases hs : s.sink.slot = .closed
  · rw [close_of_closed o hs]
    exact hs
  · rw [close_of_not_closed o hs]
    simp [windUp_slot]

/-- What a close gives up: the queue that remains once the last handle has taken what it will. -/
def givenUp (o : Outputs σ) (s : Session σ) : List Bytes :=
  if s.sink.slot = .closed then [] else (s.windUp o).2.sink.pending.lines

end Session

end RequestLog
