import RequestLog.Proofs.Boundary

/-! Flushes and closes as barriers. One that succeeds has brought every accepted line to the
handles, whatever went wrong before, and a close that cannot do so counts the lines that it gives
up. -/

namespace RequestLog

namespace Sink.Pending

/-- How many of the lines do not have their last byte among those taken. -/
def unfinished (lines : List Bytes) (taken : Bytes) : Nat :=
  (List.range lines.length).countP fun i => !(lines.take (i + 1)).flatten.isPrefixOf taken

theorem completed_add_unfinished (lines : List Bytes) (taken : Bytes) :
    completed lines taken + unfinished lines taken = lines.length := by
  have hcount := List.length_eq_countP_add_countP (l := List.range lines.length)
    fun i => (lines.take (i + 1)).flatten.isPrefixOf taken
  simp only [List.length_range, Bool.not_eq_true, Bool.decide_eq_false] at hcount
  exact hcount.symm

/-- The lines that are left are those that are not finished. -/
theorem Progress.unfinished_eq {lines left : List Bytes} {taken : Bytes} {written : Nat}
    (h : Progress lines taken written left) (hleft : ∀ line ∈ left, line ≠ []) :
    unfinished lines taken = left.length := by
  have hall := completed_add_unfinished lines taken
  rw [h.completed_eq hleft, h.length_eq] at hall
  exact Nat.add_left_cancel hall

end Sink.Pending

namespace Session

open Sink.Pending (unfinished)

variable {σ : Type} {o : Outputs σ} {v : View σ} {s : Session σ} {handle : Handle}
  {accepted dropped : List Bytes}

/-! ### What an answer says of the handle -/

theorem drainInto_ok_iff (o : Outputs σ) (handle : Handle) (s : Session σ) :
    (s.drainInto o handle).1 = .ok () ↔ (s.drainInto o handle).2.sink.pending.lines = [] :=
  Sink.Pending.drain_ok_iff handle s.sink.pending s.sink.counters s.outputs

theorem flush_done_iff (hs : s.sink.slot = .attached handle) :
    (s.flush o).1 = .done ↔
      (s.drainInto o handle).1 = .ok () ∧
        (o.flush handle (s.drainInto o handle).2.outputs).1 = .done := by
  have hw := flush_outcome o s
  generalize s.flush o = r at hw
  cases hw with
  | idle hnone => exact absurd hs (hnone handle)
  | undrained hs' h =>
    obtain rfl := handle_unique hs hs'
    simp [h]
  | done hs' h hf =>
    obtain rfl := handle_unique hs hs'
    simp [h, hf]
  | failed hs' h hf =>
    obtain rfl := handle_unique hs hs'
    simp [h, hf]
  | crashed hs' h hf =>
    obtain rfl := handle_unique hs hs'
    simp [h, hf]

/-- A flush that succeeds leaves no queue, unless there was no handle to flush. -/
theorem flush_queue_of_done (hs : s.sink.slot = .attached handle) (h : (s.flush o).1 = .done) :
    (s.flush o).2.sink.pending.lines = [] := by
  have hw := flush_outcome o s
  generalize s.flush o = r at hw h
  cases hw with
  | idle hnone => exact absurd hs (hnone handle)
  | @done _ t _ _ hd _ =>
    have hempty : t.sink.pending.lines = [] := drainInto_ok hd
    exact hempty
  | undrained _ _ => simp at h
  | failed _ _ _ => simp at h
  | crashed _ _ _ => simp at h

theorem finish_ok_iff (o : Outputs σ) (handle : Handle) (s : Session σ) :
    (s.finish o handle).1 = .ok () ↔
      (s.drainInto o handle).1 = .ok () ∧
        (o.finish handle (s.drainInto o handle).2.outputs).1 = .done := by
  have hw := finish_outcome o handle s
  generalize s.finish o handle = r at hw
  cases hw with
  | undrained h => simp [h]
  | done h hf => simp [h, hf]
  | failed h hf => simp [h, hf]
  | crashed h hf => simp [h, hf]

theorem finish_of_undrained {cause : IoError} (h : (s.drainInto o handle).1 = .error cause) :
    (s.finish o handle).1 = .error (.closeFailed cause) := by
  have hw := finish_outcome o handle s
  generalize s.finish o handle = r at hw
  cases hw with
  | undrained h' =>
    rw [h'] at h
    obtain rfl := Except.error.inj h
    rfl
  | done h' _ => simp [h'] at h
  | failed h' _ => simp [h'] at h
  | crashed h' _ => simp [h'] at h

/-- The last handle leaves what it has not taken, whether it can be finished or not. -/
theorem finish_queue (o : Outputs σ) (handle : Handle) (s : Session σ) :
    (s.finish o handle).2.sink.pending.lines = (s.drainInto o handle).2.sink.pending.lines := by
  have hw := finish_outcome o handle s
  generalize s.finish o handle = r at hw
  cases hw with
  | undrained h =>
    rw [h]
    rfl
  | done h _ => rw [h]
  | failed h _ => rw [h]
  | crashed h _ =>
    rw [h]
    exact (drainInto_ok h).symm

/-! ### Closing -/

theorem close_fst_of_attached (hs : s.sink.slot = .attached handle) :
    (s.close o).1 = ((s.setSlot .closed).finish o handle).1 := by
  rw [close_of_not_closed o (by simp [hs]), windUp]
  simp only [hs]

theorem close_fst_of_detached (hs : s.sink.slot = .detached) : (s.close o).1 = .ok () := by
  rw [close_of_not_closed o (by simp [hs]), windUp]
  simp only [hs]

theorem givenUp_of_attached (hs : s.sink.slot = .attached handle) :
    s.givenUp o = (s.drainInto o handle).2.sink.pending.lines := by
  rw [givenUp, if_neg (by simp [hs]), windUp]
  simp only [hs]
  exact finish_queue o handle (s.setSlot .closed)

theorem givenUp_of_detached (hs : s.sink.slot = .detached) :
    s.givenUp o = s.sink.pending.lines := by
  rw [givenUp, if_neg (by simp [hs]), windUp]
  simp only [hs]
  rfl

/-- The first close counts as dropped what it gives up, and that is every line that is not taken in
full. -/
theorem Inv.close_dropped (hc : WriteContract o v) (hi : Inv v accepted dropped s)
    (hs : s.sink.slot ≠ .closed) :
    (s.close o).2.sink.counters.linesDropped = (s.givenUp o).length ∧
      (s.close o).2.sink.counters.linesDropped
        = unfinished (nonEmpty accepted) (v.ledger (s.close o).2.outputs).bytes := by
  obtain rfl := hi.notClosed hs
  obtain ⟨hi', -⟩ := hi.close hc
  have hdropped := hi'.linesDropped
  have hunfinished := hi'.progress.unfinished_eq hi'.lines_ne_nil
  rw [hi'.closed (close_slot o s), List.nil_append] at hunfinished
  rw [List.nil_append] at hdropped hunfinished
  exact ⟨hdropped, hdropped.trans hunfinished.symm⟩

namespace Tracked

/-- Every accepted line has reached the handles in full, and nothing waits. -/
structure Delivered (v : View σ) (t : Tracked σ) : Prop where
  taken : t.taken v = t.accepted.flatten
  queue : t.queue = []
  linesWritten : t.session.sink.counters.linesWritten = (nonEmpty t.accepted).length
  unfinished : unfinished (nonEmpty t.accepted) (t.taken v) = 0

theorem Inv.delivered {t : Tracked σ} (hi : t.Inv v) (hq : t.queue = []) (hd : t.dropped = []) :
    t.Delivered v := by
  obtain ⟨htaken, hwritten⟩ := hi.written_of_queue_nil hq hd
  have hunfinished := hi.progress.unfinished_eq hi.lines_ne_nil
  rw [show t.session.sink.pending.lines = [] from hq, hd] at hunfinished
  exact ⟨htaken, hq, hwritten, hunfinished⟩

end Tracked

/-- A sink in any state that calls lead to. A flush of an attached sink succeeds exactly if the
handle takes the whole queue and is flushed, and a close exactly if it takes the whole queue and is
finished; then every accepted line has reached the handles in full, and nothing is dropped. A close
whose last drain fails says so, and counts as dropped the lines that have not reached them, of which
there is one at least. A close without a handle takes nothing more and counts what was queued. -/
theorem flush_close_barriers (hc : WriteContract o v) {s : Session σ} (hs : Opened o v s)
    (calls : List Call) :
    let now := ({ session := s } : Tracked σ).run o calls
    let flushed := now.call o .flush
    let closed := now.call o .close
    (∀ handle, now.session.sink.slot = .attached handle →
      let drained := now.session.drainInto o handle
      ((now.session.flush o).1 = .done ↔
          drained.1 = .ok () ∧ (o.flush handle drained.2.outputs).1 = .done) ∧
        ((now.session.flush o).1 = .done → flushed.Delivered v) ∧
        ((now.session.close o).1 = .ok () ↔
          drained.1 = .ok () ∧ (o.finish handle drained.2.outputs).1 = .done) ∧
        (drained.1 = .ok () →
          closed.Delivered v ∧ closed.session.sink.counters.linesDropped = 0) ∧
        ∀ cause, drained.1 = .error cause →
          (now.session.close o).1 = .error (.closeFailed cause) ∧
            0 < closed.session.sink.counters.linesDropped ∧
            closed.session.sink.counters.linesDropped
              = unfinished (nonEmpty now.accepted) (closed.taken v)) ∧
      (now.session.sink.slot = .detached →
        (now.session.close o).1 = .ok () ∧ closed.session.outputs = now.session.outputs ∧
          closed.session.sink.counters.linesDropped = now.queue.length ∧ closed.queue = []) := by
  intro now flushed closed
  obtain ⟨hi, -⟩ := hs.run_inv hc calls
  have hflushed : flushed.Inv v := (Tracked.call_inv hc hi .flush).1
  have hclosed : closed.Inv v := (Tracked.call_inv hc hi .close).1
  have hqueue : closed.queue = [] := hclosed.closed (close_slot o now.session)
  refine ⟨?_, ?_⟩
  · intro handle hslot drained
    have hopen : now.session.sink.slot ≠ .closed := by simp [hslot]
    have hgiven := givenUp_of_attached (o := o) hslot
    obtain ⟨hcount, hunfinished⟩ := Inv.close_dropped hc hi hopen
    refine ⟨flush_done_iff hslot, ?_, ?_, ?_, ?_⟩
    · intro hdone
      exact hflushed.delivered (flush_queue_of_done hslot hdone) (hi.notClosed hopen)
    · rw [close_fst_of_attached hslot]
      exact finish_ok_iff o handle (now.session.setSlot .closed)
    · intro hdrained
      rw [hgiven, (drainInto_ok_iff o handle now.session).1 hdrained] at hcount
      have hnone : closed.dropped = [] :=
        List.length_eq_zero_iff.1 (hclosed.linesDropped.symm.trans hcount)
      exact ⟨hclosed.delivered hqueue hnone, hcount⟩
    · intro cause hfailed
      have hleft : drained.2.sink.pending.lines ≠ [] := by
        intro hempty
        have hok := (drainInto_ok_iff o handle now.session).2 hempty
        exact absurd (hfailed.symm.trans hok) (by simp)
      refine ⟨?_, ?_, hunfinished⟩
      · rw [close_fst_of_attached hslot]
        exact finish_of_undrained (s := now.session.setSlot .closed) hfailed
      · rw [hgiven] at hcount
        exact hcount ▸ List.length_pos_iff.2 hleft
  · intro hslot
    have hopen : now.session.sink.slot ≠ .closed := by simp [hslot]
    obtain ⟨hcount, -⟩ := Inv.close_dropped hc hi hopen
    rw [givenUp_of_detached hslot] at hcount
    exact ⟨close_fst_of_detached hslot,
      close_outputs_of_not_attached o (by simp [hslot]), hcount, hqueue⟩

/-- The first device takes one line in full. Of the next it takes one byte and then runs full, which
a close reports, and a flush too, after which a close has no handle to report. -/
theorem flush_close_barriers_unlucky :
    let closed := splitLine.call World.deviceOutputs .close
    let detached := splitLine.call World.deviceOutputs .flush
    (wholeLine.call World.deviceOutputs .flush).Delivered World.deviceView ∧
      (splitLine.session.close World.deviceOutputs).1 =
        .error (.closeFailed (.failed "device full")) ∧
      closed.session.sink.counters.linesDropped
        = unfinished (nonEmpty splitLine.accepted) (closed.taken World.deviceView) ∧
      detached.queue = [[101, 10]] ∧
      (detached.session.close World.deviceOutputs).1 = .ok () ∧
      (detached.call World.deviceOutputs .close).session.sink.counters.linesDropped
        = detached.queue.length := by
  intro closed detached
  have hwhole : wholeLine.session.sink.slot = .attached 0 := by cbv
  have hflush : (wholeLine.session.flush World.deviceOutputs).1 = .done := by cbv
  have hsplit : splitLine.session.sink.slot = .attached 0 := by cbv
  have hfull : (splitLine.session.drainInto World.deviceOutputs 0).1
      = .error (.failed "device full") := by cbv
  have hdetached : detached.session.sink.slot = .detached := by cbv
  obtain ⟨hdone, -⟩ := flush_close_barriers World.deviceOutputs_contract onUnreliable_opened
    [.write [97, 98, 99, 10]]
  obtain ⟨herror, -⟩ := flush_close_barriers World.deviceOutputs_contract onUnreliable_opened
    [.write [97, 98, 99, 10], .write [100, 101, 10]]
  obtain ⟨-, hidle⟩ := flush_close_barriers World.deviceOutputs_contract onUnreliable_opened
    [.write [97, 98, 99, 10], .write [100, 101, 10], .flush]
  obtain ⟨hclose, -, hdropped⟩ := (herror 0 hsplit).2.2.2.2 _ hfull
  obtain ⟨hok, -, hqueued, -⟩ := hidle hdetached
  exact ⟨(hdone 0 hwhole).2.1 hflush, hclose, hdropped, by cbv, hok, hqueued⟩

end Session

end RequestLog
