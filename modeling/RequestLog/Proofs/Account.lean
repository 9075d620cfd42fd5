import RequestLog.Proofs.Operations

/-! The account of a sink: the bytes that its handles took, its queue and its counters add up to the
lines that it accepted. Each operation keeps the account, so every run does. -/

namespace RequestLog

namespace Session

open Sink.Pending (Progress)

variable {σ : Type} {o : Outputs σ} {v : View σ} {s t : Session σ} {accepted dropped : List Bytes}

/-- Lines that hold a byte. Only those are queued and counted. -/
def nonEmpty (lines : List Bytes) : List Bytes := lines.filter (!·.isEmpty)

theorem flatten_nonEmpty (lines : List Bytes) : (nonEmpty lines).flatten = lines.flatten := by
  induction lines with
  | nil => rfl
  | cons line lines ih => cases line <;> simp_all [nonEmpty]

/-- The account with the lines accepted so far. The lines dropped are those that a close gave up. -/
structure Balanced (v : View σ) (accepted dropped : List Bytes) (s : Session σ) : Prop where
  valid : v.valid s.outputs
  opened : v.ledger s.outputs ≠ []
  progress : Progress (nonEmpty accepted) (v.ledger s.outputs).bytes s.sink.counters.linesWritten
    (s.sink.pending.lines ++ dropped)
  lines_ne_nil : ∀ line ∈ s.sink.pending.lines ++ dropped, line ≠ []
  bytesWritten : s.sink.counters.bytesWritten = (v.ledger s.outputs).bytes.length
  linesDropped : s.sink.counters.linesDropped = dropped.length

/-- The account with what is known of the slot: an attached handle is the last one of the ledger,
and lines are dropped only by a close, which leaves no queue. -/
structure Inv (v : View σ) (accepted dropped : List Bytes) (s : Session σ) : Prop
    extends Balanced v accepted dropped s where
  attached : ∀ handle, s.sink.slot = .attached handle → (v.ledger s.outputs).IsLast handle
  closed : s.sink.slot = .closed → s.sink.pending.lines = []
  notClosed : s.sink.slot ≠ .closed → dropped = []

/-! ### Parts of operations -/

structure Same (v : View σ) (s t : Session σ) : Prop where
  valid : v.valid t.outputs
  ledger : v.ledger t.outputs = v.ledger s.outputs
  lines : t.sink.pending.lines = s.sink.pending.lines
  linesWritten : t.sink.counters.linesWritten = s.sink.counters.linesWritten
  bytesWritten : t.sink.counters.bytesWritten = s.sink.counters.bytesWritten
  linesDropped : t.sink.counters.linesDropped = s.sink.counters.linesDropped

theorem Balanced.same (hb : Balanced v accepted dropped s) (h : Same v s t) :
    Balanced v accepted dropped t where
  valid := h.valid
  opened := by rw [h.ledger]; exact hb.opened
  progress := by rw [h.ledger, h.linesWritten, h.lines]; exact hb.progress
  lines_ne_nil := by rw [h.lines]; exact hb.lines_ne_nil
  bytesWritten := by rw [h.bytesWritten, h.ledger]; exact hb.bytesWritten
  linesDropped := by rw [h.linesDropped]; exact hb.linesDropped

theorem Inv.same (hi : Inv v accepted dropped s) (h : Same v s t)
    (hslot : t.sink.slot = s.sink.slot) : Inv v accepted dropped t where
  toBalanced := hi.toBalanced.same h
  attached := by rw [hslot, h.ledger]; exact hi.attached
  closed := by rw [hslot, h.lines]; exact hi.closed
  notClosed := by rw [hslot]; exact hi.notClosed

theorem Same.refl (hv : v.valid s.outputs) : Same v s s := ⟨hv, rfl, rfl, rfl, rfl, rfl⟩

theorem Same.setSlot (h : Same v s t) (slot : Sink.Slot) : Same v s (t.setSlot slot) := { h with }

theorem Same.log (h : Same v s t) (event : Event) : Same v s (t.log event) := { h with }

theorem Same.retire (h : Same v s t) (hc : WriteContract o v) (handle : Handle) :
    Same v s (t.retire o handle) := by
  unfold Session.retire
  rcases hf : o.finish handle t.outputs with ⟨reply, outputs⟩
  obtain ⟨hv, hl⟩ := hc.finished h.valid hf
  have h' : Same v s { t with outputs, sink := { t.sink with lastDrain := some reply } } :=
    { h with valid := hv, ledger := hl.trans h.ledger }
  cases reply with
  | done => exact h'
  | failed cause => exact { h' with }
  | crashed => exact h'

theorem Same.detach (h : Same v s t) (hc : WriteContract o v) (handle : Handle) (message : String)
    (cause : IoError) : Same v s (t.detach o handle message cause) := by
  unfold Session.detach
  rcases t.sink.limiter.report t.sink.now .error message cause.message with ⟨event, limiter⟩
  have h' : Same v s
      { t.count .addWriteError with
        sink := { (t.count .addWriteError).sink with limiter }
        events := t.events ++ event.toList } := { h with }
  exact (h'.retire hc handle).setSlot .detached

/-- A handle that is let go has been drained into once more, and nothing else of the account
changes. -/
theorem release_same (hc : WriteContract o v) {handle : Handle} {r : Except IoError Unit}
    (hs : s.sink.slot = .attached handle) (hd : s.drainInto o handle = (r, t))
    (hv : v.valid t.outputs) : Same v t (s.release o) := by
  unfold release
  rw [hs]
  cases r with
  | ok _ =>
    simp only [hd]
    exact ((Same.refl hv).retire hc handle).setSlot .unattached
  | error cause =>
    have hcount : Same v t (t.count .addWriteError) := { Same.refl hv with }
    simp only [hd]
    exact ((hcount.log _).retire hc handle).setSlot .unattached

theorem Balanced.inv_of_detached (hb : Balanced v accepted [] s) (hs : s.sink.slot = .detached) :
    Inv v accepted [] s where
  toBalanced := hb
  attached := by simp [hs]
  closed := by simp [hs]
  notClosed := fun _ => rfl

/-- A session that lets go of a handle that failed keeps its account. -/
theorem Balanced.detach (hc : WriteContract o v) (hb : Balanced v accepted [] s) (handle : Handle)
    (message : String) (cause : IoError) :
    Inv v accepted [] (s.detach o handle message cause) ∧
      v.ledger (s.detach o handle message cause).outputs = v.ledger s.outputs := by
  have hsame := (Same.refl hb.valid).detach hc handle message cause
  exact ⟨(hb.same hsame).inv_of_detached rfl, hsame.ledger⟩

/-! ### Draining -/

theorem drainInto_ok {handle : Handle} (h : s.drainInto o handle = (.ok (), t)) :
    t.sink.pending.lines = [] := by
  have hok := Sink.Pending.drain_ok_iff handle s.sink.pending s.sink.counters s.outputs (o := o)
  obtain ⟨hr, rfl⟩ := Prod.mk.inj h
  exact hok.1 hr

/-- A drain into the last handle keeps the account, and only that handle takes anything. -/
theorem Balanced.drainInto (hc : WriteContract o v) (hb : Balanced v accepted [] s)
    {handle : Handle} (hl : (v.ledger s.outputs).IsLast handle) {r : Except IoError Unit}
    (h : s.drainInto o handle = (r, t)) :
    Balanced v accepted [] t ∧ (v.ledger t.outputs).IsLast handle ∧
      (v.ledger t.outputs).Follows (v.ledger s.outputs) ∧ t.sink.slot = s.sink.slot := by
  obtain ⟨hv, n, hn, heq, hledger⟩ :=
    Sink.Pending.drain_eq_consume hc handle s.sink.pending s.sink.counters s.outputs hb.valid
  obtain ⟨hpending, hcounters⟩ := Prod.mk.inj heq
  obtain ⟨-, rfl⟩ := Prod.mk.inj h
  have hprogress := hb.progress
  have hlines := hb.lines_ne_nil
  rw [List.append_nil] at hprogress hlines
  have hfollows : (v.ledger (s.drainInto o handle).2.outputs).Follows (v.ledger s.outputs) := by
    rw [show v.ledger (s.drainInto o handle).2.outputs = _ from hledger]
    exact hl.follows_credit _
  refine ⟨⟨hv, hfollows.ne_nil, ?_, ?_, ?_, ?_⟩, ?_, hfollows, rfl⟩
  · simp only [hledger, hpending, hcounters, List.append_nil, hl.bytes_credit]
    exact hprogress.dropBytes hn
  · simp only [hpending, List.append_nil]
    exact Sink.Pending.dropBytes_ne_nil hlines n
  · simp only [hledger, hcounters, hl.bytes_credit, List.length_append, List.length_take]
    rw [Nat.min_eq_left hn, ← hb.bytesWritten]
    rfl
  · simp only [hcounters]
    exact hb.linesDropped
  · simp only [hledger]
    exact hl.credit _

theorem Inv.drainInto (hc : WriteContract o v) (hi : Inv v accepted dropped s) {handle : Handle}
    {r : Except IoError Unit} (hs : s.sink.slot = .attached handle)
    (h : s.drainInto o handle = (r, t)) :
    dropped = [] ∧ Inv v accepted [] t ∧ (v.ledger t.outputs).Follows (v.ledger s.outputs) ∧
      t.sink.slot = .attached handle := by
  obtain rfl := hi.notClosed (by simp [hs])
  obtain ⟨hb, hlast, hf, hslot⟩ := hi.toBalanced.drainInto hc (hi.attached handle hs) h
  rw [hs] at hslot
  refine ⟨rfl, ⟨hb, ?_, by simp [hslot], fun _ => rfl⟩, hf, hslot⟩
  intro handle' hs'
  obtain rfl : handle = handle' := by simpa [hslot] using hs'
  exact hlast

/-! ### Writing -/

theorem nonEmpty_append_nil (lines : List Bytes) : nonEmpty (lines ++ [[]]) = nonEmpty lines := by
  simp [nonEmpty]

theorem nonEmpty_append {line : Bytes} (h : line ≠ []) (lines : List Bytes) :
    nonEmpty (lines ++ [line]) = nonEmpty lines ++ [line] := by
  simp [nonEmpty, h]

theorem Balanced.accept (hb : Balanced v accepted [] s) {line : Bytes} (hl : line ≠ []) :
    Balanced v (accepted ++ [line]) [] (s.accept line) := by
  obtain ⟨hv, ho, hprogress, hlines, hbytes, hdropped⟩ := hb
  rw [List.append_nil] at hprogress hlines
  refine ⟨hv, ho, ?_, ?_, hbytes, hdropped⟩
  · rw [nonEmpty_append hl, List.append_nil]
    exact hprogress.push line
  · rw [List.append_nil]
    intro l hmem
    rcases List.mem_append.1 hmem with hmem | hmem
    · exact hlines l hmem
    · rw [List.mem_singleton.1 hmem]
      exact hl

/-- A line that is accepted joins the account. -/
theorem Inv.write_ok (hc : WriteContract o v) (hi : Inv v accepted dropped s) {line : Bytes}
    (h : s.write o line = (.ok (), t)) :
    Inv v (accepted ++ [line]) dropped t ∧ (v.ledger t.outputs).Follows (v.ledger s.outputs) := by
  have hw := write_outcome o line s
  rw [h] at hw
  cases hw with
  | empty hs hl =>
    subst hl
    exact ⟨{ hi with progress := by rw [nonEmpty_append_nil]; exact hi.progress },
      Ledger.follows_refl hi.opened⟩
  | queued hs hl _ =>
    obtain rfl := hi.notClosed (by simp [hs])
    exact ⟨⟨hi.toBalanced.accept hl, hi.attached, by simp [accept, hs], fun _ => rfl⟩,
      Ledger.follows_refl hi.opened⟩
  | drained hs hl _ hdrain =>
    obtain ⟨rfl, hi', hf, hslot⟩ := hi.drainInto hc hs hdrain
    exact ⟨⟨hi'.toBalanced.accept hl, hi'.attached, by simp [accept, hslot], fun _ => rfl⟩, hf⟩

/-- A line that is rejected comes back, and leaves the account as it was. -/
theorem Inv.write_error (hc : WriteContract o v) (hi : Inv v accepted dropped s) {line : Bytes}
    {rejected : Rejected} (h : s.write o line = (.error rejected, t)) :
    rejected.line = line ∧ Inv v accepted dropped t ∧
      (v.ledger t.outputs).Follows (v.ledger s.outputs) := by
  have hw := write_outcome o line s
  rw [h] at hw
  cases hw with
  | unavailable _ => exact ⟨rfl, hi, Ledger.follows_refl hi.opened⟩
  | @failed handle cause t hs _ _ hdrain =>
    obtain ⟨rfl, hi', hf, -⟩ := hi.drainInto hc hs hdrain
    obtain ⟨hi', hl⟩ :=
      hi'.toBalanced.detach hc handle "access log write failed, detaching output" cause
    exact ⟨rfl, hi', hl ▸ hf⟩

/-! ### Flushing and rotating -/

theorem Inv.flush (hc : WriteContract o v) (hi : Inv v accepted dropped s) :
    Inv v accepted dropped (s.flush o).2 ∧
      (v.ledger (s.flush o).2.outputs).Follows (v.ledger s.outputs) := by
  have hw := flush_outcome o s
  generalize s.flush o = r at hw ⊢
  cases hw with
  | idle _ => exact ⟨hi, Ledger.follows_refl hi.opened⟩
  | @undrained handle cause t hs hdrain =>
    obtain ⟨rfl, hi', hf, -⟩ := hi.drainInto hc hs hdrain
    obtain ⟨hi', hl⟩ :=
      hi'.toBalanced.detach hc handle "access log flush failed, detaching output" cause
    exact ⟨hi', hl ▸ hf⟩
  | @done handle t outputs hs hdrain hflush =>
    obtain ⟨rfl, hi', hf, -⟩ := hi.drainInto hc hs hdrain
    obtain ⟨hv, hl⟩ := hc.flushed hi'.valid hflush
    have hsame : Same v t ({ t with outputs }.count .addFlush) := ⟨hv, hl, rfl, rfl, rfl, rfl⟩
    exact ⟨hi'.same hsame rfl, hl ▸ hf⟩
  | @failed handle cause t outputs hs hdrain hflush =>
    obtain ⟨rfl, hi', hf, -⟩ := hi.drainInto hc hs hdrain
    obtain ⟨hv, hl⟩ := hc.flushed hi'.valid hflush
    have hsame : Same v t { t with outputs } := ⟨hv, hl, rfl, rfl, rfl, rfl⟩
    obtain ⟨hi'', hl'⟩ := (hi'.toBalanced.same hsame).detach hc handle
      "access log flush failed, detaching output" cause
    exact ⟨hi'', (hl'.trans hl) ▸ hf⟩
  | @crashed handle t outputs hs hdrain hflush =>
    obtain ⟨rfl, hi', hf, -⟩ := hi.drainInto hc hs hdrain
    obtain ⟨hv, hl⟩ := hc.flushed hi'.valid hflush
    have hsame : Same v t { t with outputs } := ⟨hv, hl, rfl, rfl, rfl, rfl⟩
    exact ⟨hi'.same hsame rfl, hl ▸ hf⟩

/-- Letting go of a handle keeps the account, whether it took the queue or not. -/
theorem Inv.release (hc : WriteContract o v) (hi : Inv v accepted dropped s)
    (hs : s.sink.slot ≠ .closed) :
    dropped = [] ∧ Balanced v accepted [] (s.release o) ∧
      (v.ledger (s.release o).outputs).Follows (v.ledger s.outputs) := by
  obtain rfl := hi.notClosed hs
  refine ⟨rfl, ?_⟩
  by_cases hattached : ∃ handle, s.sink.slot = .attached handle
  · obtain ⟨handle, hslot⟩ := hattached
    rcases hdrain : s.drainInto o handle with ⟨r, t⟩
    obtain ⟨-, hi', hf, -⟩ := hi.drainInto hc hslot hdrain
    have hsame := release_same hc hslot hdrain hi'.valid
    exact ⟨hi'.toBalanced.same hsame, hsame.ledger ▸ hf⟩
  · rw [release_of_not_attached o fun handle hslot => hattached ⟨handle, hslot⟩]
    exact ⟨hi.toBalanced.same ((Same.refl hi.valid).setSlot .unattached),
      Ledger.follows_refl hi.opened⟩

/-- A fresh handle goes to the end of the ledger, with nothing taken yet. -/
theorem Balanced.attach (hb : Balanced v accepted [] s) {handle : Handle}
    (hfresh : handle ∉ (v.ledger s.outputs).handles)
    (hl : v.ledger t.outputs = v.ledger s.outputs ++ [(handle, [])]) (hv : v.valid t.outputs)
    (hslot : t.sink.slot = .attached handle) (hlines : t.sink.pending.lines = s.sink.pending.lines)
    (hwritten : t.sink.counters.linesWritten = s.sink.counters.linesWritten)
    (hbytes : t.sink.counters.bytesWritten = s.sink.counters.bytesWritten)
    (hdropped : t.sink.counters.linesDropped = s.sink.counters.linesDropped) :
    Inv v accepted [] t where
  valid := hv
  opened := by simp [hl]
  progress := by
    rw [hl, Ledger.bytes_append, Ledger.bytes_singleton, List.append_nil, hwritten, hlines]
    exact hb.progress
  lines_ne_nil := by rw [hlines]; exact hb.lines_ne_nil
  bytesWritten := by
    rw [hl, Ledger.bytes_append, Ledger.bytes_singleton, List.append_nil, hbytes]
    exact hb.bytesWritten
  linesDropped := hdropped.trans hb.linesDropped
  attached := by
    intro handle' hs
    obtain rfl : handle = handle' := by simpa [hslot] using hs
    rw [hl]
    exact Ledger.isLast_open hfresh
  closed := by simp [hslot]
  notClosed := fun _ => rfl

theorem Balanced.reopen (hc : WriteContract o v) (hb : Balanced v accepted [] s) (path : String) :
    Inv v accepted [] (s.reopen o path).2 ∧
      (v.ledger (s.reopen o path).2.outputs).Follows (v.ledger s.outputs) := by
  unfold Session.reopen
  rcases h : o.openPath path s.outputs with ⟨cause | handle, outputs⟩
  · obtain ⟨hv, hl⟩ := hc.notOpened hb.valid h
    have hsame : Same v s (({ s with outputs }.setSlot .detached).count .addFailedRotation) :=
      ⟨hv, hl, rfl, rfl, rfl, rfl⟩
    refine ⟨(hb.same (hsame.log _)).inv_of_detached rfl, ?_⟩
    rw [(hsame.log _).ledger]
    exact Ledger.follows_refl hb.opened
  · obtain ⟨hv, hfresh, hl⟩ := hc.opened hb.valid h
    refine ⟨hb.attach hfresh hl hv rfl rfl rfl rfl rfl, ?_⟩
    have hf := Ledger.follows_append hb.opened [(handle, [])]
    rwa [← hl] at hf

theorem Inv.rotate (hc : WriteContract o v) (hi : Inv v accepted dropped s) :
    Inv v accepted dropped (s.rotate o).2 ∧
      (v.ledger (s.rotate o).2.outputs).Follows (v.ledger s.outputs) := by
  have hw := rotate_outcome o s
  generalize s.rotate o = r at hw ⊢
  cases hw with
  | closed _ => exact ⟨hi, Ledger.follows_refl hi.opened⟩
  | stream _ _ => exact ⟨hi, Ledger.follows_refl hi.opened⟩
  | reopened hs _ =>
    obtain ⟨rfl, hb, hf⟩ := hi.release hc hs
    obtain ⟨hi', hf'⟩ := hb.reopen hc _
    exact ⟨hi', hf'.trans hf⟩

/-! ### Closing -/

/-- A handle that is finished has been drained into once more, and nothing else of the account
changes.
-/
theorem finish_same (hc : WriteContract o v) {handle : Handle} {r : Except IoError Unit}
    (hd : s.drainInto o handle = (r, t)) (hv : v.valid t.outputs) :
    Same v t (s.finish o handle).2 := by
  have hw := finish_outcome o handle s
  generalize s.finish o handle = result at hw ⊢
  cases hw with
  | undrained h =>
    obtain ⟨-, rfl⟩ := Prod.mk.inj (hd.symm.trans h)
    exact { Same.refl hv with }
  | done h hf =>
    obtain ⟨-, rfl⟩ := Prod.mk.inj (hd.symm.trans h)
    obtain ⟨hv', hledger⟩ := hc.finished hv hf
    exact { Same.refl hv with valid := hv', ledger := hledger }
  | failed h hf =>
    obtain ⟨-, rfl⟩ := Prod.mk.inj (hd.symm.trans h)
    obtain ⟨hv', hledger⟩ := hc.finished hv hf
    exact { Same.refl hv with valid := hv', ledger := hledger }
  | crashed h hf =>
    obtain ⟨-, rfl⟩ := Prod.mk.inj (hd.symm.trans h)
    obtain ⟨hv', hledger⟩ := hc.finished hv hf
    -- the queue that the crash loses is empty by then
    exact { Same.refl hv with
      valid := hv', ledger := hledger, lines := (drainInto_ok h).symm }

theorem Balanced.finish (hc : WriteContract o v) (hb : Balanced v accepted [] s) {handle : Handle}
    (hl : (v.ledger s.outputs).IsLast handle) :
    Balanced v accepted [] (s.finish o handle).2 ∧
      (v.ledger (s.finish o handle).2.outputs).Follows (v.ledger s.outputs) := by
  rcases hd : s.drainInto o handle with ⟨r, t⟩
  obtain ⟨hb', -, hf, -⟩ := hb.drainInto hc hl hd
  have hsame := finish_same hc hd hb'.valid
  exact ⟨hb'.same hsame, hsame.ledger ▸ hf⟩

theorem Inv.windUp (hc : WriteContract o v) (hi : Inv v accepted dropped s)
    (hs : s.sink.slot ≠ .closed) :
    dropped = [] ∧ Balanced v accepted [] (s.windUp o).2 ∧
      (v.ledger (s.windUp o).2.outputs).Follows (v.ledger s.outputs) := by
  obtain rfl := hi.notClosed hs
  have hb := hi.toBalanced.same ((Same.refl hi.valid).setSlot .closed)
  refine ⟨rfl, ?_⟩
  unfold Session.windUp
  split
  · rename_i handle hslot
    exact hb.finish hc (hi.attached handle hslot)
  · exact ⟨hb, Ledger.follows_refl hi.opened⟩

theorem Same.collectDrain (h : Same v s t) : Same v s t.collectDrain := by
  unfold Session.collectDrain
  have h' : Same v s { t with sink := { t.sink with lastDrain := none } } := { h with }
  split
  · exact h'.log _
  · exact h'

/-- The lines that are still queued are counted as dropped. -/
theorem Balanced.dropPending (hb : Balanced v accepted [] s) (hs : s.sink.slot = .closed) :
    Inv v accepted s.sink.pending.lines s.dropPending := by
  obtain ⟨hv, ho, hprogress, hlines, hbytes, hdropped⟩ := hb
  rw [List.append_nil] at hprogress hlines
  by_cases hempty : s.sink.pending.isEmpty
  · rw [dropPending_of_empty hempty]
    have hempty := List.isEmpty_iff.1 hempty
    rw [hempty] at hprogress hlines ⊢
    exact ⟨⟨hv, ho, hprogress, hlines, hbytes, hdropped⟩, by simp [hs], fun _ => rfl, fun _ => rfl⟩
  · rw [show s.dropPending = _ from if_neg hempty]
    refine ⟨⟨hv, ho, hprogress, hlines, hbytes, ?_⟩, by simp [Session.log, Session.count, hs],
      fun _ => rfl, fun h => absurd hs h⟩
    change s.sink.counters.linesDropped + s.sink.pending.lines.length = _
    rw [hdropped, List.length_nil, Nat.zero_add]

theorem Inv.reportClose (hi : Inv v accepted dropped s) (result : Except SinkError Unit) :
    Inv v accepted dropped (s.reportClose result) := by
  cases result with
  | ok _ => exact hi
  | error _ => exact hi.same ((Same.refl hi.valid).log _) rfl

theorem Inv.close (hc : WriteContract o v) (hi : Inv v accepted dropped s) :
    Inv v accepted (dropped ++ s.givenUp o) (s.close o).2 ∧
      (v.ledger (s.close o).2.outputs).Follows (v.ledger s.outputs) := by
  by_cases hs : s.sink.slot = .closed
  · rw [close_of_closed o hs, givenUp, if_pos hs, List.append_nil]
    exact ⟨hi, Ledger.follows_refl hi.opened⟩
  · obtain ⟨rfl, hb, hf⟩ := hi.windUp hc hs
    have hb' := hb.same (Same.refl hb.valid).collectDrain
    have hi' := (hb'.dropPending (by simp [windUp_slot])).reportClose (s.windUp o).1
    rw [collectDrain_pending] at hi'
    rw [close_of_not_closed o hs, givenUp, if_neg hs, List.nil_append]
    exact ⟨hi', by simpa using hf⟩

end Session

end RequestLog
