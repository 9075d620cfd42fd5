import RequestLog.Proofs.Operations

/-! Two runs of a sink over outputs that answer alike. The sink does not see which of them it writes
to: every operation has the same result in both runs and leaves the same sink. -/

namespace RequestLog

/-- The same answer, with related states after it. -/
def AnswerAlike {α σ : Type} (R : σ → σ → Prop) (r r' : α × σ) : Prop :=
  ∃ answer s t, r = (answer, s) ∧ r' = (answer, t) ∧ R s t

theorem AnswerAlike.intro {α σ : Type} {R : σ → σ → Prop} {answer : α} {s t : σ} (h : R s t) :
    AnswerAlike R (answer, s) (answer, t) :=
  ⟨answer, s, t, rfl, rfl, h⟩

/-- Outputs in related states answer alike to everything that a sink does with them. A drain counts
as one thing: its calls need not agree. -/
structure Outputs.Indistinct {σ : Type} (o : Outputs σ) (R : σ → σ → Prop) : Prop where
  opened {s t : σ} (path : String) (h : R s t) :
    AnswerAlike R (o.openPath path s) (o.openPath path t)
  drained {s t : σ} (handle : Handle) {pending : Sink.Pending} (counters : Sink.Counters)
      (hp : ∀ line ∈ pending.lines, line ≠ []) (h : R s t) :
    let d := pending.drain o handle counters s
    let d' := pending.drain o handle counters t
    d.result = d'.result ∧ d.pending = d'.pending ∧ d.counters = d'.counters ∧
      R d.outputs d'.outputs
  flushed {s t : σ} (handle : Handle) (h : R s t) :
    AnswerAlike R (o.flush handle s) (o.flush handle t)
  finished {s t : σ} (handle : Handle) (h : R s t) :
    AnswerAlike R (o.finish handle s) (o.finish handle t)

theorem Sink.Pending.drain_ne_nil {σ : Type} (o : Outputs σ) (handle : Handle) (pending : Pending)
    (counters : Counters) (s : σ) (hp : ∀ line ∈ pending.lines, line ≠ []) :
    ∀ line ∈ (pending.drain o handle counters s).pending.lines, line ≠ [] := by
  fun_induction drain o handle pending counters s with
  | case1 pending counters s he => exact hp
  | case2 pending counters s he t hw => exact hp
  | case3 pending counters s he n t hw after ih => exact ih (dropBytes_ne_nil hp (n + 1))
  | case4 pending counters s he t hw ih => exact ih hp
  | case5 pending counters s he cause t hw => exact hp

namespace Session

variable {σ α : Type} {o : Outputs σ} {R : σ → σ → Prop} {s t : Session σ}

/-- The same sink with the same events, on related outputs. -/
inductive Agree (R : σ → σ → Prop) : Session σ → Session σ → Prop where
  | intro {sink : Sink} {events : List Event} {outputs outputs' : σ} (h : R outputs outputs')
      (hp : ∀ line ∈ sink.pending.lines, line ≠ []) :
    Agree R { sink, outputs, events } { sink, outputs := outputs', events }

theorem Agree.sink_eq (h : Agree R s t) : s.sink = t.sink := by
  cases h
  rfl

theorem Agree.count (h : Agree R s t) (f : Sink.Counters → Sink.Counters) :
    Agree R (s.count f) (t.count f) := by
  obtain ⟨h, hp⟩ := h
  exact ⟨h, hp⟩

theorem Agree.setSlot (h : Agree R s t) (slot : Sink.Slot) :
    Agree R (s.setSlot slot) (t.setSlot slot) := by
  obtain ⟨h, hp⟩ := h
  exact ⟨h, hp⟩

theorem Agree.elapse (h : Agree R s t) (nanos : Nat) :
    Agree R (s.elapse nanos) (t.elapse nanos) := by
  obtain ⟨h, hp⟩ := h
  exact ⟨h, hp⟩

theorem Agree.accept (h : Agree R s t) {line : Bytes} (hl : line ≠ []) :
    Agree R (s.accept line) (t.accept line) := by
  obtain ⟨h, hp⟩ := h
  refine ⟨h, fun l hmem => ?_⟩
  rcases List.mem_append.1 hmem with hmem | hmem
  · exact hp l hmem
  · exact List.mem_singleton.1 hmem ▸ hl

theorem Agree.collectDrain (h : Agree R s t) : Agree R s.collectDrain t.collectDrain := by
  obtain ⟨h, hp⟩ := h
  unfold Session.collectDrain
  split <;> exact ⟨h, hp⟩

theorem Agree.dropPending (h : Agree R s t) : Agree R s.dropPending t.dropPending := by
  obtain ⟨h, hp⟩ := h
  unfold Session.dropPending
  dsimp only
  split <;> exact ⟨h, fun _ hmem => absurd hmem List.not_mem_nil⟩

theorem Agree.reportClose (h : Agree R s t) (result : Except SinkError Unit) :
    Agree R (s.reportClose result) (t.reportClose result) := by
  obtain ⟨h, hp⟩ := h
  cases result <;> exact ⟨h, hp⟩

/-! ### Parts of operations -/

variable (hi : o.Indistinct R)
include hi

theorem Agree.drainInto (h : Agree R s t) (handle : Handle) :
    AnswerAlike (Agree R) (s.drainInto o handle) (t.drainInto o handle) := by
  obtain ⟨h, hp⟩ := h
  rename_i sink events outputs outputs'
  obtain ⟨hresult, hpending, hcounters, houtputs⟩ := hi.drained handle sink.counters hp h
  simp only [Session.drainInto, hresult, hpending, hcounters]
  exact .intro ⟨houtputs, hpending ▸ Sink.Pending.drain_ne_nil o handle _ _ _ hp⟩

theorem Agree.retire (h : Agree R s t) (handle : Handle) :
    Agree R (s.retire o handle) (t.retire o handle) := by
  obtain ⟨h, hp⟩ := h
  obtain ⟨reply, u, v, hu, hv, h'⟩ := hi.finished handle h
  simp only [Session.retire, hu, hv]
  split <;> exact ⟨h', hp⟩

theorem Agree.detach (h : Agree R s t) (handle : Handle) (message : String) (cause : IoError) :
    Agree R (s.detach o handle message cause) (t.detach o handle message cause) := by
  obtain ⟨h, hp⟩ := h
  unfold Session.detach
  refine Agree.setSlot (Agree.retire hi ?_ handle) .detached
  exact ⟨h, hp⟩

theorem Agree.release (h : Agree R s t) : Agree R (s.release o) (t.release o) := by
  unfold Session.release
  rw [← h.sink_eq]
  split
  · rename_i handle _
    obtain ⟨result, s', t', hs, ht, h'⟩ := h.drainInto hi handle
    rw [hs, ht]
    cases result with
    | ok _ => exact (h'.retire hi handle).setSlot .unattached
    | error cause =>
      refine Agree.setSlot (Agree.retire hi ?_ handle) .unattached
      obtain ⟨h', hp⟩ := h'
      exact ⟨h', hp⟩
  · exact h.setSlot .unattached

theorem Agree.reopen (h : Agree R s t) (path : String) :
    AnswerAlike (Agree R) (s.reopen o path) (t.reopen o path) := by
  obtain ⟨h, hp⟩ := h
  obtain ⟨result, u, v, hu, hv, h'⟩ := hi.opened path h
  simp only [Session.reopen, hu, hv]
  cases result <;> exact .intro ⟨h', hp⟩

theorem Agree.finish (h : Agree R s t) (handle : Handle) :
    AnswerAlike (Agree R) (s.finish o handle) (t.finish o handle) := by
  obtain ⟨result, s', t', hs, ht, h'⟩ := h.drainInto hi handle
  unfold Session.finish
  rw [hs, ht]
  cases result with
  | error cause => exact .intro (h'.count _)
  | ok _ =>
    obtain ⟨h', hp⟩ := h'
    obtain ⟨reply, u, v, hu, hv, hfinished⟩ := hi.finished handle h'
    simp only [hu, hv]
    cases reply with
    | done => exact .intro ⟨hfinished, hp⟩
    | failed cause => exact .intro ⟨hfinished, hp⟩
    | crashed => exact .intro ⟨hfinished, by simp⟩

theorem Agree.windUp (h : Agree R s t) : AnswerAlike (Agree R) (s.windUp o) (t.windUp o) := by
  unfold Session.windUp
  rw [← h.sink_eq]
  split
  · exact (h.setSlot .closed).finish hi _
  · exact .intro (h.setSlot .closed)

/-! ### Operations -/

theorem Agree.write (h : Agree R s t) (line : Bytes) :
    AnswerAlike (Agree R) (s.write o line) (t.write o line) := by
  unfold Session.write Session.mustDrain
  rw [← h.sink_eq]
  split
  · rename_i handle _
    split
    · exact .intro h
    · rename_i hline
      have hline : line ≠ [] := fun hnil => hline (List.isEmpty_iff.2 hnil)
      split
      · obtain ⟨result, s', t', hs, ht, h'⟩ := h.drainInto hi handle
        rw [hs, ht]
        cases result with
        | ok _ => exact .intro (h'.accept hline)
        | error cause => exact .intro (h'.detach hi handle _ cause)
      · exact .intro (h.accept hline)
  · exact .intro h

theorem Agree.flush (h : Agree R s t) : AnswerAlike (Agree R) (s.flush o) (t.flush o) := by
  unfold Session.flush
  rw [← h.sink_eq]
  dsimp only
  split
  · rename_i handle _
    obtain ⟨result, s', t', hs, ht, h'⟩ := h.drainInto hi handle
    rw [hs, ht]
    cases result with
    | error cause => exact .intro (h'.detach hi handle _ cause)
    | ok _ =>
      obtain ⟨h', hp⟩ := h'
      obtain ⟨reply, u, v, hu, hv, hflushed⟩ := hi.flushed handle h'
      simp only [hu, hv]
      cases reply with
      | done => exact .intro ⟨hflushed, hp⟩
      | failed cause => exact .intro (Agree.detach hi ⟨hflushed, hp⟩ handle _ cause)
      | crashed => exact .intro ⟨hflushed, hp⟩
  · exact .intro h

theorem Agree.rotate (h : Agree R s t) : AnswerAlike (Agree R) (s.rotate o) (t.rotate o) := by
  unfold Session.rotate
  rw [← h.sink_eq]
  split
  · exact .intro h
  · split
    · exact .intro h
    · exact (h.release hi).reopen hi _

theorem Agree.close (h : Agree R s t) : AnswerAlike (Agree R) (s.close o) (t.close o) := by
  unfold Session.close
  rw [← h.sink_eq]
  split
  · exact .intro h
  · obtain ⟨result, s', t', hs, ht, h'⟩ := h.windUp hi
    rw [hs, ht]
    exact .intro ((h'.collectDrain.dropPending).reportClose result)

omit hi

theorem start_agree {sink : Sink} (hp : ∀ line ∈ sink.pending.lines, line ≠ []) (handle : Handle)
    {outputs outputs' : σ} (h : R outputs outputs') :
    Agree R (start sink handle outputs) (start sink handle outputs') :=
  ⟨h, hp⟩

end Session

end RequestLog
