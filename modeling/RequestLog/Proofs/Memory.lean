import RequestLog.Proofs.StateMachine

/-! The memory of a sink. The queue knows how many bytes it holds, and holds no more than its limit
allows, unless one line alone is longer. Of the outputs it is only assumed that they do not report
more bytes than they were offered. -/

namespace RequestLog

namespace Sink.Pending

variable {limit : Nat} {accepted : List Bytes} {pending : Pending} {line : Bytes}

/-- A queue of parts of accepted lines, with a limit on its bytes. -/
structure Stores (limit : Nat) (accepted : List Bytes) (pending : Pending) : Prop where
  bytes : pending.bytes = (pending.lines.map List.length).sum
  lines_ne_nil : ∀ line ∈ pending.lines, line ≠ []
  bound : pending.bytes ≤ limit ∨ pending.lines.length = 1
  /-- What a handle has taken of a line, it has taken from its beginning. -/
  parts : ∀ part ∈ pending.lines, ∃ line ∈ accepted, part <:+ line

theorem stores_empty (limit : Nat) (accepted : List Bytes) : Stores limit accepted {} where
  bytes := rfl
  lines_ne_nil := by simp
  bound := .inl (Nat.zero_le _)
  parts := by simp

theorem Stores.push (h : Stores limit accepted pending) (hl : line ≠ [])
    (hfits : pending.bytes + line.length ≤ limit ∨ pending.lines = []) :
    Stores limit (accepted ++ [line]) (pending.push line) where
  bytes := by simp [Pending.push, h.bytes]
  lines_ne_nil := by
    intro l hmem
    rcases List.mem_append.1 hmem with hmem | hmem
    · exact h.lines_ne_nil l hmem
    · rwa [List.mem_singleton.1 hmem]
  bound := by
    rcases hfits with hfits | hempty
    · exact .inl hfits
    · exact .inr (by simp [Pending.push, hempty])
  parts := by
    intro part hmem
    rcases List.mem_append.1 hmem with hmem | hmem
    · obtain ⟨whole, hwhole, hsuffix⟩ := h.parts part hmem
      exact ⟨whole, List.mem_append_left _ hwhole, hsuffix⟩
    · rw [List.mem_singleton.1 hmem]
      exact ⟨line, List.mem_append_right _ (List.mem_singleton_self line), List.suffix_refl line⟩

theorem length_dropBytes_le (n : Nat) (lines : List Bytes) :
    (dropBytes n lines).1.length ≤ lines.length := by
  induction lines generalizing n with
  | nil => simp [dropBytes]
  | cons line lines ih =>
    cases n with
    | zero => simp
    | succ n =>
      rcases Nat.lt_or_ge (n + 1) line.length with hn | hn
      · simp [dropBytes_of_lt hn]
      · rw [dropBytes_of_le hn]
        exact (ih _).trans (Nat.le_succ _)

theorem suffix_of_mem_dropBytes {n : Nat} {lines : List Bytes} {part : Bytes}
    (h : part ∈ (dropBytes n lines).1) : ∃ whole ∈ lines, part <:+ whole := by
  induction lines generalizing n with
  | nil => simp [dropBytes] at h
  | cons line lines ih =>
    cases n with
    | zero => exact ⟨part, by simpa using h, List.suffix_refl part⟩
    | succ n =>
      rcases Nat.lt_or_ge (n + 1) line.length with hn | hn
      · rw [dropBytes_of_lt hn] at h
        rcases List.mem_cons.1 h with rfl | h
        · exact ⟨line, List.mem_cons_self, List.drop_suffix _ _⟩
        · exact ⟨part, List.mem_cons_of_mem _ h, List.suffix_refl part⟩
      · rw [dropBytes_of_le hn] at h
        obtain ⟨whole, hwhole, hsuffix⟩ := ih h
        exact ⟨whole, List.mem_cons_of_mem _ hwhole, hsuffix⟩

theorem Stores.consume (h : Stores limit accepted pending) (n : Nat) (counters : Counters) :
    Stores limit accepted (pending.consume n counters).1 := by
  have hflat := congrArg List.length (flatten_dropBytes n pending.lines)
  rw [List.length_drop, List.length_flatten, List.length_flatten, ← h.bytes] at hflat
  have hbytes : (pending.consume n counters).1.bytes = pending.bytes - n := rfl
  have hlines : (pending.consume n counters).1.lines = (dropBytes n pending.lines).1 := rfl
  refine ⟨hflat.symm, ?_, ?_, ?_⟩
  · rw [hlines]
    exact dropBytes_ne_nil h.lines_ne_nil n
  · rw [hbytes, hlines]
    rcases h.bound with hfits | hone
    · exact .inl ((Nat.sub_le _ _).trans hfits)
    · -- what is left of one line is one line, or else nothing
      have hle := length_dropBytes_le n pending.lines
      rw [hone] at hle
      rcases Nat.le_one_iff_eq_zero_or_eq_one.1 hle with hnone | hone
      · rw [List.length_eq_zero_iff.1 hnone] at hflat
        exact .inl (hflat ▸ Nat.zero_le _)
      · exact .inr hone
  · intro part hmem
    obtain ⟨whole, hwhole, hsuffix⟩ := suffix_of_mem_dropBytes hmem
    obtain ⟨line, hline, hsuffix'⟩ := h.parts whole hwhole
    exact ⟨line, hline, hsuffix.trans hsuffix'⟩

end Sink.Pending

/-- On the states that occur, no call reports more bytes than it was offered. -/
structure Modest {σ : Type} (o : Outputs σ) (valid : σ → Prop) : Prop where
  opened : ∀ {path s reply t}, valid s → o.openPath path s = (reply, t) → valid t
  written : ∀ {handle slices s reply t}, valid s → o.write handle slices s = (reply, t) → valid t
  took_le : ∀ {handle slices s n t}, valid s → o.write handle slices s = (.took n, t) →
    n ≤ slices.flatten.length
  flushed : ∀ {handle s reply t}, valid s → o.flush handle s = (reply, t) → valid t
  finished : ∀ {handle s reply t}, valid s → o.finish handle s = (reply, t) → valid t

theorem WriteContract.modest {σ : Type} {o : Outputs σ} {v : View σ} (hc : WriteContract o v) :
    Modest o v.valid where
  opened := by
    intro path s reply t hv ho
    rcases reply with cause | handle
    · exact (hc.notOpened hv ho).1
    · exact (hc.opened hv ho).1
  written := by
    intro handle slices s reply t hv hw
    by_cases htook : ∃ n, reply = .took n
    · obtain ⟨n, rfl⟩ := htook
      exact (hc.took hv hw).1
    · exact (hc.tookNone hv hw (not_exists.1 htook)).1
  took_le := fun hv hw => (hc.took hv hw).2.1
  flushed := fun hv hf => (hc.flushed hv hf).1
  finished := fun hv hf => (hc.finished hv hf).1

namespace Sink.Pending

/-- A drain that comes to nothing if an output reports more bytes than the queue counts. -/
def drainChecked? {σ : Type} (o : Outputs σ) (handle : Handle) (pending : Pending)
    (counters : Counters) (s : σ) : Option (Drained σ) :=
  if _he : pending.lines = [] then some ⟨.ok (), pending, counters, s⟩
  else
    match _hw : o.write handle (pending.lines.take batch) s with
    | (.took 0, t) => some ⟨.error .writeZero, pending, counters, t⟩
    | (.took (n + 1), t) =>
      if n + 1 ≤ pending.bytes then
        let after := pending.consume (n + 1) counters
        drainChecked? o handle after.1 after.2 t
      else none
    | (.interrupted, t) => drainChecked? o handle pending counters t
    | (.failed cause, t) => some ⟨.error cause, pending, counters, t⟩
termination_by (weight pending.lines, o.patience handle s)
decreasing_by
  · apply Prod.Lex.left
    exact weight_dropBytes_lt n _he
  · apply Prod.Lex.right
    have := o.patience_interrupted handle (pending.lines.take batch) s
    rw [_hw] at this
    exact this rfl

/-- A drain keeps what the queue stores, and never takes off more than the queue counts. -/
theorem Stores.drain {σ : Type} {o : Outputs σ} {valid : σ → Prop} (hm : Modest o valid)
    {limit : Nat} {accepted : List Bytes} {pending : Pending} (h : Stores limit accepted pending)
    (handle : Handle) (counters : Counters) {s : σ} (hv : valid s) :
    valid (pending.drain o handle counters s).outputs ∧
      Stores limit accepted (pending.drain o handle counters s).pending ∧
      pending.drainChecked? o handle counters s = some (pending.drain o handle counters s) := by
  fun_induction Pending.drain o handle pending counters s with
  | case1 pending counters s he =>
    refine ⟨hv, h, ?_⟩
    rw [drainChecked?, dif_pos he]
  | case2 pending counters s he t hw =>
    refine ⟨hm.written hv hw, h, ?_⟩
    rw [drainChecked?, dif_neg he]
    split <;> simp_all
  | case3 pending counters s he n t hw after ih =>
    obtain ⟨hn, -⟩ := take_batch (hm.took_le hv hw)
    rw [List.length_flatten, ← h.bytes] at hn
    obtain ⟨hv', hstores, hchecked⟩ := ih (h.consume (n + 1) counters) (hm.written hv hw)
    refine ⟨hv', hstores, ?_⟩
    rw [drainChecked?, dif_neg he, ← hchecked]
    split <;> simp_all [after]
  | case4 pending counters s he t hw ih =>
    obtain ⟨hv', hstores, hchecked⟩ := ih h (hm.written hv hw)
    refine ⟨hv', hstores, ?_⟩
    rw [drainChecked?, dif_neg he, ← hchecked]
    split <;> simp_all
  | case5 pending counters s he cause t hw =>
    refine ⟨hm.written hv hw, h, ?_⟩
    rw [drainChecked?, dif_neg he]
    split <;> simp_all

end Sink.Pending

namespace Session

variable {σ : Type} {o : Outputs σ} {valid : σ → Prop} {s t : Session σ} {limit : Nat}
  {accepted : List Bytes} {line : Bytes}

/-- A session whose queue keeps its limit. -/
structure Bounded (valid : σ → Prop) (limit : Nat) (accepted : List Bytes) (s : Session σ) :
    Prop where
  valid : valid s.outputs
  bufferSize : s.sink.bufferSize = limit
  stores : s.sink.pending.Stores limit accepted

/-! ### Parts of operations -/

theorem Bounded.same (h : Bounded valid limit accepted s) (hv : valid t.outputs)
    (hsize : t.sink.bufferSize = s.sink.bufferSize) (hpending : t.sink.pending = s.sink.pending) :
    Bounded valid limit accepted t :=
  ⟨hv, hsize.trans h.bufferSize, hpending ▸ h.stores⟩

theorem Bounded.setSlot (h : Bounded valid limit accepted s) (slot : Sink.Slot) :
    Bounded valid limit accepted (s.setSlot slot) :=
  h.same h.valid rfl rfl

theorem Bounded.retire (hm : Modest o valid) (h : Bounded valid limit accepted s)
    (handle : Handle) : Bounded valid limit accepted (s.retire o handle) := by
  unfold Session.retire
  rcases hf : o.finish handle s.outputs with ⟨reply, outputs⟩
  have hv := hm.finished h.valid hf
  cases reply with
  | done => exact h.same hv rfl rfl
  | failed cause => exact h.same hv rfl rfl
  | crashed => exact h.same hv rfl rfl

theorem Bounded.detach (hm : Modest o valid) (h : Bounded valid limit accepted s)
    (handle : Handle) (message : String) (cause : IoError) :
    Bounded valid limit accepted (s.detach o handle message cause) := by
  unfold Session.detach
  rcases s.sink.limiter.report s.sink.now .error message cause.message with ⟨event, limiter⟩
  have hcounted : Bounded valid limit accepted
      { s.count .addWriteError with
        sink := { (s.count .addWriteError).sink with limiter }
        events := s.events ++ event.toList } := h.same h.valid rfl rfl
  exact (hcounted.retire hm handle).setSlot .detached

theorem Bounded.drainInto (hm : Modest o valid) (h : Bounded valid limit accepted s)
    {handle : Handle} {r : Except IoError Unit} (hd : s.drainInto o handle = (r, t)) :
    Bounded valid limit accepted t := by
  obtain ⟨hv, hstores, -⟩ := h.stores.drain hm handle s.sink.counters h.valid
  obtain ⟨-, rfl⟩ := Prod.mk.inj hd
  exact ⟨hv, h.bufferSize, hstores⟩

theorem Bounded.more (h : Bounded valid limit accepted s) (line : Bytes) :
    Bounded valid limit (accepted ++ [line]) s := by
  refine ⟨h.valid, h.bufferSize, { h.stores with parts := ?_ }⟩
  intro part hmem
  obtain ⟨whole, hwhole, hsuffix⟩ := h.stores.parts part hmem
  exact ⟨whole, List.mem_append_left _ hwhole, hsuffix⟩

/-! ### Operations -/

/-- There is room for the line, or the queue is empty. -/
theorem fits_of_not_mustDrain (h : Bounded valid limit accepted s)
    (hd : s.mustDrain line = false) :
    s.sink.pending.bytes + line.length ≤ limit ∨ s.sink.pending.lines = [] := by
  rw [mustDrain, h.bufferSize, Bool.and_eq_false_iff] at hd
  rcases hd with hfits | hempty
  · exact .inl (Nat.not_lt.1 (of_decide_eq_false hfits))
  · exact .inr (by simpa [Sink.Pending.isEmpty] using hempty)

theorem Bounded.accept (h : Bounded valid limit accepted s) (hl : line ≠ [])
    (hfits : s.sink.pending.bytes + line.length ≤ limit ∨ s.sink.pending.lines = []) :
    Bounded valid limit (accepted ++ [line]) (s.accept line) :=
  ⟨h.valid, h.bufferSize, h.stores.push hl hfits⟩

theorem Bounded.write_ok (hm : Modest o valid) (h : Bounded valid limit accepted s)
    (hw : s.write o line = (.ok (), t)) : Bounded valid limit (accepted ++ [line]) t := by
  have hout := write_outcome o line s
  rw [hw] at hout
  cases hout with
  | empty _ _ => exact h.more line
  | queued _ hl hd => exact h.accept hl (fits_of_not_mustDrain h hd)
  | drained _ hl _ hdrain => exact (h.drainInto hm hdrain).accept hl (.inr (drainInto_ok hdrain))

theorem Bounded.write_error (hm : Modest o valid) (h : Bounded valid limit accepted s)
    {rejected : Rejected} (hw : s.write o line = (.error rejected, t)) :
    Bounded valid limit accepted t := by
  have hout := write_outcome o line s
  rw [hw] at hout
  cases hout with
  | unavailable _ => exact h
  | failed _ _ _ hdrain => exact (h.drainInto hm hdrain).detach hm _ _ _

theorem Bounded.flush (hm : Modest o valid) (h : Bounded valid limit accepted s) :
    Bounded valid limit accepted (s.flush o).2 := by
  have hw := flush_outcome o s
  generalize s.flush o = r at hw ⊢
  cases hw with
  | idle _ => exact h
  | undrained _ hd => exact (h.drainInto hm hd).detach hm _ _ _
  | done _ hd hf =>
    have hdrained := h.drainInto hm hd
    exact hdrained.same (hm.flushed hdrained.valid hf) rfl rfl
  | @failed _ _ t outputs _ hd hf =>
    have hdrained := h.drainInto hm hd
    have hflushed : Bounded valid limit accepted { t with outputs } :=
      hdrained.same (hm.flushed hdrained.valid hf) rfl rfl
    exact hflushed.detach hm _ _ _
  | crashed _ hd hf =>
    have hdrained := h.drainInto hm hd
    exact hdrained.same (hm.flushed hdrained.valid hf) rfl rfl

theorem Bounded.release (hm : Modest o valid) (h : Bounded valid limit accepted s) :
    Bounded valid limit accepted (s.release o) := by
  unfold Session.release
  split
  · rename_i handle hs
    rcases hd : s.drainInto o handle with ⟨cause | _, t⟩
    · have hdrained := h.drainInto hm hd
      have hlogged (event : Event) :
          Bounded valid limit accepted ((t.count .addWriteError).log event) :=
        hdrained.same hdrained.valid rfl rfl
      exact ((hlogged _).retire hm handle).setSlot .unattached
    · exact ((h.drainInto hm hd).retire hm handle).setSlot .unattached
  · exact h.setSlot .unattached

theorem Bounded.reopen (hm : Modest o valid) (h : Bounded valid limit accepted s) (path : String) :
    Bounded valid limit accepted (s.reopen o path).2 := by
  unfold Session.reopen
  rcases ho : o.openPath path s.outputs with ⟨cause | handle, outputs⟩
  · exact h.same (hm.opened h.valid ho) rfl rfl
  · exact h.same (hm.opened h.valid ho) rfl rfl

theorem Bounded.rotate (hm : Modest o valid) (h : Bounded valid limit accepted s) :
    Bounded valid limit accepted (s.rotate o).2 := by
  have hw := rotate_outcome o s
  generalize s.rotate o = r at hw ⊢
  cases hw with
  | closed _ => exact h
  | stream _ _ => exact h
  | reopened _ _ => exact (h.release hm).reopen hm _

theorem Bounded.finish (hm : Modest o valid) (h : Bounded valid limit accepted s)
    (handle : Handle) : Bounded valid limit accepted (s.finish o handle).2 := by
  have hw := finish_outcome o handle s
  generalize s.finish o handle = r at hw ⊢
  cases hw with
  | undrained hd =>
    have hdrained := h.drainInto hm hd
    exact hdrained.same hdrained.valid rfl rfl
  | done hd hf =>
    have hdrained := h.drainInto hm hd
    exact hdrained.same (hm.finished hdrained.valid hf) rfl rfl
  | failed hd hf =>
    have hdrained := h.drainInto hm hd
    exact hdrained.same (hm.finished hdrained.valid hf) rfl rfl
  | crashed hd hf =>
    have hdrained := h.drainInto hm hd
    exact ⟨hm.finished hdrained.valid hf, hdrained.bufferSize, Sink.Pending.stores_empty _ _⟩

theorem Bounded.windUp (hm : Modest o valid) (h : Bounded valid limit accepted s) :
    Bounded valid limit accepted (s.windUp o).2 := by
  unfold Session.windUp
  split
  · exact (h.setSlot .closed).finish hm _
  · exact h.setSlot .closed

theorem Bounded.dropPending (h : Bounded valid limit accepted s) :
    Bounded valid limit accepted s.dropPending := by
  unfold Session.dropPending
  dsimp only
  split <;> exact ⟨h.valid, h.bufferSize, Sink.Pending.stores_empty _ _⟩

theorem Bounded.close (hm : Modest o valid) (h : Bounded valid limit accepted s) :
    Bounded valid limit accepted (s.close o).2 := by
  by_cases hs : s.sink.slot = .closed
  · rwa [close_of_closed o hs]
  · have hwound := h.windUp hm
    have hcollected : Bounded valid limit accepted (s.windUp o).2.collectDrain := by
      unfold Session.collectDrain
      split <;> exact hwound.same hwound.valid rfl rfl
    have hdropped := hcollected.dropPending
    rw [close_of_not_closed o hs]
    exact hdropped.same (by simpa using hdropped.valid) (by simp) (by simp)

theorem Tracked.call_bounded (hm : Modest o valid) {t : Tracked σ}
    (h : t.session.Bounded valid limit t.accepted) (c : Call) :
    (t.call o c).session.Bounded valid limit (t.call o c).accepted := by
  cases c with
  | write line =>
    rcases hw : t.session.write o line with ⟨rejected | _, session⟩
    · rw [Tracked.call_write_error hw]
      exact h.write_error hm hw
    · rw [Tracked.call_write_ok hw]
      exact h.write_ok hm hw
  | flush => exact h.flush hm
  | rotate => exact h.rotate hm
  | close => exact h.close hm
  | pause nanos => exact h.same h.valid rfl rfl

theorem Tracked.run_bounded (hm : Modest o valid) (calls : List Call) {t : Tracked σ}
    (h : t.session.Bounded valid limit t.accepted) :
    (t.run o calls).session.Bounded valid limit (t.run o calls).accepted := by
  induction calls generalizing t with
  | nil => exact h
  | cons c calls ih => exact ih (Tracked.call_bounded hm h c)

theorem Fresh.bounded (hs : Fresh o s) (hv : valid s.outputs) :
    Bounded valid s.sink.bufferSize [] s := by
  cases hs with
  | path h =>
    obtain ⟨handle, -, rfl⟩ := openAt_ok h
    exact ⟨hv, rfl, Sink.Pending.stores_empty _ _⟩
  | stream name bufferSize stream outputs => exact ⟨hv, rfl, Sink.Pending.stores_empty _ _⟩

/-! ### The bound -/

def longest (lines : List Bytes) : Nat := (lines.map List.length).foldr max 0

theorem length_le_longest {lines : List Bytes} (h : line ∈ lines) :
    line.length ≤ longest lines := by
  induction lines with
  | nil => simp at h
  | cons first rest ih =>
    rcases List.mem_cons.1 h with rfl | h
    · exact Nat.le_max_left _ _
    · exact (ih h).trans (Nat.le_max_right _ _)

theorem Bounded.bytes_le (h : Bounded valid limit accepted s) :
    s.sink.pending.bytes ≤ max limit (longest accepted) := by
  rcases h.stores.bound with hfits | hone
  · exact hfits.trans (Nat.le_max_left _ _)
  · -- the only line in the queue is one that was accepted, or what is left of it
    obtain ⟨part, hpart⟩ := List.length_eq_one_iff.1 hone
    obtain ⟨line, hline, hsuffix⟩ := h.stores.parts part (by simp [hpart])
    have hbytes : s.sink.pending.bytes = part.length := by simp [h.stores.bytes, hpart]
    calc s.sink.pending.bytes = part.length := hbytes
      _ ≤ line.length := hsuffix.length_le
      _ ≤ longest accepted := length_le_longest hline
      _ ≤ max limit (longest accepted) := Nat.le_max_right _ _

/-- The queue of a sink in any state that calls lead to, with any limit, whether its handle fails or
it has none. It counts its bytes, none of its entries is empty, and a drain never takes off more
bytes than it counts. It holds no more bytes than the limit, or else one line; so it never holds
more than the limit and the longest line allow. -/
theorem run_bounds_queue (hm : Modest o valid) {s : Session σ} (hs : Fresh o s)
    (hv : valid s.outputs) (calls : List Call) :
    let now := ({ session := s } : Tracked σ).run o calls
    let pending := now.session.sink.pending
    let counters := now.session.sink.counters
    let outputs := now.session.outputs
    pending.bytes = (pending.lines.map List.length).sum ∧
      (∀ line ∈ pending.lines, line ≠ []) ∧
      (∀ handle, pending.drainChecked? o handle counters outputs
        = some (pending.drain o handle counters outputs)) ∧
      (pending.bytes ≤ s.sink.bufferSize ∨ pending.lines.length = 1) ∧
      pending.bytes ≤ max s.sink.bufferSize (longest now.accepted) := by
  intro now pending counters outputs
  have hbounded : now.session.Bounded valid s.sink.bufferSize now.accepted :=
    Tracked.run_bounded hm calls (t := { session := s }) (hs.bounded hv)
  refine ⟨hbounded.stores.bytes, hbounded.stores.lines_ne_nil, ?_, hbounded.stores.bound,
    hbounded.bytes_le⟩
  intro handle
  exact (hbounded.stores.drain hm handle counters hbounded.valid).2.2

/-- A line longer than the buffer, of which the first device takes half before it is full. -/
def halfLine : Tracked World :=
  ({ session := onUnreliable } : Tracked World).run World.deviceOutputs
    [.write [97, 98, 99, 100, 101, 102, 103, 104, 105, 10], .write [10]]

theorem run_bounds_queue_unlucky :
    halfLine.session.sink.slot = .detached ∧ onUnreliable.sink.bufferSize = 4 ∧
      halfLine.session.sink.pending.lines = [[102, 103, 104, 105, 10]] ∧
      halfLine.session.sink.pending.bytes
        = (halfLine.session.sink.pending.lines.map List.length).sum ∧
      halfLine.session.sink.pending.bytes ≤ max 4 (longest halfLine.accepted) := by
  have hfresh : Fresh World.deviceOutputs onUnreliable :=
    .path
      (show openAt World.deviceOutputs _ "access.log" unreliable = (.ok onUnreliable, _) from rfl)
  have hvalid : World.deviceView.valid onUnreliable.outputs :=
    (onUnreliable_opened.inv World.deviceOutputs_contract).1.valid
  have hbounds := run_bounds_queue World.deviceOutputs_contract.modest hfresh hvalid
    [.write [97, 98, 99, 100, 101, 102, 103, 104, 105, 10], .write [10]]
  exact ⟨by cbv, rfl, by cbv, hbounds.1, hbounds.2.2.2.2⟩

end Session

end RequestLog
