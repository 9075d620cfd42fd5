import RequestLog.Proofs.Calls

/-! Rotations and the bytes of each handle. A rotation gives the old handle what it will take of the
queue, and that handle takes nothing after it. The next one begins with what is left of the queue,
or with a whole line if nothing is. -/

namespace RequestLog

/-- A ledger that follows one with handles after `old` leaves `old` as it was. -/
theorem Ledger.Follows.of_append {old since l : Ledger} (h : l.Follows (old ++ since))
    (hs : since ≠ []) : ∃ since', since' ≠ [] ∧ l = old ++ since' := by
  obtain ⟨between, last, rfl⟩ := (List.eq_nil_or_concat' since).resolve_left hs
  obtain ⟨earlier, handle, taken, more, opened, heq, rfl⟩ := h
  rw [← List.append_assoc] at heq
  obtain ⟨rfl, -⟩ := List.append_inj' heq rfl
  exact ⟨between ++ (handle, taken ++ more) :: opened, by simp, by simp⟩

/-- The bytes of one handle are the first of those of a ledger that begins with it. -/
theorem Ledger.head_prefix {l : Ledger} {e : Handle × Bytes} (h : e ∈ l.head?) :
    e.2 <+: l.bytes := by
  cases l with
  | nil => simp at h
  | cons first rest =>
    obtain rfl : first = e := by simpa using h
    exact ⟨Ledger.bytes rest, by simp [Ledger.bytes]⟩

theorem Sink.Pending.Progress.untouched (lines : List Bytes) :
    Progress lines [] 0 lines :=
  ⟨[], [], by simp, rfl, rfl, fun _ => rfl⟩

namespace Session

open Sink.Pending (Progress completed dropBytes)

variable {σ : Type} {o : Outputs σ} {v : View σ} {s t : Session σ} {accepted dropped : List Bytes}

/-! ### Letting go and opening again -/

theorem reopen_pending (o : Outputs σ) (path : String) (s : Session σ) :
    (s.reopen o path).2.sink.pending = s.sink.pending := by
  unfold reopen
  rcases o.openPath path s.outputs with ⟨cause | handle, outputs⟩ <;> rfl

theorem reopen_linesWritten (o : Outputs σ) (path : String) (s : Session σ) :
    (s.reopen o path).2.sink.counters.linesWritten = s.sink.counters.linesWritten := by
  unfold reopen
  rcases o.openPath path s.outputs with ⟨cause | handle, outputs⟩ <;> rfl

/-- A path that is opened again adds a fresh handle to the ledger, or leaves the sink without
one. -/
theorem reopen_ledger (hc : WriteContract o v) (path : String) (hv : v.valid s.outputs) :
    (∃ fresh, (s.reopen o path).2.sink.slot = .attached fresh ∧
        fresh ∉ (v.ledger s.outputs).handles ∧
        v.ledger (s.reopen o path).2.outputs = v.ledger s.outputs ++ [(fresh, [])]) ∨
      (s.reopen o path).2.sink.slot = .detached ∧
        v.ledger (s.reopen o path).2.outputs = v.ledger s.outputs := by
  unfold reopen
  rcases h : o.openPath path s.outputs with ⟨cause | fresh, outputs⟩
  · exact .inr ⟨rfl, (hc.notOpened hv h).2⟩
  · obtain ⟨-, hfresh, hl⟩ := hc.opened hv h
    exact .inl ⟨fresh, rfl, hfresh, hl⟩

/-! ### Handles of the past -/

namespace Tracked

/-- The ledger begins with `old`, and no handle of `old` is attached any more. -/
def Past (v : View σ) (old : Ledger) (t : Tracked σ) : Prop :=
  ∃ since, v.ledger t.session.outputs = old ++ since ∧
    (since = [] → ∀ handle, t.session.sink.slot ≠ .attached handle)

/-- Without a handle, a call takes nothing from the sink. It can only open the next handle. -/
theorem past_of_not_attached (hc : WriteContract o v) {t : Tracked σ}
    (hv : v.valid t.session.outputs) (hs : ∀ handle, t.session.sink.slot ≠ .attached handle)
    (c : Call) : (t.call o c).Past v (v.ledger t.session.outputs) := by
  have hstay {u : Tracked σ} (hl : v.ledger u.session.outputs = v.ledger t.session.outputs)
      (hu : ∀ handle, u.session.sink.slot ≠ .attached handle) :
      u.Past v (v.ledger t.session.outputs) :=
    ⟨[], by simpa using hl, fun _ => hu⟩
  cases c with
  | write line =>
    rw [call_write_error (write_of_not_attached o line hs)]
    exact hstay rfl hs
  | flush =>
    refine hstay ?_ ?_
    · simp only [call, flush_of_not_attached o hs]
    · simpa only [call, flush_of_not_attached o hs] using hs
  | rotate =>
    have hw := rotate_outcome o t.session
    simp only [call]
    generalize t.session.rotate o = r at hw ⊢
    cases hw with
    | closed _ => exact hstay rfl hs
    | stream _ _ => exact hstay rfl hs
    | @reopened path _ _ =>
      rw [release_of_not_attached o hs]
      rcases reopen_ledger hc path (s := t.session.setSlot .unattached) hv with
        ⟨fresh, -, -, hl⟩ | ⟨hslot, hl⟩
      · exact ⟨[(fresh, [])], hl, by simp⟩
      · exact hstay hl (by simp [hslot])
  | close =>
    refine hstay ?_ ?_
    · simp only [call, close_outputs_of_not_attached o hs]
    · simp [call, close_slot]
  | pause nanos => exact hstay rfl hs

theorem Past.call (hc : WriteContract o v) {old : Ledger} {t : Tracked σ} (hi : t.Inv v)
    (h : t.Past v old) (c : Call) : (t.call o c).Past v old := by
  obtain ⟨since, hl, hidle⟩ := h
  by_cases hs : since = []
  · have hpast := past_of_not_attached hc hi.valid (hidle hs) c
    rwa [hl, hs, List.append_nil] at hpast
  · -- the handle that takes more is one of those opened since
    have hf := (call_inv hc hi c).2
    rw [hl] at hf
    obtain ⟨since', hne, hl'⟩ := hf.of_append hs
    exact ⟨since', hl', fun hnil => absurd hnil hne⟩

theorem Past.run (hc : WriteContract o v) {old : Ledger} (calls : List Call) {t : Tracked σ}
    (hi : t.Inv v) (h : t.Past v old) : (t.run o calls).Past v old := by
  induction calls generalizing t with
  | nil => exact h
  | cons c calls ih => exact ih (call_inv hc hi c).1 (h.call hc hi c)

theorem call_accepted (o : Outputs σ) (t : Tracked σ) (c : Call) :
    t.accepted <+: (t.call o c).accepted := by
  cases c with
  | write line =>
    rcases hw : t.session.write o line with ⟨rejected | _, session⟩
    · rw [call_write_error hw]
    · rw [call_write_ok hw]
      exact List.prefix_append _ _
  | flush => exact List.prefix_refl _
  | rotate => exact List.prefix_refl _
  | close => exact List.prefix_refl _
  | pause nanos => exact List.prefix_refl _

theorem run_accepted (o : Outputs σ) (calls : List Call) (t : Tracked σ) :
    t.accepted <+: (t.run o calls).accepted := by
  induction calls generalizing t with
  | nil => exact List.prefix_refl _
  | cons c calls ih => exact (call_accepted o t c).trans (ih _)

/-- What was taken, what is queued and what was given up are the accepted lines. -/
theorem Inv.bytes_eq {t : Tracked σ} (h : t.Inv v) :
    t.taken v ++ t.session.sink.pending.lines.flatten ++ t.dropped.flatten =
      t.accepted.flatten := by
  have hbytes := h.progress.append_flatten
  rwa [flatten_nonEmpty, List.flatten_append, ← List.append_assoc] at hbytes

end Tracked

/-! ### The boundary -/

/-- A drain takes the first so many bytes of the queue, and has succeeded if these are all. -/
theorem Inv.drainInto_take (hc : WriteContract o v) (hi : Inv v accepted [] s) {handle : Handle}
    {r : Except IoError Unit} (hd : s.drainInto o handle = (r, t)) :
    ∃ n ≤ s.sink.pending.lines.flatten.length,
      t.sink.pending.lines = (dropBytes n s.sink.pending.lines).1 ∧
        t.sink.counters.linesWritten
          = s.sink.counters.linesWritten + (dropBytes n s.sink.pending.lines).2 ∧
        v.ledger t.outputs
          = (v.ledger s.outputs).credit handle (s.sink.pending.lines.flatten.take n) ∧
        (r = .ok () ↔ t.sink.pending.lines = []) := by
  have hok := Sink.Pending.drain_ok_iff handle s.sink.pending s.sink.counters s.outputs (o := o)
  obtain ⟨-, n, hn, heq, hledger⟩ :=
    Sink.Pending.drain_eq_consume hc handle s.sink.pending s.sink.counters s.outputs hi.valid
  obtain ⟨hpending, hcounters⟩ := Prod.mk.inj heq
  obtain ⟨rfl, rfl⟩ := Prod.mk.inj hd
  refine ⟨n, hn, ?_, ?_, hledger, hok⟩
  · exact congrArg Sink.Pending.lines hpending
  · exact congrArg Sink.Counters.linesWritten hcounters

namespace Tracked

def queue (t : Tracked σ) : List Bytes := t.session.sink.pending.lines

/-- A rotation leads from one handle to the next. The old one takes the first `n` bytes of the
queue, and `old` is the ledger of the handles up to it from then on. -/
structure HandsOver (v : View σ) (handle : Handle) (n : Nat) (old : Ledger)
    (now turned : Tracked σ) : Prop where
  last : (v.ledger now.session.outputs).IsLast handle
  le : n ≤ now.queue.flatten.length
  old_eq : old = (v.ledger now.session.outputs).credit handle (now.queue.flatten.take n)
  opened : (∃ fresh, turned.session.sink.slot = .attached fresh ∧ fresh ∉ old.handles ∧
      v.ledger turned.session.outputs = old ++ [(fresh, [])]) ∨
    turned.session.sink.slot = .detached ∧ v.ledger turned.session.outputs = old
  accepted : turned.accepted = now.accepted
  /-- So many lines are finished by these bytes, and the others wait, the first one without its
  beginning. -/
  lines : ∃ finished, Progress now.queue (now.queue.flatten.take n) finished turned.queue ∧
    turned.session.sink.counters.linesWritten
      = now.session.sink.counters.linesWritten + finished

/-- Every rotation of an attached sink with a path hands over, whether or not the path opens
again. -/
theorem handsOver (hc : WriteContract o v) {t : Tracked σ} (hi : t.Inv v) {handle : Handle}
    {path : String} (hs : t.session.sink.slot = .attached handle)
    (hp : t.session.sink.path = some path) :
    ∃ n old, t.HandsOver v handle n old (t.call o .rotate) ∧
      (t.call o .rotate).Past v old ∧
      ((t.session.drainInto o handle).1 = .ok () ↔ (t.call o .rotate).queue = []) := by
  obtain ⟨session, accepted, dropped⟩ := t
  dsimp only at hs hp ⊢
  rcases hd : session.drainInto o handle with ⟨r, drained⟩
  obtain ⟨rfl, hi', -, -⟩ := Session.Inv.drainInto hc hi hs hd
  obtain ⟨n, hn, hlines, hwritten, hledger, hok⟩ := Session.Inv.drainInto_take hc hi hd
  have hsame := release_same hc hs hd hi'.valid
  have hrotate : (session.rotate o).2 = ((session.release o).reopen o path).2 := by
    simp [rotate, hs, hp]
  have hqueue : (session.rotate o).2.sink.pending.lines = drained.sink.pending.lines := by
    rw [hrotate, reopen_pending, hsame.lines]
  have hcount : (session.rotate o).2.sink.counters.linesWritten
      = drained.sink.counters.linesWritten := by
    rw [hrotate, reopen_linesWritten, hsame.linesWritten]
  have hprogress := (Progress.untouched session.sink.pending.lines).dropBytes hn
  rw [List.nil_append, Nat.zero_add, ← hlines] at hprogress
  have hopened := reopen_ledger hc path hsame.valid
  rw [← hrotate, hsame.ledger] at hopened
  have hhanded : HandsOver v handle n (v.ledger drained.outputs) ⟨session, accepted, []⟩
      (call o ⟨session, accepted, []⟩ .rotate) :=
    { last := hi.attached handle hs
      le := hn
      old_eq := hledger
      opened := hopened
      accepted := rfl
      lines := by
        refine ⟨_, ?_, hcount.trans hwritten⟩
        simpa only [queue, call, hqueue] using hprogress }
  refine ⟨n, v.ledger drained.outputs, hhanded, ?_, ?_⟩
  · rcases hopened with ⟨fresh, -, -, hl⟩ | ⟨hslot, hl⟩
    · exact ⟨[(fresh, [])], hl, by simp⟩
    · refine ⟨[], by simpa [call] using hl, fun _ => ?_⟩
      simp [call, hslot]
  · simpa only [queue, call, hqueue] using hok

theorem HandsOver.taken_eq {handle : Handle} {n : Nat} {old : Ledger} {now turned : Tracked σ}
    (h : HandsOver v handle n old now turned) : turned.taken v = old.bytes := by
  rcases h.opened with ⟨fresh, -, -, hl⟩ | ⟨-, hl⟩
  · rw [Tracked.taken, hl, Ledger.bytes_append, Ledger.bytes_singleton, List.append_nil]
  · rw [Tracked.taken, hl]

/-- What waits are the bytes of the queue that the old handle has not taken. -/
theorem HandsOver.queue_eq {handle : Handle} {n : Nat} {old : Ledger} {now turned : Tracked σ}
    (h : HandsOver v handle n old now turned) :
    turned.queue.flatten = now.queue.flatten.drop n := by
  obtain ⟨finished, hprogress, -⟩ := h.lines
  have hbytes := hprogress.append_flatten
  nth_rewrite 2 [← List.take_append_drop n now.queue.flatten] at hbytes
  exact List.append_cancel_left hbytes

/-- The old handle has taken the whole queue exactly if nothing waits after it. -/
theorem HandsOver.queue_eq_nil_iff {handle : Handle} {n : Nat} {old : Ledger}
    {now turned : Tracked σ} (h : HandsOver v handle n old now turned) (hi : turned.Inv v) :
    turned.queue = [] ↔ n = now.queue.flatten.length := by
  constructor
  · intro hempty
    have hdrop := h.queue_eq
    rw [hempty, List.flatten_nil, eq_comm, List.drop_eq_nil_iff] at hdrop
    exact Nat.le_antisymm h.le hdrop
  · rintro rfl
    have hflat := h.queue_eq
    rw [List.drop_length] at hflat
    refine List.eq_nil_iff_forall_not_mem.2 fun line hmem => ?_
    exact hi.lines_ne_nil line (List.mem_append_left _ hmem)
      (List.flatten_eq_nil_iff.1 hflat line hmem)

/-- Of the bytes that wait at first and those accepted since, the handles opened since have taken
the first ones, and the others wait or were given up. -/
theorem Inv.bytes_since {old since : Ledger} {after : List Bytes} {now later : Tracked σ}
    (hi : now.Inv v) (hi' : later.Inv v) (hold : now.taken v = old.bytes)
    (hdropped : now.dropped = []) (hl : v.ledger later.session.outputs = old ++ since)
    (hafter : later.accepted = now.accepted ++ after) :
    since.bytes ++ later.queue.flatten ++ later.dropped.flatten
      = now.queue.flatten ++ after.flatten := by
  have hnow := hi.bytes_eq
  have hlater := hi'.bytes_eq
  rw [hold, hdropped, List.flatten_nil, List.append_nil] at hnow
  rw [taken, hl, Ledger.bytes_append, hafter, List.flatten_append, ← hnow] at hlater
  simp only [List.append_assoc] at hlater ⊢
  exact List.append_cancel_left hlater

/-- With nothing left to wait, every line is written in full. -/
theorem Inv.written_of_queue_nil {t : Tracked σ} (h : t.Inv v) (hq : t.queue = [])
    (hd : t.dropped = []) :
    t.taken v = t.accepted.flatten ∧
      t.session.sink.counters.linesWritten = (nonEmpty t.accepted).length := by
  have hbytes := h.bytes_eq
  have hlength := h.progress.length_eq
  rw [show t.session.sink.pending.lines = [] from hq, hd] at hbytes hlength
  exact ⟨by simpa using hbytes, by simpa using hlength.symm⟩

end Tracked

/-- The boundary between two handles. Whatever calls come before and after a rotation, the handles
up to the old one take nothing after it, and those opened since take first what the old one has left
and then the lines accepted since. If the old handle takes the whole queue, every line before the
rotation is written in full, and the next handle begins with a line accepted since; if it fails,
what it has left waits as it is, and the next handle begins with that. -/
theorem rotate_hands_over (hc : WriteContract o v) {s : Session σ} (hs : Opened o v s)
    (calls more : List Call) {handle : Handle} {path : String}
    (hattached : (({ session := s } : Tracked σ).run o calls).session.sink.slot = .attached handle)
    (hpath : (({ session := s } : Tracked σ).run o calls).session.sink.path = some path) :
    let now := ({ session := s } : Tracked σ).run o calls
    let turned := now.call o .rotate
    let later := turned.run o more
    ∃ n old since after,
      Tracked.HandsOver v handle n old now turned ∧
      turned.session.sink.counters.linesWritten = completed (nonEmpty now.accepted) old.bytes ∧
      v.ledger later.session.outputs = old ++ since ∧
      later.accepted = now.accepted ++ after ∧
      since.bytes ++ later.queue.flatten ++ later.dropped.flatten
        = turned.queue.flatten ++ after.flatten ∧
      ((now.session.drainInto o handle).1 = .ok () →
        n = now.queue.flatten.length ∧ turned.queue = [] ∧ old.bytes = now.accepted.flatten ∧
          turned.session.sink.counters.linesWritten = (nonEmpty now.accepted).length ∧
          ∀ next ∈ since.head?, next.2 <+: after.flatten) ∧
      (∀ cause, (now.session.drainInto o handle).1 = .error cause →
        n < now.queue.flatten.length ∧ turned.queue.flatten = now.queue.flatten.drop n ∧
          ∀ next ∈ since.head?, next.2 <+: turned.queue.flatten ++ after.flatten) := by
  intro now turned later
  obtain ⟨hi, -⟩ := hs.run_inv hc calls
  obtain ⟨n, old, hhanded, hpast, hok⟩ := Tracked.handsOver hc hi hattached hpath
  have hi' : turned.Inv v := (Tracked.call_inv hc hi .rotate).1
  have hi'' : later.Inv v := (Tracked.run_inv hc more hi').1
  obtain ⟨since, hl, -⟩ := hpast.run hc more hi'
  obtain ⟨after, hafter⟩ := Tracked.run_accepted o more turned
  have hopen : turned.dropped = [] := by
    refine hi'.notClosed fun hclosed => ?_
    rcases (Tracked.call_closed_iff o now .rotate).1 hclosed with h | h
    · exact absurd (hattached.symm.trans h) (by simp)
    · simp at h
  have hbytes := Tracked.Inv.bytes_since hi' hi'' hhanded.taken_eq hopen hl hafter.symm
  have hnext : ∀ next ∈ since.head?, next.2 <+: turned.queue.flatten ++ after.flatten := by
    intro next hmem
    rw [← hbytes, List.append_assoc]
    exact (Ledger.head_prefix hmem).trans (List.prefix_append _ _)
  have hwritten : turned.session.sink.counters.linesWritten
      = completed (nonEmpty now.accepted) old.bytes := by
    rw [← hhanded.taken_eq, ← hhanded.accepted]
    exact (hi'.progress.completed_eq hi'.lines_ne_nil).symm
  refine ⟨n, old, since, after, hhanded, hwritten, hl, hafter.symm, hbytes, ?_, ?_⟩
  · intro hd
    have hempty := hok.1 hd
    obtain ⟨htaken, hlines⟩ := hi'.written_of_queue_nil hempty hopen
    rw [hempty, List.flatten_nil, List.nil_append] at hnext
    rw [hhanded.taken_eq] at htaken
    rw [hhanded.accepted] at htaken hlines
    exact ⟨(hhanded.queue_eq_nil_iff hi').1 hempty, hempty, htaken, hlines, hnext⟩
  · intro cause hd
    refine ⟨Nat.lt_of_le_of_ne hhanded.le fun hall => ?_, hhanded.queue_eq, hnext⟩
    have hempty := (hhanded.queue_eq_nil_iff hi').2 hall
    exact absurd (hd.symm.trans (hok.2 hempty)) (by simp)

/-- Two lines, of which the first device takes all but two bytes. -/
def splitLine : Tracked World :=
  ({ session := onUnreliable } : Tracked World).run World.deviceOutputs
    [.write [97, 98, 99, 10], .write [100, 101, 10]]

/-- One line, which the first device takes. -/
def wholeLine : Tracked World :=
  ({ session := onUnreliable } : Tracked World).run World.deviceOutputs [.write [97, 98, 99, 10]]

/-- The second device does not open, and the third takes three bytes. -/
def mend (t : Tracked World) : Tracked World :=
  t.run World.deviceOutputs [.rotate, .write [102, 10], .flush]

theorem rotate_hands_over_unlucky :
    let split := splitLine.call World.deviceOutputs .rotate
    let whole := wholeLine.call World.deviceOutputs .rotate
    (split.queue = [[101, 10]] ∧
      World.deviceLedger (mend split).session.outputs
        = [(0, [97, 98, 99, 10, 100]), (1, [101, 10, 102])] ∧
      ∃ n old since after,
        Tracked.HandsOver World.deviceView 0 n old splitLine split ∧
        n < splitLine.queue.flatten.length ∧
        World.deviceLedger (mend split).session.outputs = old ++ since ∧
        (mend split).accepted = splitLine.accepted ++ after ∧
        ∀ next ∈ since.head?, next.2 <+: split.queue.flatten ++ after.flatten) ∧
    World.deviceLedger (mend whole).session.outputs = [(0, [97, 98, 99, 10]), (1, [102, 10])] ∧
      ∃ old since after,
        old.bytes = wholeLine.accepted.flatten ∧ whole.queue = [] ∧
        World.deviceLedger (mend whole).session.outputs = old ++ since ∧
        (mend whole).accepted = wholeLine.accepted ++ after ∧
        ∀ next ∈ since.head?, next.2 <+: after.flatten := by
  have hsplit : splitLine.session.sink.slot = .attached 0 := by cbv
  have hsplitPath : splitLine.session.sink.path = some "access.log" := by cbv
  have hfailed : (splitLine.session.drainInto World.deviceOutputs 0).1
      = .error (.failed "device full") := by cbv
  have hwhole : wholeLine.session.sink.slot = .attached 0 := by cbv
  have hwholePath : wholeLine.session.sink.path = some "access.log" := by cbv
  have hdrained : (wholeLine.session.drainInto World.deviceOutputs 0).1 = .ok () := by cbv
  refine ⟨⟨by cbv, by cbv, ?_⟩, by cbv, ?_⟩
  · obtain ⟨n, old, since, after, hhanded, -, hl, hafter, -, -, herror⟩ :=
      rotate_hands_over World.deviceOutputs_contract onUnreliable_opened
        [.write [97, 98, 99, 10], .write [100, 101, 10]] [.rotate, .write [102, 10], .flush]
        hsplit hsplitPath
    obtain ⟨hn, -, hnext⟩ := herror _ hfailed
    exact ⟨n, old, since, after, hhanded, hn, hl, hafter, hnext⟩
  · obtain ⟨n, old, since, after, -, -, hl, hafter, -, hok, -⟩ :=
      rotate_hands_over World.deviceOutputs_contract onUnreliable_opened [.write [97, 98, 99, 10]]
        [.rotate, .write [102, 10], .flush] hwhole hwholePath
    obtain ⟨-, hempty, hold, -, hnext⟩ := hok hdrained
    exact ⟨old, since, after, hold, hempty, hl, hafter, hnext⟩

end Session

end RequestLog
