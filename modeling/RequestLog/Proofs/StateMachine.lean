import RequestLog.Proofs.Calls

/-! The states of a sink. Between operations a sink shows what is in its slot, every attach has its
own number, and only the failures, rotations and closes listed here lead from one state to another.
Nothing is assumed of the outputs. -/

namespace RequestLog

namespace Session

variable {σ : Type} {o : Outputs σ} {s t : Session σ}

/-! ### Standing -/

/-- A sink without its queue: where it writes to, in which state, and how often it was opened. -/
structure Standing where
  path : Option String
  /-- The state of the slot. -/
  held : Sink.State
  /-- The state that others see. -/
  shown : Sink.State
  generation : Nat
  opens : Nat
  rotations : Nat
  failedRotations : Nat
deriving DecidableEq, Repr

namespace Standing

def turn (state : Sink.State) (a : Standing) : Standing := { a with held := state, shown := state }

def renew (a : Standing) : Standing :=
  { a.turn .attached with
    generation := a.generation + 1, opens := a.opens + 1, rotations := a.rotations + 1 }

def miss (a : Standing) : Standing :=
  { a.turn .detached with failedRotations := a.failedRotations + 1 }

/-- How a sink stands between operations. -/
structure Steady (a : Standing) : Prop where
  shown : a.shown = a.held
  placed : a.held ≠ .unattached
  generation : a.generation = a.opens
  opens : a.opens = 1 + a.rotations
  stream : a.path = none → a.generation = 1

theorem Steady.turn {a : Standing} (h : a.Steady) {state : Sink.State} (hs : state ≠ .unattached) :
    (a.turn state).Steady :=
  { h with shown := rfl, placed := hs }

theorem Steady.miss {a : Standing} (h : a.Steady) : a.miss.Steady :=
  { h.turn (show Sink.State.detached ≠ .unattached by decide) with }

theorem Steady.renew {a : Standing} (h : a.Steady) (hp : a.path ≠ none) : a.renew.Steady where
  shown := rfl
  placed := by simp [Standing.renew, Standing.turn]
  generation := congrArg (· + 1) h.generation
  opens := congrArg (· + 1) h.opens
  stream := fun hnone => absurd hnone hp

end Standing

def standing (s : Session σ) : Standing where
  path := s.sink.path
  held := s.sink.slot.state
  shown := s.sink.shown
  generation := s.sink.generation
  opens := s.sink.counters.opens
  rotations := s.sink.counters.rotations
  failedRotations := s.sink.counters.failedRotations

theorem held_attached {handle : Handle} (h : s.sink.slot = .attached handle) :
    s.standing.held = .attached := by
  simp [standing, h, Sink.Slot.state]

theorem held_closed_iff : s.standing.held = .closed ↔ s.sink.slot = .closed := by
  cases h : s.sink.slot <;> simp [standing, h, Sink.Slot.state]

/-! ### What the parts of an operation do to it -/

@[simp] theorem setSlot_standing (s : Session σ) (slot : Sink.Slot) :
    (s.setSlot slot).standing = s.standing.turn slot.state := rfl

@[simp] theorem log_standing (s : Session σ) (event : Event) :
    (s.log event).standing = s.standing := rfl

@[simp] theorem accept_standing (s : Session σ) (line : Bytes) :
    (s.accept line).standing = s.standing := rfl

@[simp] theorem outputs_standing (s : Session σ) (outputs : σ) :
    ({ s with outputs } : Session σ).standing = s.standing := rfl

@[simp] theorem addFlush_standing (s : Session σ) :
    (s.count .addFlush).standing = s.standing := rfl

@[simp] theorem elapse_standing (s : Session σ) (nanos : Nat) :
    (s.elapse nanos).standing = s.standing := rfl

/-- Whatever the calls of a drain answer, they attach nothing. -/
theorem drain_opens (o : Outputs σ) (handle : Handle) (pending : Sink.Pending)
    (counters : Sink.Counters) (outputs : σ) :
    let after := (Sink.Pending.drain o handle pending counters outputs).counters
    after.opens = counters.opens ∧ after.rotations = counters.rotations ∧
      after.failedRotations = counters.failedRotations := by
  dsimp only
  fun_induction Sink.Pending.drain o handle pending counters outputs with
  | case1 pending counters outputs he => exact ⟨rfl, rfl, rfl⟩
  | case2 pending counters outputs he t hw => exact ⟨rfl, rfl, rfl⟩
  | case3 pending counters outputs he n t hw after ih => exact ih
  | case4 pending counters outputs he t hw ih => exact ih
  | case5 pending counters outputs he cause t hw => exact ⟨rfl, rfl, rfl⟩

@[simp] theorem drainInto_standing (o : Outputs σ) (handle : Handle) (s : Session σ) :
    (s.drainInto o handle).2.standing = s.standing := by
  obtain ⟨hopens, hrotations, hfailed⟩ :=
    drain_opens o handle s.sink.pending s.sink.counters s.outputs
  simp only [standing, drainInto, hopens, hrotations, hfailed]

theorem standing_of_drainInto {handle : Handle} {r : Except IoError Unit}
    (h : s.drainInto o handle = (r, t)) : t.standing = s.standing := by
  rw [← drainInto_standing o handle s, h]

@[simp] theorem retire_standing (o : Outputs σ) (handle : Handle) (s : Session σ) :
    (s.retire o handle).standing = s.standing := by
  unfold retire
  dsimp only
  cases (o.finish handle s.outputs).1 <;> rfl

@[simp] theorem detach_standing (o : Outputs σ) (handle : Handle) (message : String)
    (cause : IoError) (s : Session σ) :
    (s.detach o handle message cause).standing = s.standing.turn .detached := by
  unfold detach
  rw [setSlot_standing, retire_standing]
  rfl

@[simp] theorem release_standing (o : Outputs σ) (s : Session σ) :
    (s.release o).standing = s.standing.turn .unattached := by
  unfold release
  split
  · rename_i handle hs
    rcases h : s.drainInto o handle with ⟨cause | _, t⟩
    · rw [setSlot_standing, retire_standing, log_standing, ← standing_of_drainInto h]
      rfl
    · rw [setSlot_standing, retire_standing, standing_of_drainInto h]
      rfl
  · rfl

theorem reopen_standing_ok {path : String} {handle : Handle} {outputs : σ}
    (h : o.openPath path s.outputs = (.ok handle, outputs)) :
    (s.reopen o path).2.standing = s.standing.renew := by
  unfold reopen
  rw [h]
  rfl

theorem reopen_standing_error {path : String} {cause : IoError} {outputs : σ}
    (h : o.openPath path s.outputs = (.error cause, outputs)) :
    (s.reopen o path).2.standing = s.standing.miss := by
  unfold reopen
  rw [h]
  rfl

@[simp] theorem finish_standing (o : Outputs σ) (handle : Handle) (s : Session σ) :
    (s.finish o handle).2.standing = s.standing := by
  have hw := finish_outcome o handle s
  generalize s.finish o handle = r at hw ⊢
  cases hw with
  | undrained h =>
    rw [← standing_of_drainInto h]
    rfl
  | done h _ =>
    rw [← standing_of_drainInto h]
    rfl
  | failed h _ =>
    rw [← standing_of_drainInto h]
    rfl
  | crashed h _ =>
    rw [← standing_of_drainInto h]
    rfl

@[simp] theorem windUp_standing (o : Outputs σ) (s : Session σ) :
    (s.windUp o).2.standing = s.standing.turn .closed := by
  unfold windUp
  split
  · rw [finish_standing, setSlot_standing]
    rfl
  · rfl

@[simp] theorem collectDrain_standing (s : Session σ) : s.collectDrain.standing = s.standing := by
  unfold collectDrain
  split <;> rfl

@[simp] theorem dropPending_standing (s : Session σ) : s.dropPending.standing = s.standing := by
  unfold dropPending
  dsimp only
  split <;> rfl

@[simp] theorem reportClose_standing (result : Except SinkError Unit) (s : Session σ) :
    (s.reportClose result).standing = s.standing := by
  cases result <;> rfl

/-! ### Moves -/

/-- The call fails at the attached handle: its drain does, or its flush. A flush that crashes has
not failed, and the handle stays. -/
inductive Fails (o : Outputs σ) (s : Session σ) : Call → Prop where
  | write {line : Bytes} {handle : Handle} {cause : IoError} (hs : s.sink.slot = .attached handle)
      (hl : line ≠ []) (hd : s.mustDrain line = true)
      (h : (s.drainInto o handle).1 = .error cause) : Fails o s (.write line)
  | undrained {handle : Handle} {cause : IoError} (hs : s.sink.slot = .attached handle)
      (h : (s.drainInto o handle).1 = .error cause) : Fails o s .flush
  | flush {handle : Handle} {cause : IoError} (hs : s.sink.slot = .attached handle)
      (h : (s.drainInto o handle).1 = .ok ())
      (hf : (o.flush handle (s.drainInto o handle).2.outputs).1 = .failed cause) : Fails o s .flush

theorem Fails.attached {c : Call} (h : Fails o s c) : ∃ handle, s.sink.slot = .attached handle := by
  cases h with
  | write hs _ _ _ => exact ⟨_, hs⟩
  | undrained hs _ => exact ⟨_, hs⟩
  | flush hs _ _ => exact ⟨_, hs⟩

inductive Move (o : Outputs σ) (s : Session σ) : Call → Standing → Prop where
  | fails {c : Call} (h : Fails o s c) : Move o s c (s.standing.turn .detached)
  | reopens {path : String} {handle : Handle} {outputs : σ} (hs : s.sink.slot ≠ .closed)
      (hp : s.sink.path = some path)
      (h : o.openPath path (s.release o).outputs = (.ok handle, outputs)) :
    Move o s .rotate s.standing.renew
  | misses {path : String} {cause : IoError} {outputs : σ} (hs : s.sink.slot ≠ .closed)
      (hp : s.sink.path = some path)
      (h : o.openPath path (s.release o).outputs = (.error cause, outputs)) :
    Move o s .rotate s.standing.miss
  | closes : Move o s .close (s.standing.turn .closed)
  | stays {c : Call} (hf : ¬ Fails o s c) (hc : c ≠ .close)
      (hr : c = .rotate → s.sink.slot = .closed ∨ s.sink.path = none) : Move o s c s.standing

/-- Which move a call makes is settled by the sink and its outputs. -/
theorem Move.unique {c : Call} {a b : Standing} (hm : Move o s c a) (hm' : Move o s c b) :
    a = b := by
  cases hm with
  | fails h =>
    cases hm' with
    | fails _ => rfl
    | reopens _ _ _ => nomatch h
    | misses _ _ _ => nomatch h
    | closes => nomatch h
    | stays hf _ _ => exact absurd h hf
  | reopens hs hp h =>
    cases hm' with
    | fails h' => nomatch h'
    | reopens _ _ _ => rfl
    | misses _ hp' h' =>
      obtain rfl := Option.some.inj (hp.symm.trans hp')
      simp [h] at h'
    | stays _ _ hr => simp [hs, hp] at hr
  | misses hs hp h =>
    cases hm' with
    | fails h' => nomatch h'
    | reopens _ hp' h' =>
      obtain rfl := Option.some.inj (hp.symm.trans hp')
      simp [h] at h'
    | misses _ _ _ => rfl
    | stays _ _ hr => simp [hs, hp] at hr
  | closes =>
    cases hm' with
    | fails h' => nomatch h'
    | closes => rfl
    | stays _ hc _ => exact absurd rfl hc
  | stays hf hc hr =>
    cases hm' with
    | fails h => exact absurd h hf
    | reopens hs hp _ => simp [hs, hp] at hr
    | misses hs hp _ => simp [hs, hp] at hr
    | closes => exact absurd rfl hc
    | stays _ _ _ => rfl

theorem write_move (o : Outputs σ) (line : Bytes) (s : Session σ) :
    Move o s (.write line) (s.write o line).2.standing := by
  have hw := write_outcome o line s
  generalize s.write o line = r at hw ⊢
  cases hw with
  | unavailable hs =>
    refine .stays ?_ (by simp) (by simp)
    intro hfails
    cases hfails with
    | write hs' _ _ _ => exact hs _ hs'
  | empty _ hl =>
    refine .stays ?_ (by simp) (by simp)
    intro hfails
    cases hfails with
    | write _ hl' _ _ => exact hl' hl
  | queued _ _ hd =>
    refine .stays ?_ (by simp) (by simp)
    intro hfails
    cases hfails with
    | write _ _ hd' _ => simp [hd] at hd'
  | drained hs _ _ h =>
    rw [accept_standing, standing_of_drainInto h]
    refine .stays ?_ (by simp) (by simp)
    intro hfails
    cases hfails with
    | write hs' _ _ h' =>
      obtain rfl := handle_unique hs hs'
      simp [h] at h'
  | failed hs hl hd h =>
    rw [detach_standing, standing_of_drainInto h]
    exact .fails (.write hs hl hd (congrArg Prod.fst h))

theorem flush_move (o : Outputs σ) (s : Session σ) : Move o s .flush (s.flush o).2.standing := by
  have hw := flush_outcome o s
  generalize s.flush o = r at hw ⊢
  -- a flush whose drain succeeds fails exactly if the handle says so
  have hstays {handle : Handle} {t : Session σ} {reply : Reply} {outputs : σ}
      (hs : s.sink.slot = .attached handle) (h : s.drainInto o handle = (.ok (), t))
      (hf : o.flush handle t.outputs = (reply, outputs)) (hreply : ∀ cause, reply ≠ .failed cause) :
      ¬ Fails o s .flush := by
    intro hfails
    cases hfails with
    | undrained hs' h' =>
      obtain rfl := handle_unique hs hs'
      simp [h] at h'
    | flush hs' h' hf' =>
      obtain rfl := handle_unique hs hs'
      simp only [h, hf] at hf'
      exact hreply _ hf'
  cases hw with
  | idle hs =>
    refine .stays ?_ (by simp) (by simp)
    intro hfails
    cases hfails with
    | undrained hs' _ => exact hs _ hs'
    | flush hs' _ _ => exact hs _ hs'
  | undrained hs h =>
    rw [detach_standing, standing_of_drainInto h]
    exact .fails (.undrained hs (congrArg Prod.fst h))
  | @done handle t outputs hs h hf =>
    rw [addFlush_standing, outputs_standing, standing_of_drainInto h]
    exact .stays (hstays hs h hf (by simp)) (by simp) (by simp)
  | @failed handle cause t outputs hs h hf =>
    rw [detach_standing, outputs_standing, standing_of_drainInto h]
    refine .fails (.flush hs (congrArg Prod.fst h) (?_ : _ = Reply.failed cause))
    simp only [h, hf]
  | @crashed handle t outputs hs h hf =>
    rw [outputs_standing, standing_of_drainInto h]
    exact .stays (hstays hs h hf (by simp)) (by simp) (by simp)

theorem rotate_move (o : Outputs σ) (s : Session σ) : Move o s .rotate (s.rotate o).2.standing := by
  have hw := rotate_outcome o s
  have hnot : ¬ Fails o s .rotate := nofun
  generalize s.rotate o = r at hw ⊢
  cases hw with
  | closed hs => exact .stays hnot (by simp) fun _ => .inl hs
  | stream _ hp => exact .stays hnot (by simp) fun _ => .inr hp
  | @reopened path hs hp =>
    rcases h : o.openPath path (s.release o).outputs with ⟨cause | handle, outputs⟩
    · rw [reopen_standing_error h, release_standing]
      exact .misses hs hp h
    · rw [reopen_standing_ok h, release_standing]
      exact .reopens hs hp h

theorem Standing.Steady.turn_held {a : Standing} (h : a.Steady) : a.turn a.held = a := by
  obtain ⟨path, held, shown, generation, opens, rotations, failedRotations⟩ := a
  obtain rfl : shown = held := h.shown
  rfl

theorem close_move (o : Outputs σ) (h : s.standing.Steady) :
    Move o s .close (s.close o).2.standing := by
  have hclosed : (s.close o).2.standing = s.standing.turn .closed := by
    by_cases hs : s.sink.slot = .closed
    · rw [close_of_closed o hs, ← held_closed_iff.2 hs, h.turn_held]
    · rw [close_of_not_closed o hs, reportClose_standing, dropPending_standing,
        collectDrain_standing, windUp_standing]
  rw [hclosed]
  exact .closes

theorem Tracked.call_move (o : Outputs σ) {t : Tracked σ} (h : t.session.standing.Steady)
    (c : Call) : Move o t.session c (t.call o c).session.standing := by
  cases c with
  | write line =>
    have hmove := write_move o line t.session
    rcases hw : t.session.write o line with ⟨rejected | _, session⟩
    · rw [Tracked.call_write_error hw]
      rwa [hw] at hmove
    · rw [Tracked.call_write_ok hw]
      rwa [hw] at hmove
  | flush => exact flush_move o t.session
  | rotate => exact rotate_move o t.session
  | close => exact close_move o h
  | pause nanos => exact .stays nofun (by simp) (by simp)

theorem Tracked.move_iff (o : Outputs σ) {t : Tracked σ} (h : t.session.standing.Steady) (c : Call)
    (a : Standing) : Move o t.session c a ↔ a = (t.call o c).session.standing := by
  constructor
  · intro hm
    exact hm.unique (Tracked.call_move o h c)
  · rintro rfl
    exact Tracked.call_move o h c

/-- A move leads from a steady standing to a steady one. -/
theorem Move.steady {c : Call} {a : Standing} (hm : Move o s c a) (h : s.standing.Steady) :
    a.Steady := by
  cases hm with
  | fails _ => exact h.turn (by decide)
  | reopens _ hp _ => exact h.renew (by simp [standing, hp])
  | misses _ _ _ => exact h.miss
  | closes => exact h.turn (by decide)
  | stays _ _ _ => exact h

theorem Move.path_eq {c : Call} {a : Standing} (hm : Move o s c a) : a.path = s.standing.path := by
  cases hm <;> rfl

/-- A stream that is given up is not attached again. -/
theorem Move.held_ne_attached {c : Call} {a : Standing} (hm : Move o s c a)
    (hp : s.sink.path = none) (h : s.standing.held ≠ .attached) : a.held ≠ .attached := by
  cases hm with
  | fails _ => simp [Standing.turn]
  | reopens _ hp' _ => simp [hp] at hp'
  | misses _ hp' _ => simp [hp] at hp'
  | closes => simp [Standing.turn]
  | stays _ _ _ => exact h

/-- Only a rotation or a close leads out of the detached state. -/
theorem Move.standing_of_detached {c : Call} {a : Standing} (hm : Move o s c a)
    (hs : s.sink.slot = .detached) (hrotate : c ≠ .rotate) (hclose : c ≠ .close) :
    a = s.standing := by
  cases hm with
  | fails h =>
    obtain ⟨handle, hattached⟩ := h.attached
    simp [hs] at hattached
  | reopens _ _ _ => exact absurd rfl hrotate
  | misses _ _ _ => exact absurd rfl hrotate
  | closes => exact absurd rfl hclose
  | stays _ _ _ => rfl

/-- Nothing leads out of the closed state. -/
theorem Move.standing_of_closed {c : Call} {a : Standing} (hm : Move o s c a)
    (h : s.standing.Steady) (hs : s.sink.slot = .closed) : a = s.standing := by
  cases hm with
  | fails hf =>
    obtain ⟨handle, hattached⟩ := hf.attached
    simp [hs] at hattached
  | reopens hs' _ _ => exact absurd hs hs'
  | misses hs' _ _ => exact absurd hs hs'
  | closes => rw [← held_closed_iff.2 hs, h.turn_held]
  | stays _ _ _ => rfl

/-! ### Runs -/

/-- What every move keeps holds after any calls. -/
theorem Tracked.run_keeps {P : Standing → Prop}
    (hkeep : ∀ {s : Session σ} {c : Call} {a : Standing},
      s.standing.Steady → P s.standing → Move o s c a → P a)
    (calls : List Call) {t : Tracked σ} (h : t.session.standing.Steady)
    (ht : P t.session.standing) :
    (t.run o calls).session.standing.Steady ∧ P (t.run o calls).session.standing := by
  induction calls generalizing t with
  | nil => exact ⟨h, ht⟩
  | cons c calls ih =>
    have hmove := Tracked.call_move o h c
    exact ih (hmove.steady h) (hkeep h ht hmove)

theorem Tracked.run_steady (o : Outputs σ) (calls : List Call) {t : Tracked σ}
    (h : t.session.standing.Steady) :
    (t.run o calls).session.standing.Steady ∧
      (t.run o calls).session.standing.path = t.session.standing.path :=
  Tracked.run_keeps (P := fun a => a.path = t.session.standing.path)
    (fun _ hpath hmove => hmove.path_eq.trans hpath) calls h rfl

theorem Tracked.run_held_ne_attached (o : Outputs σ) (calls : List Call) {t : Tracked σ}
    (h : t.session.standing.Steady) (hp : t.session.sink.path = none)
    (hs : t.session.standing.held ≠ .attached) :
    (t.run o calls).session.standing.held ≠ .attached := by
  refine (Tracked.run_keeps (P := fun a => a.path = none ∧ a.held ≠ .attached) ?_ calls h
    ⟨hp, hs⟩).2.2
  intro s c a _ hstream hmove
  exact ⟨hmove.path_eq.trans hstream.1, hmove.held_ne_attached hstream.1 hstream.2⟩

theorem Tracked.run_standing_of_closed (o : Outputs σ) (calls : List Call) {t : Tracked σ}
    (h : t.session.standing.Steady) (hs : t.session.sink.slot = .closed) :
    (t.run o calls).session.standing = t.session.standing := by
  refine (Tracked.run_keeps (P := fun a => a = t.session.standing) ?_ calls h rfl).2
  intro s c a hsteady heq hmove
  have hclosed : s.sink.slot = .closed := by
    rw [← held_closed_iff, heq]
    exact held_closed_iff.2 hs
  exact (hmove.standing_of_closed hsteady hclosed).trans heq

/-! ### Only a rotation opens -/

/-- A drain depends on nothing but the answers to its writes. -/
theorem drain_of_write_eq {o o' : Outputs σ} (h : o'.write = o.write) (handle : Handle)
    (pending : Sink.Pending) (counters : Sink.Counters) (outputs : σ) :
    Sink.Pending.drain o' handle pending counters outputs
      = Sink.Pending.drain o handle pending counters outputs := by
  fun_induction Sink.Pending.drain o handle pending counters outputs with
  | case1 pending counters outputs he => rw [Sink.Pending.drain, dif_pos he]
  | case2 pending counters outputs he t hw =>
    rw [Sink.Pending.drain, dif_neg he]
    rw [← h] at hw
    split <;> simp_all
  | case3 pending counters outputs he n t hw after ih =>
    rw [Sink.Pending.drain, dif_neg he]
    rw [← h] at hw
    split <;> simp_all [after]
  | case4 pending counters outputs he t hw ih =>
    rw [Sink.Pending.drain, dif_neg he]
    rw [← h] at hw
    split <;> simp_all
  | case5 pending counters outputs he cause t hw =>
    rw [Sink.Pending.drain, dif_neg he]
    rw [← h] at hw
    split <;> simp_all

theorem drainInto_openPath (o : Outputs σ) (f : String → σ → Except IoError Handle × σ)
    (handle : Handle) (s : Session σ) :
    s.drainInto { o with openPath := f } handle = s.drainInto o handle := by
  have hwrite : ({ o with openPath := f } : Outputs σ).write = o.write := rfl
  simp only [drainInto, drain_of_write_eq hwrite]

/-- A write would do the same whatever opening did. -/
theorem write_openPath (o : Outputs σ) (f : String → σ → Except IoError Handle × σ) (line : Bytes)
    (s : Session σ) : s.write { o with openPath := f } line = s.write o line := by
  unfold write
  simp only [drainInto_openPath]
  rfl

/-- A flush would do the same whatever opening did. -/
theorem flush_openPath (o : Outputs σ) (f : String → σ → Except IoError Handle × σ)
    (s : Session σ) : s.flush { o with openPath := f } = s.flush o := by
  unfold flush
  simp only [drainInto_openPath]
  rfl

/-! ### The states of a sink -/

/-- A sink right after it was opened, whatever its outputs have done before. -/
inductive Fresh (o : Outputs σ) : Session σ → Prop where
  | path {name path : String} {bufferSize : Nat} {outputs rest : σ} {s : Session σ}
      (h : openAt o { name, bufferSize } path outputs = (.ok s, rest)) : Fresh o s
  | stream (name : String) (bufferSize : Nat) (stream : Handle) (outputs : σ) :
    Fresh o (start { name, bufferSize } stream outputs)

theorem start_steady {sink : Sink} (hc : sink.counters = {}) (handle : Handle) (outputs : σ) :
    (start sink handle outputs).standing.Steady where
  shown := rfl
  placed := by simp [standing, start, Sink.Slot.state]
  generation := by simp [standing, start, hc, Sink.Counters.addOpen]
  opens := by simp [standing, start, hc, Sink.Counters.addOpen]
  stream := fun _ => rfl

theorem Fresh.steady (hs : Fresh o s) : s.standing.Steady := by
  cases hs with
  | path h =>
    obtain ⟨handle, -, rfl⟩ := openAt_ok h
    exact start_steady rfl handle _
  | stream name bufferSize stream outputs => exact start_steady rfl stream outputs

theorem Standing.Steady.slot_ne_unattached (h : s.standing.Steady) :
    s.sink.slot ≠ .unattached := by
  intro hs
  exact h.placed (by simp [standing, hs, Sink.Slot.state])

/-- A rejected write says why, and that it is never for want of a first output. -/
theorem write_rejected_ne_unattached (o : Outputs σ) (line : Bytes) (h : s.standing.Steady)
    {rejected : Rejected} (hw : (s.write o line).1 = .error rejected) :
    rejected.error ≠ .unattached := by
  have hout := write_outcome o line s
  generalize s.write o line = r at hout hw
  cases hout with
  | unavailable hs =>
    obtain rfl := Except.error.inj hw
    cases hslot : s.sink.slot with
    | unattached => exact absurd hslot h.slot_ne_unattached
    | attached handle => exact absurd hslot (hs handle)
    | detached => simp [Sink.Slot.unavailable]
    | closed => simp [Sink.Slot.unavailable]
  | failed _ _ _ _ =>
    obtain rfl := Except.error.inj hw
    simp
  | empty _ _ => simp at hw
  | queued _ _ _ => simp at hw
  | drained _ _ _ _ => simp at hw

/-- A sink in any state that calls lead to, and each call from there. What it shows is what it
holds, and it has a number for every attach. A call makes one of the moves listed: writes and
flushes open nothing, and once detached only a rotation or a close changes anything. A stream is
attached once and never again. A closed sink stays closed, and refuses every line. -/
theorem run_moves {s : Session σ} (hs : Fresh o s) (calls : List Call) :
    let now := ({ session := s } : Tracked σ).run o calls
    now.session.standing.Steady ∧
      (∀ c a, Move o now.session c a ↔ a = (now.call o c).session.standing) ∧
      (∀ line rejected, (now.session.write o line).1 = .error rejected →
        rejected.error ≠ .unattached) ∧
      (∀ f line, now.session.write { o with openPath := f } line = now.session.write o line) ∧
      (∀ f, now.session.flush { o with openPath := f } = now.session.flush o) ∧
      (now.session.sink.slot = .detached → ∀ c, c ≠ .rotate → c ≠ .close →
        (now.call o c).session.standing = now.session.standing) ∧
      (s.sink.path = none →
        now.session.sink.generation = 1 ∧
          (now.session.sink.slot ≠ .closed →
            now.session.rotate o = (.ok .notRotatable, now.session)) ∧
          (now.session.sink.slot = .detached → ∀ more handle,
            (now.run o more).session.sink.slot ≠ .attached handle)) ∧
      (now.session.sink.slot = .closed → ∀ more,
        let later := now.run o more
        later.session.standing = now.session.standing ∧
          (∀ line, later.session.write o line = (.error ⟨line, .closed⟩, later.session)) ∧
          later.session.flush o = (.done, later.session) ∧
          later.session.rotate o = (.error .closed, later.session) ∧
          later.session.close o = (.ok (), later.session)) := by
  intro now
  obtain ⟨hsteady, hpath⟩ := Tracked.run_steady o calls (t := { session := s }) hs.steady
  refine ⟨hsteady, Tracked.move_iff o hsteady, fun line rejected hw => ?_,
    fun f line => write_openPath o f line _, fun f => flush_openPath o f _, ?_, ?_, ?_⟩
  · exact write_rejected_ne_unattached o line hsteady hw
  · intro hdetached c hrotate hclose
    exact (Tracked.call_move o hsteady c).standing_of_detached hdetached hrotate hclose
  · intro hstream
    have hnone : now.session.sink.path = none := hpath.trans hstream
    refine ⟨hsteady.stream hnone, fun hopen => rotate_of_stream o hopen hnone, ?_⟩
    intro hdetached more handle hattached
    have hheld : now.session.standing.held ≠ .attached := by
      simp [standing, hdetached, Sink.Slot.state]
    exact Tracked.run_held_ne_attached o more hsteady hnone hheld (held_attached hattached)
  · intro hclosed more later
    have hlater : later.session.sink.slot = .closed :=
      (Tracked.run_closed_iff o more now).2 (.inl hclosed)
    exact ⟨Tracked.run_standing_of_closed o more hsteady hclosed,
      fun line => write_of_closed o line hlater, flush_of_closed o hlater,
      rotate_of_closed o hlater, close_of_closed o hlater⟩

def onBroken : Session World :=
  start {} 0
    { devices := [{ fail := some "no such device" }], used := 1
      handles := [{ backing := .device 0 }] }

theorem run_moves_unlucky :
    unluckyEnd.session.standing =
        { path := some "access.log", held := .closed, shown := .closed, generation := 2, opens := 2,
          rotations := 1, failedRotations := 1 } ∧
      unluckyEnd.session.standing.Steady ∧
      unluckyEnd.session.write World.deviceOutputs [103, 10]
        = (.error ⟨[103, 10], .closed⟩, unluckyEnd.session) ∧
      (let now := ({ session := onBroken } : Tracked World).run World.deviceOutputs
        [.write [97, 10], .flush]
      now.session.sink.slot = .detached ∧
        now.session.rotate World.deviceOutputs = (.ok .notRotatable, now.session)) := by
  have hfresh : Fresh World.deviceOutputs onUnreliable :=
    .path
      (show openAt World.deviceOutputs _ "access.log" unreliable = (.ok onUnreliable, _) from rfl)
  have hunlucky := run_moves hfresh unluckyCalls
  have hbroken := run_moves (.stream "access_log" 65536 0 _ : Fresh World.deviceOutputs onBroken)
    [.write [97, 10], .flush]
  refine ⟨by cbv, hunlucky.1, ?_, by cbv, ?_⟩
  · exact (hunlucky.2.2.2.2.2.2.2 (by cbv) []).2.1 [103, 10]
  · exact (hbroken.2.2.2.2.2.2.1 rfl).2.1 (by cbv; simp)

end Session

end RequestLog
