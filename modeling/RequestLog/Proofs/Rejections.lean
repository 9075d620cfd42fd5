import RequestLog.Proofs.Boundary
import RequestLog.Proofs.StateMachine

/-! Rejected lines. A line that is rejected comes back as it was, and what the sink holds and has
given to its handles is made of earlier lines only. So a caller that offers it again before any
other line brings all its lines in their order, each one once. -/

namespace RequestLog

/-- A take that leaves lines behind has not taken all bytes. -/
theorem Sink.Pending.Progress.lt_length {lines left : List Bytes} {n finished : Nat}
    (h : Progress lines (lines.flatten.take n) finished left) (hleft : ∀ line ∈ left, line ≠ [])
    (hne : left ≠ []) : n < lines.flatten.length := by
  by_contra hge
  have hbytes := h.append_flatten
  rw [List.take_of_length_le (Nat.not_lt.1 hge), List.append_right_eq_self] at hbytes
  obtain ⟨line, rest, rfl⟩ := List.exists_cons_of_ne_nil hne
  exact hleft line List.mem_cons_self (List.flatten_eq_nil_iff.1 hbytes line List.mem_cons_self)

namespace Session

open Sink.Pending (Progress)

variable {σ : Type} {o : Outputs σ} {v : View σ} {s t : Session σ} {accepted : List Bytes}

/-! ### One write -/

/-- The sink accepts the line: it is attached, and if there is no room for the line, the handle
takes all that is queued. -/
def Admits (o : Outputs σ) (s : Session σ) (line : Bytes) : Prop :=
  ∃ handle, s.sink.slot = .attached handle ∧
    (line ≠ [] → s.mustDrain line = true → (s.drainInto o handle).1 = .ok ())

theorem write_ok_iff (o : Outputs σ) (s : Session σ) (line : Bytes) :
    (s.write o line).1 = .ok () ↔ Admits o s line := by
  have hw := write_outcome o line s
  generalize s.write o line = r at hw
  unfold Admits
  cases hw with
  | unavailable hs => simp [hs]
  | empty hs hl => simp [hs, hl]
  | queued hs hl hd => simp [hs, hd]
  | drained hs hl hd h => simp [hs, h]
  | failed hs hl hd h => simp [hs, hl, hd, h]

/-- A write that a failing handle has made impossible. The handle has taken the first `n` bytes of
the queue, and the sink has given it up. -/
structure Breaks (v : View σ) (handle : Handle) (n : Nat) (before after : Session σ) : Prop where
  lt : n < before.sink.pending.lines.flatten.length
  ledger : v.ledger after.outputs
    = (v.ledger before.outputs).credit handle (before.sink.pending.lines.flatten.take n)
  rest : after.sink.pending.lines.flatten = before.sink.pending.lines.flatten.drop n
  /-- So many lines are finished by these bytes. The others wait, the first one without its
  beginning, and no line has joined them. -/
  lines : ∃ finished, Progress before.sink.pending.lines
      (before.sink.pending.lines.flatten.take n) finished after.sink.pending.lines ∧
    after.sink.counters.linesWritten = before.sink.counters.linesWritten + finished
  standing : after.standing = before.standing.turn .detached
  writeErrors : after.sink.counters.writeErrors = before.sink.counters.writeErrors + 1

theorem drainInto_writeErrors (hc : WriteContract o v) (hv : v.valid s.outputs) {handle : Handle}
    {r : Except IoError Unit} (h : s.drainInto o handle = (r, t)) :
    t.sink.counters.writeErrors = s.sink.counters.writeErrors := by
  obtain ⟨-, n, -, heq, -⟩ :=
    Sink.Pending.drain_eq_consume hc handle s.sink.pending s.sink.counters s.outputs hv
  obtain ⟨-, hcounters⟩ := Prod.mk.inj heq
  obtain ⟨-, rfl⟩ := Prod.mk.inj h
  have hcount := congrArg Sink.Counters.writeErrors hcounters
  exact hcount

theorem detach_writeErrors (o : Outputs σ) (handle : Handle) (message : String) (cause : IoError)
    (s : Session σ) :
    (s.detach o handle message cause).sink.counters.writeErrors
      = s.sink.counters.writeErrors + 1 := by
  unfold detach retire
  dsimp only
  split <;> rfl

/-- A write whose drain fails leaves what the handle has not taken of the queue. -/
theorem Inv.write_failed (hc : WriteContract o v) (hi : Inv v accepted [] s) {handle : Handle}
    (hs : s.sink.slot = .attached handle) {cause : IoError}
    (hd : s.drainInto o handle = (.error cause, t)) (message : String) :
    ∃ n, Breaks v handle n s (t.detach o handle message cause) := by
  obtain ⟨-, hi', -, -⟩ := hi.drainInto hc hs hd
  obtain ⟨n, hn, hlines, hwritten, hledger, hok⟩ := hi.drainInto_take hc hd
  have hsame := (Same.refl hi'.valid).detach hc handle message cause
  have hprogress := (Progress.untouched s.sink.pending.lines).dropBytes hn
  rw [List.nil_append, Nat.zero_add, ← hlines] at hprogress
  have hleft : ∀ line ∈ t.sink.pending.lines, line ≠ [] :=
    fun line hmem => hi'.lines_ne_nil line (List.mem_append_left _ hmem)
  refine ⟨n, hprogress.lt_length hleft (by simp [← hok]), hsame.ledger.trans hledger, ?_, ?_, ?_,
    ?_⟩
  · rw [hsame.lines, hlines, Sink.Pending.flatten_dropBytes]
  · rw [hsame.lines]
    exact ⟨_, hprogress, hsame.linesWritten.trans hwritten⟩
  · rw [detach_standing, standing_of_drainInto hd]
  · rw [detach_writeErrors, drainInto_writeErrors hc hi.valid hd]

/-- What a rejected line leaves of itself: nothing, whether there was no handle or the one there was
has failed on earlier lines. -/
theorem Inv.write_rejected (hc : WriteContract o v) {dropped : List Bytes}
    (hi : Inv v accepted dropped s) {line : Bytes} {rejected : Rejected}
    (h : s.write o line = (.error rejected, t)) :
    (∀ handle, s.sink.slot ≠ .attached handle) ∧ rejected.error = s.sink.slot.unavailable ∧ t = s ∨
      ∃ handle cause n, s.sink.slot = .attached handle ∧ rejected.error = .writeFailed cause ∧
        (s.drainInto o handle).1 = .error cause ∧ Breaks v handle n s t := by
  have hw := write_outcome o line s
  rw [h] at hw
  cases hw with
  | unavailable hs => exact .inl ⟨hs, rfl, rfl⟩
  | @failed handle cause _ hs _ _ hd =>
    obtain rfl := hi.notClosed (by simp [hs])
    obtain ⟨n, hbreaks⟩ := hi.write_failed hc hs hd "access log write failed, detaching output"
    exact .inr ⟨handle, cause, n, hs, rfl, congrArg Prod.fst hd, hbreaks⟩

/-! ### A caller that does not give up -/

def back? : Except Rejected Unit → Option Bytes
  | .ok () => none
  | .error rejected => some rejected.line

/-- A caller with lines to bring. It has no copy of a line that it has offered: only if the line
comes back can it be offered again. -/
structure Caller (σ : Type) where
  sink : Tracked σ
  returned : Option Bytes := none
  rest : List Bytes

namespace Caller

def line? : Call → Option Bytes
  | .write line => some line
  | _ => none

/-- What a caller does next: it offers a line, the one that came back if there is one, or it calls
something else. -/
inductive Turn where
  | offer
  | between (call : Call) (h : line? call = none)

def waiting (c : Caller σ) : List Bytes := c.returned.toList ++ c.rest

def turn (o : Outputs σ) (c : Caller σ) : Turn → Caller σ
  | .offer =>
    match c.waiting with
    | [] => c
    | line :: rest =>
      { sink := c.sink.call o (.write line)
        returned := back? (c.sink.session.write o line).1
        rest }
  | .between call _ => { c with sink := c.sink.call o call }

def run (o : Outputs σ) (turns : List Turn) (c : Caller σ) : Caller σ := turns.foldl (turn o) c

theorem turn_offer (o : Outputs σ) {c : Caller σ} {line : Bytes} {rest : List Bytes}
    (hw : c.waiting = line :: rest) :
    c.turn o .offer =
      { sink := c.sink.call o (.write line)
        returned := back? (c.sink.session.write o line).1
        rest } := by
  simp only [turn, hw]

theorem turn_offer_of_nil (o : Outputs σ) {c : Caller σ} (hw : c.waiting = []) :
    c.turn o .offer = c := by
  simp only [turn, hw]

/-- A line that is offered is accepted and no longer waits, or it comes back and is the first to
wait as before. -/
theorem offer_eq (o : Outputs σ) {c : Caller σ} {line : Bytes} {rest : List Bytes}
    (hw : c.waiting = line :: rest) :
    Admits o c.sink.session line ∧
        (c.turn o .offer).sink.accepted = c.sink.accepted ++ [line] ∧
        (c.turn o .offer).waiting = rest ∨
      ¬ Admits o c.sink.session line ∧
        (c.turn o .offer).sink.accepted = c.sink.accepted ∧
        (c.turn o .offer).waiting = line :: rest := by
  rw [turn_offer o hw, ← write_ok_iff]
  rcases hwrite : c.sink.session.write o line with ⟨rejected | _, session⟩
  · refine .inr ⟨by simp, ?_, ?_⟩
    · rw [Tracked.call_write_error hwrite]
    · simp [waiting, back?, line_of_write_error hwrite]
  · refine .inl ⟨rfl, ?_, ?_⟩
    · rw [Tracked.call_write_ok hwrite]
    · simp [waiting, back?]

theorem call_between (o : Outputs σ) (t : Tracked σ) {call : Call}
    (h : line? call = none) : (t.call o call).accepted = t.accepted := by
  cases call with
  | write line => simp [line?] at h
  | flush => rfl
  | rotate => rfl
  | close => rfl
  | pause nanos => rfl

/-- A turn brings the first lines that wait, if it brings any, and the others wait. -/
theorem turn_brings (o : Outputs σ) (c : Caller σ) (next : Turn) :
    ∃ brought, (c.turn o next).sink.accepted = c.sink.accepted ++ brought ∧
      brought ++ (c.turn o next).waiting = c.waiting := by
  cases next with
  | between call h => exact ⟨[], by simp [turn, call_between o c.sink h], rfl⟩
  | offer =>
    rcases hw : c.waiting with _ | ⟨line, rest⟩
    · rw [turn_offer_of_nil o hw]
      exact ⟨[], (List.append_nil _).symm, hw⟩
    · rcases offer_eq o hw with ⟨-, haccepted, hrest⟩ | ⟨-, haccepted, hrest⟩
      · exact ⟨[line], haccepted, by rw [hrest]; rfl⟩
      · exact ⟨[], by simpa using haccepted, hrest⟩

theorem run_brings (o : Outputs σ) (turns : List Turn) (c : Caller σ) :
    ∃ brought, (c.run o turns).sink.accepted = c.sink.accepted ++ brought ∧
      brought ++ (c.run o turns).waiting = c.waiting := by
  induction turns generalizing c with
  | nil => exact ⟨[], (List.append_nil _).symm, rfl⟩
  | cons next turns ih =>
    obtain ⟨first, haccepted, hwaiting⟩ := turn_brings o c next
    obtain ⟨others, haccepted', hwaiting'⟩ := ih (c.turn o next)
    refine ⟨first ++ others, ?_, ?_⟩
    · rw [← List.append_assoc, ← haccepted]
      exact haccepted'
    · rw [List.append_assoc, ← hwaiting, ← hwaiting']
      rfl

theorem turn_inv (hc : WriteContract o v) {c : Caller σ} (hi : c.sink.Inv v) (next : Turn) :
    (c.turn o next).sink.Inv v := by
  cases next with
  | between call _ => exact (Tracked.call_inv hc hi call).1
  | offer =>
    rcases hw : c.waiting with _ | ⟨line, rest⟩
    · rwa [turn_offer_of_nil o hw]
    · rw [turn_offer o hw]
      exact (Tracked.call_inv hc hi (.write line)).1

theorem run_inv (hc : WriteContract o v) (turns : List Turn) {c : Caller σ} (hi : c.sink.Inv v) :
    (c.run o turns).sink.Inv v := by
  induction turns generalizing c with
  | nil => exact hi
  | cons next turns ih => exact ih (turn_inv hc hi next)

end Caller

/-- A sink in any state that calls lead to. A line is rejected exactly if the sink does not admit
it, and then it comes back as it was. Without a handle nothing has changed; a handle that fails has
taken the first bytes of the queue, the others wait in it and no more than those, and the sink has
counted the failure and detached. So a caller that offers what came back before any other line has,
at every moment and whatever it calls in between, the first of its lines accepted, each once and in
order, and the others before it; and the handles and the queue hold the bytes of the accepted lines
and no others. -/
theorem write_hands_back (hc : WriteContract o v) {s : Session σ} (hs : Opened o v s)
    (calls : List Call) :
    let now := ({ session := s } : Tracked σ).run o calls
    (∀ line, (now.session.write o line).1 = .ok () ↔ Admits o now.session line) ∧
      (∀ line rejected after, now.session.write o line = (.error rejected, after) →
        rejected.line = line ∧
          ((∀ handle, now.session.sink.slot ≠ .attached handle) ∧
              rejected.error = now.session.sink.slot.unavailable ∧ after = now.session ∨
            ∃ handle cause n, now.session.sink.slot = .attached handle ∧
              rejected.error = .writeFailed cause ∧
              (now.session.drainInto o handle).1 = .error cause ∧
              Breaks v handle n now.session after)) ∧
      (∀ lines turns,
        let caller := ({ sink := now, rest := lines } : Caller σ).run o turns
        ∃ brought, caller.sink.accepted = now.accepted ++ brought ∧
          brought ++ caller.waiting = lines ∧
          caller.sink.taken v ++ caller.sink.queue.flatten ++ caller.sink.dropped.flatten
            = now.accepted.flatten ++ brought.flatten ∧
          ∀ line rest, caller.waiting = line :: rest →
            (Admits o caller.sink.session line ↔ (caller.turn o .offer).waiting = rest)) := by
  intro now
  obtain ⟨hi, -⟩ := hs.run_inv hc calls
  refine ⟨write_ok_iff o now.session, ?_, ?_⟩
  · intro line rejected after hw
    exact ⟨line_of_write_error hw, hi.write_rejected hc hw⟩
  · intro lines turns caller
    obtain ⟨brought, haccepted, hwaiting⟩ :=
      Caller.run_brings o turns { sink := now, rest := lines }
    have hi' : caller.sink.Inv v := Caller.run_inv hc turns hi
    refine ⟨brought, haccepted, hwaiting, ?_, ?_⟩
    · rw [← List.flatten_append, ← haccepted]
      exact hi'.bytes_eq
    · intro line rest hnext
      rcases Caller.offer_eq o hnext with ⟨hadmits, -, hrest⟩ | ⟨hnot, -, hrest⟩
      · exact iff_of_true hadmits hrest
      · apply iff_of_false hnot
        simp [hrest]

/-- The third line finds the first device full, then the sink detached, then detached again because
the second device does not open. -/
def patientCaller : Caller World :=
  ({ sink := { session := onUnreliable }
     rest := [[97, 98, 99, 10], [100, 101, 10], [102, 10]] } : Caller World).run World.deviceOutputs
    [ .offer, .offer, .offer, .offer, .between .rotate rfl, .offer, .between .rotate rfl, .offer ]

theorem write_hands_back_unlucky :
    let written := splitLine.session.write World.deviceOutputs [102, 10]
    ((∃ cause, written.1 = .error ⟨[102, 10], .writeFailed cause⟩) ∧
        ∃ n, Breaks World.deviceView 0 n splitLine.session written.2) ∧
      World.deviceLedger patientCaller.sink.session.outputs =
        [(0, [97, 98, 99, 10, 100]), (1, [])] ∧
      patientCaller.sink.queue = [[101, 10], [102, 10]] ∧
      patientCaller.sink.accepted = [[97, 98, 99, 10], [100, 101, 10], [102, 10]] := by
  have hwrite : (splitLine.session.write World.deviceOutputs [102, 10]).1
      = .error ⟨[102, 10], .writeFailed (.failed "device full")⟩ := by cbv
  have hslot : splitLine.session.sink.slot = .attached 0 := by cbv
  have hwaiting : patientCaller.waiting = [] := by cbv
  refine ⟨⟨⟨_, hwrite⟩, ?_⟩, by cbv, by cbv, ?_⟩
  · obtain ⟨-, hback, -⟩ := write_hands_back World.deviceOutputs_contract onUnreliable_opened
      [.write [97, 98, 99, 10], .write [100, 101, 10]]
    obtain ⟨-, ⟨hnone, -⟩ | ⟨handle, cause, n, hs, -, -, hbreaks⟩⟩ :=
      hback [102, 10] _ _ (Prod.ext hwrite rfl)
    · exact absurd hslot (hnone 0)
    · obtain rfl := handle_unique hslot hs
      exact ⟨n, hbreaks⟩
  · obtain ⟨-, -, hbring⟩ := write_hands_back World.deviceOutputs_contract onUnreliable_opened []
    obtain ⟨brought, haccepted, hall, -⟩ := hbring [[97, 98, 99, 10], [100, 101, 10], [102, 10]]
      [.offer, .offer, .offer, .offer, .between .rotate rfl, .offer, .between .rotate rfl, .offer]
    have hbrought : brought ++ patientCaller.waiting
        = [[97, 98, 99, 10], [100, 101, 10], [102, 10]] := hall
    rw [hwaiting, List.append_nil] at hbrought
    rw [← hbrought]
    exact haccepted

end Session

end RequestLog
