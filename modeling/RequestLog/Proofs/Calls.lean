import RequestLog.Proofs.Account
import RequestLog.Proofs.Devices
import Mathlib

/-! Callers of a sink. Whatever they call and whatever the outputs do, the lines that were accepted
are taken in order, still queued or given up at the close, and the counters say how many of each. -/

namespace RequestLog

namespace Session

open Sink.Pending (completed)

variable {σ : Type} {o : Outputs σ} {v : View σ}

/-- A sink right after it was opened: at a path, or on a stream that has taken nothing yet. -/
inductive Opened (o : Outputs σ) (v : View σ) : Session σ → Prop where
  | path {name path : String} {bufferSize : Nat} {outputs rest : σ} {s : Session σ}
      (hv : v.valid outputs) (hl : v.ledger outputs = [])
      (h : openAt o { name, bufferSize } path outputs = (.ok s, rest)) : Opened o v s
  | stream (name : String) (bufferSize : Nat) {stream : Handle} {outputs : σ}
      (hv : v.valid outputs) (hl : v.ledger outputs = [(stream, [])]) :
    Opened o v (start { name, bufferSize } stream outputs)

theorem start_inv {sink : Sink} (hp : sink.pending = {}) (hc : sink.counters = {}) {handle : Handle}
    {outputs : σ} (hv : v.valid outputs) (hl : v.ledger outputs = [(handle, [])]) :
    Inv v [] [] (start sink handle outputs) where
  valid := hv
  opened := by simp [start, hl]
  progress := by
    simp only [start, hp, hc, hl, Ledger.bytes_singleton, List.append_nil]
    exact .nil
  lines_ne_nil := by simp [start, hp]
  bytesWritten := by simp [start, hc, hl, Sink.Counters.addOpen]
  linesDropped := by simp [start, hc, Sink.Counters.addOpen]
  attached := by
    intro handle' hs
    obtain rfl : handle = handle' := by simpa [start] using hs
    exact ⟨[], [], hl, by simp [Ledger.handles]⟩
  closed := by simp [start]
  notClosed := fun _ => rfl

theorem Opened.inv (hc : WriteContract o v) {s : Session σ} (hs : Opened o v s) :
    Inv v [] [] s ∧ s.sink.slot ≠ .closed := by
  cases hs with
  | @path name path bufferSize outputs rest s hv hl h =>
    obtain ⟨handle, ho, rfl⟩ := openAt_ok h
    obtain ⟨hv', -, hl'⟩ := hc.opened hv ho
    exact ⟨start_inv rfl rfl hv' (by rw [hl', hl]; rfl), by simp [start]⟩
  | stream name bufferSize hv hl => exact ⟨start_inv rfl rfl hv hl, by simp [start]⟩

inductive Call where
  | write (line : Bytes)
  | flush
  | rotate
  | close
  /-- Nothing is called for a while. -/
  | pause (nanos : Nat)
deriving DecidableEq, Repr

/-- A sink with the lines that it accepted and those that it gave up, in their order. -/
structure Tracked (σ : Type) where
  session : Session σ
  accepted : List Bytes := []
  dropped : List Bytes := []

namespace Tracked

def call (o : Outputs σ) (t : Tracked σ) : Call → Tracked σ
  | .write line =>
    match t.session.write o line with
    | (.ok (), session) => { t with session, accepted := t.accepted ++ [line] }
    | (.error _, session) => { t with session }
  | .flush => { t with session := (t.session.flush o).2 }
  | .rotate => { t with session := (t.session.rotate o).2 }
  | .close =>
    { t with session := (t.session.close o).2, dropped := t.dropped ++ t.session.givenUp o }
  | .pause nanos => { t with session := t.session.elapse nanos }

def run (o : Outputs σ) (calls : List Call) (t : Tracked σ) : Tracked σ := calls.foldl (call o) t

def taken (v : View σ) (t : Tracked σ) : Bytes := (v.ledger t.session.outputs).bytes

def Inv (v : View σ) (t : Tracked σ) : Prop := t.session.Inv v t.accepted t.dropped

theorem call_write_ok {t : Tracked σ} {line : Bytes} {session : Session σ}
    (h : t.session.write o line = (.ok (), session)) :
    t.call o (.write line) = { t with session, accepted := t.accepted ++ [line] } := by
  simp [call, h]

theorem call_write_error {t : Tracked σ} {line : Bytes} {rejected : Rejected} {session : Session σ}
    (h : t.session.write o line = (.error rejected, session)) :
    t.call o (.write line) = { t with session } := by
  simp [call, h]

theorem call_inv (hc : WriteContract o v) {t : Tracked σ} (hi : t.Inv v) (c : Call) :
    (t.call o c).Inv v ∧
      (v.ledger (t.call o c).session.outputs).Follows (v.ledger t.session.outputs) := by
  cases c with
  | write line =>
    rcases hw : t.session.write o line with ⟨rejected | _, session⟩
    · obtain ⟨-, hi', hf⟩ := Session.Inv.write_error hc hi hw
      rw [call_write_error hw]
      exact ⟨hi', hf⟩
    · rw [call_write_ok hw]
      exact Session.Inv.write_ok hc hi hw
  | flush => exact Session.Inv.flush hc hi
  | rotate => exact Session.Inv.rotate hc hi
  | close =>
    exact Session.Inv.close hc hi
  | pause nanos =>
    have hsame : Same v t.session (t.session.elapse nanos) := { Same.refl hi.valid with }
    exact ⟨Session.Inv.same hi hsame rfl, Ledger.follows_refl hi.opened⟩

theorem run_inv (hc : WriteContract o v) (calls : List Call) {t : Tracked σ} (hi : t.Inv v) :
    (t.run o calls).Inv v ∧
      (v.ledger (t.run o calls).session.outputs).Follows (v.ledger t.session.outputs) := by
  induction calls generalizing t with
  | nil => exact ⟨hi, Ledger.follows_refl hi.opened⟩
  | cons c calls ih =>
    obtain ⟨hi', hf⟩ := call_inv hc hi c
    obtain ⟨hrun, hf'⟩ := ih hi'
    exact ⟨hrun, hf'.trans hf⟩

theorem run_append (o : Outputs σ) (calls more : List Call) (t : Tracked σ) :
    t.run o (calls ++ more) = (t.run o calls).run o more :=
  List.foldl_append

theorem call_closed_iff (o : Outputs σ) (t : Tracked σ) (c : Call) :
    (t.call o c).session.sink.slot = .closed ↔ t.session.sink.slot = .closed ∨ c = .close := by
  cases c with
  | write line =>
    have hiff := write_closed_iff o line t.session
    rcases hw : t.session.write o line with ⟨rejected | _, session⟩
    · simpa [call_write_error hw, hw] using hiff
    · simpa [call_write_ok hw, hw] using hiff
  | flush => simpa [call] using flush_closed_iff o t.session
  | rotate => simpa [call] using rotate_closed_iff o t.session
  | close => simp [call, close_slot]
  | pause nanos => simp [call, elapse]

/-- A sink is closed exactly if a close was among the calls. -/
theorem run_closed_iff (o : Outputs σ) (calls : List Call) (t : Tracked σ) :
    (t.run o calls).session.sink.slot = .closed ↔
      t.session.sink.slot = .closed ∨ .close ∈ calls := by
  induction calls generalizing t with
  | nil => simp [run]
  | cons c calls ih =>
    rw [show t.run o (c :: calls) = (t.call o c).run o calls from rfl, ih, call_closed_iff,
      List.mem_cons, or_assoc, @eq_comm _ c]

end Tracked

/-- What is known of a sink after any calls. -/
theorem Opened.run_inv (hc : WriteContract o v) {s : Session σ} (hs : Opened o v s)
    (calls : List Call) :
    (({ session := s } : Tracked σ).run o calls).Inv v ∧
      ((({ session := s } : Tracked σ).run o calls).session.sink.slot = .closed ↔
        .close ∈ calls) := by
  obtain ⟨hi, hopen⟩ := hs.inv hc
  have hclosed := Tracked.run_closed_iff o calls { session := s }
  exact ⟨(Tracked.run_inv hc calls (t := { session := s }) hi).1, by simpa [hopen] using hclosed⟩

/-- The first device is interrupted, takes little at a time and runs full within a line, the second
does not open, and the third runs full before the close. -/
def unreliable : World :=
  { devices :=
      [ { budget := some 5, chunk := some 2, interrupts := 1 },
        { openError := some "no such device" },
        { budget := some 3, vectored := true } ] }

def onUnreliable : Session World :=
  start { name := "access_log", bufferSize := 4, path := some "access.log" } 0
    { unreliable with used := 1, handles := [{ backing := .device 0 }] }

theorem onUnreliable_opened : Opened World.deviceOutputs World.deviceView onUnreliable :=
  .path (World.onDevices_of_unused (by simp)) rfl
    (show openAt World.deviceOutputs _ "access.log" unreliable = (.ok onUnreliable, _) from rfl)

/-- A line is split between two outputs, one is rejected, and the end of one is given up. -/
def unluckyCalls : List Call :=
  [ .write [97, 98, 99, 10], .write [100, 101, 10], .flush, .write [0], .rotate, .rotate,
    .write [102, 10], .flush, .close ]

def unluckyEnd : Tracked World :=
  ({ session := onUnreliable } : Tracked World).run World.deviceOutputs unluckyCalls

/-! ### Conservation and order -/

/-- No byte is lost, repeated or moved. At every moment the bytes taken by the handles, one handle
after the other, then those still queued, then those given up, are the bytes of the accepted lines;
and of the handles there are, only the last takes more from then on. -/
theorem run_conserves (hc : WriteContract o v) {s : Session σ} (hs : Opened o v s)
    (calls more : List Call) :
    let now := ({ session := s } : Tracked σ).run o calls
    let later := ({ session := s } : Tracked σ).run o (calls ++ more)
    now.taken v ++ now.session.sink.pending.lines.flatten ++ now.dropped.flatten
        = now.accepted.flatten ∧
      (.close ∉ calls → now.dropped = []) ∧
      (.close ∈ calls → now.session.sink.pending.lines = []) ∧
      (v.ledger later.session.outputs).Follows (v.ledger now.session.outputs) := by
  obtain ⟨hi, hclosed⟩ := hs.run_inv hc calls
  refine ⟨?_, fun hopen => hi.notClosed (mt hclosed.1 hopen), fun h => hi.closed (hclosed.2 h), ?_⟩
  · have hbytes := hi.progress.append_flatten
    rwa [flatten_nonEmpty, List.flatten_append, ← List.append_assoc] at hbytes
  · rw [Tracked.run_append]
    exact (Tracked.run_inv hc more hi).2

theorem run_conserves_unlucky :
    unluckyEnd.accepted = [[97, 98, 99, 10], [100, 101, 10], [102, 10]] ∧
      World.deviceLedger unluckyEnd.session.outputs
        = [(0, [97, 98, 99, 10, 100]), (1, [101, 10, 102])] ∧
      unluckyEnd.dropped = [[10]] ∧
      unluckyEnd.taken World.deviceView ++ unluckyEnd.session.sink.pending.lines.flatten
        ++ unluckyEnd.dropped.flatten = unluckyEnd.accepted.flatten := by
  refine ⟨by cbv, by cbv, by cbv, ?_⟩
  exact (run_conserves World.deviceOutputs_contract onUnreliable_opened unluckyCalls []).1

/-! ### Counters -/

/-- The counters at every moment. A line counts as written once its last byte is taken, however many
calls and handles that took. -/
theorem run_counts (hc : WriteContract o v) {s : Session σ} (hs : Opened o v s)
    (calls : List Call) :
    let now := ({ session := s } : Tracked σ).run o calls
    let counters := now.session.sink.counters
    counters.bytesWritten = (now.taken v).length ∧
      counters.linesWritten = completed (nonEmpty now.accepted) (now.taken v) ∧
      (nonEmpty now.accepted).length
        = counters.linesWritten + now.session.sink.pending.lines.length + counters.linesDropped ∧
      (.close ∉ calls → counters.linesDropped = 0) ∧
      (.close ∈ calls → now.session.sink.pending.lines = [] ∧
        (nonEmpty now.accepted).length = counters.linesWritten + counters.linesDropped ∧
        (now.call o .close).session = now.session) := by
  obtain ⟨hi, hclosed⟩ := hs.run_inv hc calls
  have hlines := hi.progress.length_eq
  rw [List.length_append, ← hi.linesDropped, ← Nat.add_assoc] at hlines
  refine ⟨hi.bytesWritten, (hi.progress.completed_eq hi.lines_ne_nil).symm, hlines, ?_, ?_⟩
  · intro hopen
    rw [hi.linesDropped, hi.notClosed (mt hclosed.1 hopen), List.length_nil]
  · intro h
    have hempty := hi.closed (hclosed.2 h)
    refine ⟨hempty, by simpa [hempty] using hlines, ?_⟩
    simp only [Tracked.call, close_of_closed o (hclosed.2 h)]

theorem run_counts_unlucky :
    unluckyEnd.session.sink.counters.linesWritten = 2 ∧
      unluckyEnd.session.sink.counters.linesDropped = 1 ∧
      unluckyEnd.session.sink.counters.bytesWritten = (unluckyEnd.taken World.deviceView).length ∧
      (unluckyEnd.call World.deviceOutputs .close).session = unluckyEnd.session := by
  obtain ⟨hbytes, -, -, -, hclosed⟩ :=
    run_counts World.deviceOutputs_contract onUnreliable_opened unluckyCalls
  exact ⟨by cbv, by cbv, hbytes, (hclosed (by decide)).2.2⟩

end Session

end RequestLog
