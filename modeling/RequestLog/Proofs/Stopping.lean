import RequestLog.Proofs.Loop

/-! Stopping. A loop that was told to stop comes to its end within the steps that it is given,
unless it has crashed; one that was not told to goes on as long as it can be sent something. -/

namespace RequestLog

namespace RunLoop

variable {σ : Type} {o : Outputs σ} {loop next : RunLoop σ}

/-! ### The end comes -/

/-- Steps that a loop told to stop still takes at most: two for each record, and a few before. -/
def remaining (loop : RunLoop σ) : Nat :=
  match loop.phase with
  | .choosing => 2 * loop.channel.queue.length + 2
  | .offering _ => 2 * loop.channel.queue.length + 4
  | .holding _ => 2 * loop.channel.queue.length + 3
  | .draining (some _) _ => 2 * loop.channel.queue.length + 2
  | .draining none _ => 2 * loop.channel.queue.length + 1
  | .ended _ => 0
  | .crashed => 0

theorem deliver_stops (o : Outputs σ) (line : Bytes) (lost : Nat) (loop : RunLoop σ) :
    (loop.deliver o line lost).channel = loop.channel ∧
      (loop.deliver o line lost).isCancelled = loop.isCancelled ∧
      ∃ lost', (loop.deliver o line lost).phase = .draining none lost' := by
  unfold deliver
  split
  · exact ⟨rfl, rfl, _, rfl⟩
  · rcases loop.session.write o line with ⟨rejected | _, session⟩ <;> exact ⟨rfl, rfl, _, rfl⟩

theorem drain_stops (o : Outputs σ) (line : Option Bytes) (lost : Nat)
    (hp : loop.phase = .draining line lost) (hc : loop.isCancelled = true) :
    (loop.drain o line lost).isCancelled = true ∧ (loop.drain o line lost).phase ≠ .crashed ∧
      (loop.drain o line lost).remaining < loop.remaining := by
  unfold drain
  cases line with
  | some line =>
    obtain ⟨hchannel, hcancel, lost', hphase⟩ := loop.deliver_stops o line lost
    refine ⟨hcancel.trans hc, by simp [hphase], ?_⟩
    simp only [remaining, hp, hphase, hchannel]
    omega
  | none =>
    cases hq : loop.channel.queue with
    | nil =>
      obtain ⟨hub, heq⟩ := conclude_eq o lost loop
      simp only [heq, remaining, hp, hq]
      exact ⟨hc, by simp, by omega⟩
    | cons record rest =>
      obtain ⟨_, _, _, heq⟩ := process_eq record
        { loop with channel := { loop.channel with queue := rest } }
      rcases hprocess : process record
        { loop with channel := { loop.channel with queue := rest } } with ⟨line?, after⟩
      rw [hprocess] at heq
      obtain rfl : after = _ := heq
      simp only [hprocess]
      refine ⟨hc, by simp, ?_⟩
      simp only [remaining, hp, hq, List.length_cons]
      cases line? with
      | none => simp only; omega
      | some line => simp only; omega

/-- A step of a loop that was told to stop is one towards its end. -/
theorem step_stops (o : Outputs σ) (hc : loop.isCancelled = true) (hgo : loop.isFinished = false) :
    ∃ next, loop.step o = some next ∧ next.isCancelled = true ∧ next.phase ≠ .crashed ∧
      next.remaining < loop.remaining := by
  unfold step
  cases hp : loop.phase with
  | choosing =>
    refine ⟨loop.shutDown none, by simp [choose, hc], hc, by simp [shutDown], ?_⟩
    simp only [remaining, hp, shutDown, Channel.close]
    omega
  | offering line =>
    refine ⟨_, rfl, ?_⟩
    unfold offer
    rcases loop.session.write o line with ⟨rejected | _, session⟩
    · dsimp only
      split
      · refine ⟨hc, by simp, ?_⟩
        simp only [remaining, hp]
        omega
      · refine ⟨hc, by simp [shutDown], ?_⟩
        simp only [remaining, hp, shutDown, Channel.close]
        omega
    · refine ⟨hc, by simp, ?_⟩
      simp only [remaining, hp, countWritten]
      omega
  | holding line =>
    refine ⟨loop.shutDown (some line), by simp [hold, hc], hc, by simp [shutDown], ?_⟩
    simp only [remaining, hp, shutDown, Channel.close]
    omega
  | draining line lost => exact ⟨_, rfl, drain_stops o line lost hp hc⟩
  | ended report => simp [isFinished, hp] at hgo
  | crashed => simp [isFinished, hp] at hgo

theorem steps_of_ended {report : StopReport} (hp : loop.phase = .ended report) (n : Nat) :
    loop.steps o n = loop := by
  cases n with
  | zero => rfl
  | succ n => simp [steps, step, hp]

theorem steps_end (n : Nat) (hc : loop.isCancelled = true) (hp : loop.phase ≠ .crashed)
    (hn : loop.remaining ≤ n) : ∃ report, (loop.steps o n).phase = .ended report := by
  induction n generalizing loop with
  | zero =>
    cases hphase : loop.phase with
    | ended report => exact ⟨report, hphase⟩
    | crashed => exact absurd hphase hp
    | draining line lost => cases line <;> simp [remaining, hphase] at hn
    | _ => simp [remaining, hphase] at hn
  | succ n ih =>
    cases hgo : loop.isFinished with
    | false =>
      obtain ⟨next, hstep, hc', hp', hlt⟩ := step_stops o hc hgo
      simp only [steps, hstep]
      exact ih hc' hp' (by omega)
    | true =>
      unfold isFinished at hgo
      split at hgo
      · rename_i report hphase
        exact ⟨report, by rw [steps_of_ended hphase, hphase]⟩
      · rename_i hphase
        exact absurd hphase hp
      · simp at hgo

/-- A loop that has not crashed can be stopped at every moment, and then gives its report. -/
theorem stop_reports (o : Outputs σ) (hp : loop.phase ≠ .crashed) :
    ∃ report, (loop.stop o).1 = .ok report := by
  have hle : loop.cancel.remaining ≤ loop.cancel.effort := by
    simp only [remaining, effort]
    split <;> omega
  have hend : ∃ report, (loop.cancel.steps o loop.cancel.effort).phase = .ended report :=
    steps_end _ rfl hp hle
  obtain ⟨report, hend⟩ := hend
  exact ⟨report, by simp [stop, settle, RunLoop.report, hend]⟩

theorem Accounted.steps {P : List Bytes → Session σ → Prop} {filter : KindFilter}
    {renderer : Renderer} (hk : Keeps o P) (n : Nat) {w : Observed σ}
    (h : Accounted o P filter renderer w) :
    Accounted o P filter renderer { w with loop := w.loop.steps o n } := by
  induction n generalizing w with
  | zero => exact h
  | succ n ih =>
    unfold RunLoop.steps
    cases hn : w.loop.step o with
    | none => exact h
    | some next => exact ih (h.work hk hn)

/-- A stop keeps the account. -/
theorem Accounted.stop {P : List Bytes → Session σ → Prop} {filter : KindFilter}
    {renderer : Renderer} (hk : Keeps o P) {w : Observed σ} (h : Accounted o P filter renderer w) :
    Accounted o P filter renderer { w with loop := (w.loop.stop o).2 } :=
  (h.frame true _ _ _).steps hk _

/-! ### Going on -/

structure Unstopped (loop : RunLoop σ) : Prop where
  notCancelled : loop.isCancelled = false
  sending : loop.channel.senderGone = false
  receiving : loop.channel.isClosed = false
  phase : loop.phase = .choosing ∨ ∃ line, loop.phase = .offering line

/-- While its sink rejects nothing and does not crash, such a loop goes on. -/
theorem Unstopped.work {P : List Bytes → Session σ → Prop} {filter : KindFilter}
    {renderer : Renderer} {records : List Record} {accepted lost : List Bytes} {w : Observed σ}
    (hrej : ¬ Rejects o P) (hcrash : ¬ Crashes o P) (hu : w.loop.Unstopped)
    (h : Running o P filter renderer records accepted lost w) (hn : w.loop.step o = some next) :
    next.Unstopped := by
  rcases hu with ⟨hc, hsend, hrec, hp | ⟨line, hp⟩⟩
  · simp only [step, hp, choose, hc, Bool.false_eq_true, if_false] at hn
    split at hn
    · rename_i received after hnews
      obtain rfl := Option.some.inj hn
      obtain ⟨hub, rfl⟩ := news_eq hnews
      obtain ⟨_, _, _, _, heq⟩ := react_eq o received { w.loop with hub }
      rw [heq]
      exact ⟨hc, hsend, hrec, .inl hp⟩
    · split at hn
      · obtain rfl := Option.some.inj hn
        unfold RunLoop.flush
        dsimp only
        rcases hf : w.loop.session.flush o with ⟨_ | _ | _, session⟩
        · exact ⟨hc, hsend, hrec, .inl hp⟩
        · exact ⟨hc, hsend, hrec, .inl hp⟩
        · exact absurd ⟨_, _, _, h.session, hf⟩ hcrash
      · split at hn
        · rename_i record rest hq
          obtain rfl := Option.some.inj hn
          obtain ⟨_, _, _, heq⟩ := process_eq record
            { w.loop with channel := { w.loop.channel with queue := rest } }
          unfold RunLoop.take
          split
          · rename_i line after hprocess
            rw [hprocess] at heq
            obtain rfl : after = _ := heq
            exact ⟨hc, hsend, hrec, .inr ⟨line, rfl⟩⟩
          · rename_i after hprocess
            rw [hprocess] at heq
            obtain rfl : after = _ := heq
            exact ⟨hc, hsend, hrec, .inl hp⟩
        · simp [hsend] at hn
  · simp only [step, hp] at hn
    obtain rfl := Option.some.inj hn
    unfold offer
    rcases hw : w.loop.session.write o line with ⟨rejected | _, session⟩
    · exact absurd ⟨_, _, _, _, _, h.session, hw⟩ hrej
    · exact ⟨hc, hsend, hrec, .inl rfl⟩

end RunLoop

end RequestLog
