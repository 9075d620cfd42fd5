import RequestLog.Proofs.Loop
import RequestLog.Proofs.StateMachine

/-! A pipeline among others. Others send records, use the trigger and call the sink as they like, in
any order with the steps of the loop. All that one step can do is listed here. -/

namespace RequestLog

namespace Hub

inductive Use where
  | fire
  | close
  | subscribe
  | receive (s : Subscription)
  | unsubscribe (s : Subscription)
deriving DecidableEq, Repr

def live (hub : Hub) : List Subscription :=
  (List.range hub.seen.length).filter fun s => (hub.seen? s).isSome

/-- The hub and the subscriptions of others after a use. A hub that is gone is not fired or
subscribed to, and others only use subscriptions of their own. -/
def used (hub : Hub) (others : List Subscription) : Use → Hub × List Subscription
  | .fire => if hub.isOpen then (hub.fire.2, others) else (hub, others)
  | .close => (hub.close, others)
  | .subscribe =>
    if hub.isOpen then (hub.subscribe.2, others ++ [hub.subscribe.1]) else (hub, others)
  | .receive s => if s ∈ others then ((hub.receive s).2, others) else (hub, others)
  | .unsubscribe s =>
    if s ∈ others then (hub.unsubscribe s, others.erase s) else (hub, others)

def without (hub : Hub) : Option Subscription → Hub
  | some s => hub.unsubscribe s
  | none => hub

end Hub

namespace RunLoop

variable {σ : Type} {o : Outputs σ}

inductive Occasion where
  | work
  | send (record : Record)
  | closeSource
  | cancel
  | advance (nanos : Nat)
  /-- The sink is called by others. -/
  | sink (call : Session.Call)
  | trigger (use : Hub.Use)

inductive Deed where
  /-- It takes a record from the channel. -/
  | receive (record : Record)
  /-- It offers a line to the sink, which refuses it for a reason or accepts it. -/
  | offer (line : Bytes) (refusal : Option SinkError)

structure Scene (σ : Type) where
  loop : RunLoop σ
  /-- The subscriptions of others. -/
  others : List Subscription := []
  /-- Rotations that others asked for before the sink was closed. -/
  rotates : Nat := 0
  deeds : List Deed := []

def Phase.offered? : Phase → Option Bytes
  | .offering line => some line
  | .draining (some line) 0 => some line
  | _ => none

def refusal? (o : Outputs σ) (line : Bytes) (loop : RunLoop σ) : Option SinkError :=
  match (loop.session.write o line).1 with
  | .ok () => none
  | .error rejected => some rejected.error

/-- What the step to the next state does. At the end what is left in the channel is not taken. -/
def deedsOf (o : Outputs σ) (loop next : RunLoop σ) : List Deed :=
  let queue := loop.channel.queue
  let taken := queue.take (queue.length - next.channel.queue.length)
  (loop.phase.offered?.map fun line => .offer line (loop.refusal? o line)).toList
    ++ if next.isFinished then [] else taken.map .receive

namespace Scene

/-- A pipeline that starts. Others may have subscribed to its trigger before. -/
def start (pipeline : Pipeline σ) (trigger : Option Hub) (channel : Channel) (now : Nat) :
    Scene σ where
  loop := .start pipeline trigger channel now
  others := (trigger.map Hub.live).getD []

def callSink (o : Outputs σ) (c : Session.Call) (w : Scene σ) : Scene σ :=
  { w with
    loop :=
      { w.loop with
        session := (({ session := w.loop.session } : Session.Tracked σ).call o c).session }
    rotates :=
      if c = .rotate ∧ w.loop.session.sink.slot ≠ .closed then w.rotates + 1 else w.rotates }

def work (o : Outputs σ) (w : Scene σ) : Scene σ :=
  match w.loop.step o with
  | some next => { w with loop := next, deeds := w.deeds ++ deedsOf o w.loop next }
  | none => w

def after (o : Outputs σ) (w : Scene σ) : Occasion → Scene σ
  | .work => w.work o
  | .send record => { w with loop := (w.loop.send record).2 }
  | .closeSource => { w with loop := w.loop.closeSource }
  | .cancel => { w with loop := w.loop.cancel }
  | .advance nanos => { w with loop := w.loop.advance nanos }
  | .sink c => w.callSink o c
  | .trigger use =>
    { w with
      loop := { w.loop with hub := (w.loop.hub.used w.others use).1 }
      others := (w.loop.hub.used w.others use).2 }

def run (o : Outputs σ) (occasions : List Occasion) (w : Scene σ) : Scene σ :=
  occasions.foldl (after o) w

@[simp] theorem run_nil (o : Outputs σ) (w : Scene σ) : w.run o [] = w := rfl

@[simp] theorem run_cons (o : Outputs σ) (occasion : Occasion) (occasions : List Occasion)
    (w : Scene σ) : w.run o (occasion :: occasions) = (w.after o occasion).run o occasions := rfl

theorem run_append (o : Outputs σ) (occasions more : List Occasion) (w : Scene σ) :
    w.run o (occasions ++ more) = (w.run o occasions).run o more :=
  List.foldl_append

end Scene

/-! ### Steps -/

namespace Phase

def isWorking : Phase → Bool
  | .choosing => true
  | .offering _ => true
  | .holding _ => true
  | _ => false

/-- The loop waits, and a stop or the trigger comes before all else. -/
def isWaiting : Phase → Bool
  | .choosing => true
  | .holding _ => true
  | _ => false

/-- A line that is held is offered again once the loop has heard of the trigger. -/
def resume : Phase → Phase
  | .holding line => .offering line
  | phase => phase

@[simp] theorem line?_resume (phase : Phase) : phase.resume.line? = phase.line? := by
  cases phase <;> rfl

@[simp] theorem isWorking_resume (phase : Phase) : phase.resume.isWorking = phase.isWorking := by
  cases phase <;> rfl

theorem isWorking_of_isWaiting {phase : Phase} (h : phase.isWaiting = true) :
    phase.isWorking = true := by
  cases phase <;> first | rfl | exact h

end Phase

theorem dropSubscription_without (loop : RunLoop σ) :
    loop.dropSubscription
      = { loop with subscription := none, hub := loop.hub.without loop.subscription } := by
  unfold dropSubscription
  cases hs : loop.subscription with
  | some s => rfl
  | none =>
    simp only [Hub.without]
    rw [← hs]

inductive Stride (o : Outputs σ) (loop : RunLoop σ) : RunLoop σ → Prop where
  /-- The loop was told to stop, or no record will come any more. -/
  | stop (hp : loop.phase.isWaiting = true)
      (h : loop.isCancelled = false → loop.phase = .choosing ∧ loop.news = none ∧
        loop.channel.queue = [] ∧ loop.channel.senderGone = true) :
    Stride o loop (loop.shutDown loop.phase.line?)
  | rotate {s : Subscription} {number : Nat} {hub : Hub} (hp : loop.phase.isWaiting = true)
      (hc : loop.isCancelled = false) (hs : loop.subscription = some s)
      (hr : loop.hub.receive s = (.firing number, hub)) :
    Stride o loop
      { loop with
        hub
        counters := loop.counters.addTriggered
        session := (loop.session.rotate o).2
        phase := loop.phase.resume }
  /-- The trigger is gone. -/
  | part {s : Subscription} {hub : Hub} {events : List Event} (hp : loop.phase.isWaiting = true)
      (hc : loop.isCancelled = false) (hs : loop.subscription = some s)
      (hr : loop.hub.receive s = (.closed, hub)) :
    Stride o loop
      { loop with
        hub := hub.unsubscribe s
        subscription := none
        session := { loop.session with events }
        phase := loop.phase.resume }
  | flush {flushed : Flushed} {session : Session σ} {nextTick : Nat}
      (hp : loop.phase = .choosing) (hf : loop.session.flush o = (flushed, session))
      (hne : flushed ≠ .crashed) :
    Stride o loop { loop with session, nextTick }
  | crash {session : Session σ} {nextTick : Nat} (hp : loop.phase = .choosing)
      (hf : loop.session.flush o = (.crashed, session)) :
    Stride o loop
      { loop with
        session
        nextTick
        channel := loop.channel.drop
        subscription := none
        hub := loop.hub.without loop.subscription
        phase := .crashed }
  /-- A record of a kind that is not logged. -/
  | skip {record : Record} {rest : List Record} (hp : loop.phase = .choosing)
      (hq : loop.channel.queue = record :: rest) (ha : loop.filter.accepts record = false) :
    Stride o loop
      { loop with
        channel := { loop.channel with queue := rest }
        counters := loop.counters.addReceived.addSkipped }
  | render {record : Record} {rest : List Record} {formatter : Formatter} {events : List Event}
      {unresolved : Nat} (hp : loop.phase = .choosing) (hq : loop.channel.queue = record :: rest)
      (ha : loop.filter.accepts record = true)
      (hf : formatter.renderer = loop.formatter.renderer) :
    Stride o loop
      { loop with
        channel := { loop.channel with queue := rest }
        counters := loop.counters.addReceived.addRendered unresolved
        formatter
        session := { loop.session with events }
        phase := .offering (Utf8.encode (loop.formatter.renderer.render record)) }
  | accept {line : Bytes} {session : Session σ} (hp : loop.phase = .offering line)
      (hw : loop.session.write o line = (.ok (), session)) :
    Stride o loop
      { loop with session, counters := loop.counters.addWritten, phase := .choosing }
  | hold {line : Bytes} {error : SinkError} {session : Session σ}
      (hp : loop.phase = .offering line)
      (hw : loop.session.write o line = (.error ⟨line, error⟩, session))
      (hr : error.isRecoverable = true) :
    Stride o loop
      { loop with session, counters := loop.counters.addHeld, phase := .holding line }
  | giveUp {line : Bytes} {error : SinkError} {session : Session σ}
      (hp : loop.phase = .offering line)
      (hw : loop.session.write o line = (.error ⟨line, error⟩, session))
      (hr : error.isRecoverable = false) :
    Stride o loop (shutDown (some line) { loop with session })
  | retry {line : Bytes} (hp : loop.phase = .holding line)
      (hs : loop.session.sink.shown.isSettled = true) :
    Stride o loop { loop with phase := .offering line }
  /-- After a line that was lost the others are too. -/
  | lose {line : Bytes} {lost : Nat} (hp : loop.phase = .draining (some line) lost)
      (hl : 0 < lost) : Stride o loop { loop with phase := .draining none (lost + 1) }
  | deliver {line : Bytes} {session : Session σ} (hp : loop.phase = .draining (some line) 0)
      (hw : loop.session.write o line = (.ok (), session)) :
    Stride o loop
      { loop with session, counters := loop.counters.addWritten, phase := .draining none 0 }
  | miss {line : Bytes} {rejected : Rejected} {session : Session σ}
      (hp : loop.phase = .draining (some line) 0)
      (hw : loop.session.write o line = (.error rejected, session)) :
    Stride o loop { loop with session, phase := .draining none 1 }
  | skipLate {lost : Nat} {record : Record} {rest : List Record}
      (hp : loop.phase = .draining none lost) (hq : loop.channel.queue = record :: rest)
      (ha : loop.filter.accepts record = false) :
    Stride o loop
      { loop with
        channel := { loop.channel with queue := rest }
        counters := loop.counters.addReceived.addSkipped }
  | renderLate {lost : Nat} {record : Record} {rest : List Record} {formatter : Formatter}
      {events : List Event} {unresolved : Nat} (hp : loop.phase = .draining none lost)
      (hq : loop.channel.queue = record :: rest) (ha : loop.filter.accepts record = true)
      (hf : formatter.renderer = loop.formatter.renderer) :
    Stride o loop
      { loop with
        channel := { loop.channel with queue := rest }
        counters := loop.counters.addReceived.addRendered unresolved
        formatter
        session := { loop.session with events }
        phase := .draining (some (Utf8.encode (loop.formatter.renderer.render record))) lost }
  | conclude {lost : Nat} {events : List Event} (hp : loop.phase = .draining none lost)
      (hq : loop.channel.queue = []) :
    Stride o loop
      { loop with
        channel := loop.channel.drop
        subscription := none
        hub := loop.hub.without loop.subscription
        session := { (loop.session.close o).2 with events }
        phase := .ended (loop.finalReport o lost) }

variable {loop next : RunLoop σ} {line : Bytes}

/-- What there is to hear from the trigger. -/
theorem news_some {received : Received} (h : loop.news = some (received, next)) :
    ∃ s hub, loop.subscription = some s ∧ loop.hub.receive s = (received, hub) ∧
      received ≠ .pending ∧ next = { loop with hub } := by
  unfold news at h
  split at h
  · simp at h
  · rename_i s hs
    split at h
    · simp at h
    · rename_i found hub hne hr
      obtain ⟨rfl, rfl⟩ : found = received ∧ _ = next := by simpa using h
      exact ⟨s, hub, hs, hr, by simpa using hne, rfl⟩

/-- The loop hears of the trigger while it waits. -/
theorem Stride.hear {received : Received} (hp : loop.phase.isWaiting = true)
    (hc : loop.isCancelled = false) (hn : loop.news = some (received, next)) :
    Stride o loop { next.react o received with phase := loop.phase.resume } := by
  obtain ⟨s, hub, hs, hr, hne, rfl⟩ := news_some hn
  cases received with
  | firing number => exact .rotate hp hc hs hr
  | closed =>
    simp only [react, dropSubscription_without, hs, Hub.without]
    exact .part hp hc hs hr
  | pending => exact absurd rfl hne

theorem Stride.take {record : Record} {rest : List Record} (hp : loop.phase = .choosing)
    (hq : loop.channel.queue = record :: rest) : Stride o loop (loop.take record rest) := by
  unfold RunLoop.take
  cases ha : loop.filter.accepts record with
  | false =>
    rw [@process_of_not_accepts _ record
      { loop with channel := { loop.channel with queue := rest } } ha]
    exact .skip hp hq ha
  | true =>
    obtain ⟨formatter, events, unresolved, hf, heq⟩ :=
      process_of_accepts { loop with channel := { loop.channel with queue := rest } } ha
    rw [heq]
    exact .render hp hq ha hf

theorem Stride.ofFlush (hp : loop.phase = .choosing) : Stride o loop (loop.flush o) := by
  unfold RunLoop.flush
  dsimp only
  rcases hf : loop.session.flush o with ⟨_ | _ | _, session⟩
  · exact .flush hp hf (by simp)
  · exact .flush hp hf (by simp)
  · simp only [RunLoop.crash, dropSubscription_without]
    exact .crash hp hf

theorem Stride.offer (hp : loop.phase = .offering line) : Stride o loop (loop.offer o line) := by
  unfold RunLoop.offer
  rcases hw : loop.session.write o line with ⟨⟨refused, error⟩ | _, session⟩
  · obtain rfl : refused = line := Session.line_of_write_error hw
    cases hr : error.isRecoverable with
    | true =>
      simp only [hr, if_true]
      exact .hold hp hw hr
    | false =>
      simp only [hr, Bool.false_eq_true, if_false]
      exact .giveUp hp hw hr
  · exact .accept hp hw

theorem reportLost_eq (undelivered : Nat) (session : Session σ) (name : String) :
    ∃ events, reportLost undelivered session name = { session with events } := by
  unfold reportLost
  split <;> exact ⟨_, rfl⟩

theorem Stride.drain {left : Option Bytes} {lost : Nat} (hp : loop.phase = .draining left lost) :
    Stride o loop (loop.drain o left lost) := by
  unfold RunLoop.drain
  cases left with
  | some line =>
    unfold RunLoop.deliver
    dsimp only
    by_cases hl : 0 < lost
    · rw [if_pos hl]
      exact .lose hp hl
    · obtain rfl : lost = 0 := by omega
      rcases hw : loop.session.write o line with ⟨rejected | _, session⟩
      · exact .miss hp hw
      · exact .deliver hp hw
  | none =>
    cases hq : loop.channel.queue with
    | cons record rest =>
      dsimp only
      cases ha : loop.filter.accepts record with
      | false =>
        rw [@process_of_not_accepts _ record
          { loop with channel := { loop.channel with queue := rest } } ha]
        have hstride : Stride o loop _ := .skipLate hp hq ha
        rwa [hp] at hstride
      | true =>
        obtain ⟨formatter, events, unresolved, hf, heq⟩ :=
          process_of_accepts { loop with channel := { loop.channel with queue := rest } } ha
        rw [heq]
        exact .renderLate hp hq ha hf
    | nil =>
      obtain ⟨events, heq⟩ := reportLost_eq (loop.finalReport o lost).undelivered
        (loop.session.close o).2 loop.settings.name
      have hstride := @Stride.conclude _ o loop lost events hp hq
      rw [← heq] at hstride
      unfold RunLoop.conclude
      rw [dropSubscription_without]
      exact hstride

theorem stride_of_choose (hp : loop.phase = .choosing) (h : loop.choose o = some next) :
    Stride o loop next := by
  have hwaits : loop.phase.isWaiting = true := by rw [hp]; rfl
  have hline : loop.phase.line? = none := by rw [hp]; rfl
  have hresume : loop.phase.resume = loop.phase := by rw [hp]; rfl
  unfold choose at h
  cases hc : loop.isCancelled with
  | true =>
    obtain rfl : loop.shutDown none = next := by simpa [hc] using h
    rw [← hline]
    exact .stop hwaits (by simp [hc])
  | false =>
    cases hn : loop.news with
    | some heard =>
      obtain ⟨received, after⟩ := heard
      obtain rfl : after.react o received = next := by simpa [hc, hn] using h
      have hstride : Stride o loop _ := .hear hwaits hc hn
      obtain ⟨hub, rfl⟩ := news_eq hn
      obtain ⟨_, _, _, _, heq⟩ := react_eq o received { loop with hub }
      rw [heq] at hstride ⊢
      rwa [hresume] at hstride
    | none =>
      by_cases ht : loop.nextTick ≤ loop.now
      · obtain rfl : loop.flush o = next := by simpa [hc, hn, ht] using h
        exact .ofFlush hp
      · cases hq : loop.channel.queue with
        | cons record rest =>
          obtain rfl : loop.take record rest = next := by simpa [hc, hn, ht, hq] using h
          exact .take hp hq
        | nil =>
          obtain ⟨hgone, rfl⟩ : loop.channel.senderGone = true ∧ loop.shutDown none = next := by
            simpa [hc, hn, ht, hq] using h
          rw [← hline]
          exact .stop hwaits fun _ => ⟨hp, hn, hq, hgone⟩

theorem stride_of_hold (hp : loop.phase = .holding line) (h : loop.hold o line = some next) :
    Stride o loop next := by
  have hwaits : loop.phase.isWaiting = true := by rw [hp]; rfl
  have hline : loop.phase.line? = some line := by rw [hp]; rfl
  have hresume : loop.phase.resume = .offering line := by rw [hp]; rfl
  unfold RunLoop.hold at h
  cases hc : loop.isCancelled with
  | true =>
    obtain rfl : loop.shutDown (some line) = next := by simpa [hc] using h
    rw [← hline]
    exact .stop hwaits (by simp [hc])
  | false =>
    cases hn : loop.news with
    | some heard =>
      obtain ⟨received, after⟩ := heard
      obtain rfl : { after.react o received with phase := .offering line } = next := by
        simpa [hc, hn] using h
      rw [← hresume]
      exact .hear hwaits hc hn
    | none =>
      obtain ⟨hs, rfl⟩ : loop.session.sink.shown.isSettled = true ∧
          { loop with phase := .offering line } = next := by simpa [hc, hn] using h
      exact .retry hp hs

/-- A step does one of these things. -/
theorem stride_of_step (h : loop.step o = some next) : Stride o loop next := by
  unfold step at h
  cases hp : loop.phase with
  | choosing => exact stride_of_choose hp (by simpa [hp] using h)
  | offering line =>
    obtain rfl : loop.offer o line = next := by simpa [hp] using h
    exact .offer hp
  | holding line => exact stride_of_hold hp (by simpa [hp] using h)
  | draining line lost =>
    obtain rfl : loop.drain o line lost = next := by simpa [hp] using h
    exact .drain hp
  | ended report => simp [hp] at h
  | crashed => simp [hp] at h

/-- The end is not undone. -/
theorem Stride.isWorking (h : Stride o loop next) (hgo : next.phase.isWorking = true) :
    loop.phase.isWorking = true := by
  cases h with
  | stop hp _ => exact Phase.isWorking_of_isWaiting hp
  | rotate hp _ _ _ => exact Phase.isWorking_of_isWaiting hp
  | part hp _ _ _ => exact Phase.isWorking_of_isWaiting hp
  | _ => simp_all [Phase.isWorking]

/-- The end begins with the line at hand, unless a crash leaves no end to come. -/
theorem Stride.ends (h : Stride o loop next) (hw : loop.phase.isWorking = true)
    (hend : next.phase.isWorking = false) :
    next.counters = loop.counters ∧
      (next.phase = .draining loop.phase.line? 0 ∨
        loop.phase = .choosing ∧ next.phase = .crashed) := by
  cases h with
  | stop _ _ => exact ⟨rfl, .inl rfl⟩
  | crash hp _ => exact ⟨rfl, .inr ⟨hp, rfl⟩⟩
  | giveUp hp _ _ => exact ⟨rfl, .inl (by rw [hp]; rfl)⟩
  | rotate hp _ _ _ => simp [hw] at hend
  | part hp _ _ _ => simp [hw] at hend
  | flush _ _ _ => exact absurd hw (by simp [hend])
  | skip _ _ _ => exact absurd hw (by simp [hend])
  | _ => simp_all [Phase.isWorking]

namespace Scene

variable {w : Scene σ}

/-- What holds at first and is kept by all that happens holds at last. -/
theorem run_keeps {P : Scene σ → Prop} {occasions : List Occasion} (h : P w)
    (hkeeps : ∀ w, P w → ∀ occasion ∈ occasions, P (w.after o occasion)) :
    P (w.run o occasions) :=
  List.foldlRecOn occasions (after o) h hkeeps

theorem work_some (h : w.loop.step o = some next) :
    w.work o = { w with loop := next, deeds := w.deeds ++ deedsOf o w.loop next } := by
  simp [work, h]

theorem work_none (h : w.loop.step o = none) : w.work o = w := by
  simp [work, h]

/-- The loop rests or strides. -/
theorem work_cases (o : Outputs σ) (w : Scene σ) :
    w.work o = w ∨ ∃ next, Stride o w.loop next ∧
      w.work o = { w with loop := next, deeds := w.deeds ++ deedsOf o w.loop next } := by
  cases hstep : w.loop.step o with
  | none => exact .inl (work_none hstep)
  | some next => exact .inr ⟨next, stride_of_step hstep, work_some hstep⟩

/-- Others touch nothing of the loop but what they share with it. -/
theorem after_frame (o : Outputs σ) (w : Scene σ) {occasion : Occasion} (h : occasion ≠ .work) :
    (w.after o occasion).deeds = w.deeds ∧
      ∃ channel isCancelled now session hub,
        (w.after o occasion).loop = { w.loop with channel, isCancelled, now, session, hub } := by
  cases occasion with
  | work => exact absurd rfl h
  | _ => exact ⟨rfl, _, _, _, _, _, rfl⟩

theorem isWorking_of_after {occasion : Occasion}
    (h : (w.after o occasion).loop.phase.isWorking = true) : w.loop.phase.isWorking = true := by
  by_cases hwork : occasion = .work
  · subst hwork
    rcases w.work_cases o with hrest | ⟨next, hstride, hwork⟩
    · rwa [after, hrest] at h
    · rw [after, hwork] at h
      exact hstride.isWorking h
  · obtain ⟨-, _, _, _, _, _, heq⟩ := w.after_frame o hwork
    rwa [heq] at h

theorem isWorking_of_run {occasions : List Occasion}
    (h : (w.run o occasions).loop.phase.isWorking = true) : w.loop.phase.isWorking = true := by
  induction occasions generalizing w with
  | nil => exact h
  | cons occasion occasions ih => exact isWorking_of_after (ih h)

end Scene

end RunLoop

end RequestLog
