import RequestLog.Proofs.Operations
import RequestLog.Pipeline.RunLoop

/-! The loop of a pipeline among all that can happen around it. Every record that was sent waits,
was passed over, or is a line that the sink accepted, that is at hand, or that was lost at the
end. -/

namespace RequestLog

namespace RunLoop

variable {σ : Type} {o : Outputs σ}

def linesOf (filter : KindFilter) (renderer : Renderer) (records : List Record) : List Bytes :=
  (records.filter filter.accepts).map fun record => Utf8.encode (renderer.render record)

@[simp] theorem linesOf_append (filter : KindFilter) (renderer : Renderer) (rs rs' : List Record) :
    linesOf filter renderer (rs ++ rs') =
      linesOf filter renderer rs ++ linesOf filter renderer rs' := by
  simp [linesOf]

/-! ### What can happen -/

/-- Something that happens: a step of the loop, or a change around it. Nobody but the loop writes to
the sink or closes it. -/
inductive Happening where
  | work
  | send (record : Record)
  | closeSource
  | cancel
  | advance (nanos : Nat)
  | elapse (nanos : Nat)
  /-- The trigger is fired, closed, or used by others. -/
  | trigger (change : Hub → Hub)
  | flush
  | rotate

/-- A loop with the records that its channel accepted. -/
structure Observed (σ : Type) where
  loop : RunLoop σ
  sent : List Record

namespace Observed

def after (o : Outputs σ) (w : Observed σ) : Happening → Observed σ
  | .work => { w with loop := (w.loop.step o).getD w.loop }
  | .send record =>
    match w.loop.send record with
    | (.sent, loop) => { loop, sent := w.sent ++ [record] }
    | (_, loop) => { w with loop }
  | .closeSource => { w with loop := w.loop.closeSource }
  | .cancel => { w with loop := w.loop.cancel }
  | .advance nanos => { w with loop := w.loop.advance nanos }
  | .elapse nanos => { w with loop := w.loop.elapse nanos }
  | .trigger change => { w with loop := { w.loop with hub := change w.loop.hub } }
  | .flush => { w with loop := (w.loop.onSink (Session.flush o)).2 }
  | .rotate => { w with loop := (w.loop.onSink (Session.rotate o)).2 }

def run (o : Outputs σ) (happenings : List Happening) (w : Observed σ) : Observed σ :=
  happenings.foldl (after o) w

end Observed

/-! ### The tally -/

/-- What is kept of a sink and the lines that it accepted by all that happens before it is
closed. -/
structure Keeps (o : Outputs σ) (P : List Bytes → Session σ → Prop) : Prop where
  write_ok : ∀ {accepted s line t}, P accepted s → s.write o line = (.ok (), t) →
    P (accepted ++ [line]) t
  write_error : ∀ {accepted s line rejected t}, P accepted s →
    s.write o line = (.error rejected, t) → rejected.line = line ∧ P accepted t
  flush : ∀ {accepted s}, P accepted s → P accepted (s.flush o).2
  rotate : ∀ {accepted s}, P accepted s → P accepted (s.rotate o).2
  /-- Diagnostics and time do not matter. -/
  aside : ∀ {accepted s} (events : List Event) (now : Nat), P accepted s →
    P accepted { s with events, sink := { s.sink with now } }

def Rejects (o : Outputs σ) (P : List Bytes → Session σ → Prop) : Prop :=
  ∃ accepted s line rejected t, P accepted s ∧ s.write o line = (.error rejected, t)

def Crashes (o : Outputs σ) (P : List Bytes → Session σ → Prop) : Prop :=
  ∃ accepted s t, P accepted s ∧ s.flush o = (.crashed, t)

def Phase.line? : Phase → Option Bytes
  | .offering line => some line
  | .holding line => some line
  | .draining line _ => line
  | _ => none

def Phase.lost : Phase → Nat
  | .draining _ lost => lost
  | _ => 0

/-- The records received so far, and what became of the lines that they made. -/
structure Tally (filter : KindFilter) (renderer : Renderer) (records : List Record)
    (accepted lost : List Bytes) (line : Option Bytes) (counters : Pipeline.Counters) : Prop where
  lines : linesOf filter renderer records = accepted ++ lost ++ line.toList
  received : counters.received = records.length
  rendered : counters.rendered = (linesOf filter renderer records).length
  skipped : counters.received = counters.skipped + counters.rendered
  written : counters.written = accepted.length

section

variable {P : List Bytes → Session σ → Prop} {filter : KindFilter} {renderer : Renderer}
  {records rest : List Record} {record : Record} {accepted lost : List Bytes} {line : Bytes}

namespace Tally

variable {counters : Pipeline.Counters}

theorem skip (h : Tally filter renderer records accepted lost none counters)
    (hr : filter.accepts record = false) :
    Tally filter renderer (records ++ [record]) accepted lost none
      counters.addReceived.addSkipped := by
  obtain ⟨hlines, hreceived, hrendered, hskipped, hwritten⟩ := h
  have hnone : linesOf filter renderer [record] = [] := by simp [linesOf, hr]
  refine ⟨?_, ?_, ?_, ?_, hwritten⟩
  · rw [linesOf_append, hnone, List.append_nil, hlines]
  · simp [Pipeline.Counters.addReceived, Pipeline.Counters.addSkipped, hreceived]
  · rw [linesOf_append, hnone, List.append_nil]
    exact hrendered
  · simp only [Pipeline.Counters.addReceived, Pipeline.Counters.addSkipped]
    omega

theorem render (h : Tally filter renderer records accepted lost none counters)
    (hr : filter.accepts record = true) (unresolved : Nat) :
    Tally filter renderer (records ++ [record]) accepted lost
      (some (Utf8.encode (renderer.render record)))
      (counters.addReceived.addRendered unresolved) := by
  obtain ⟨hlines, hreceived, hrendered, hskipped, hwritten⟩ := h
  have hone : linesOf filter renderer [record] = [Utf8.encode (renderer.render record)] := by
    simp [linesOf, hr]
  refine ⟨?_, ?_, ?_, ?_, hwritten⟩
  · rw [linesOf_append, hone, hlines, Option.toList_none, List.append_nil, Option.toList_some]
  · simp [Pipeline.Counters.addReceived, Pipeline.Counters.addRendered, hreceived]
  · rw [linesOf_append, hone, List.length_append, ← hrendered]
    rfl
  · simp only [Pipeline.Counters.addReceived, Pipeline.Counters.addRendered]
    omega

theorem write (h : Tally filter renderer records accepted [] (some line) counters) :
    Tally filter renderer records (accepted ++ [line]) [] none counters.addWritten := by
  obtain ⟨hlines, hreceived, hrendered, hskipped, hwritten⟩ := h
  refine ⟨?_, hreceived, hrendered, hskipped, ?_⟩
  · simpa using hlines
  · simp [Pipeline.Counters.addWritten, hwritten]

theorem lose (h : Tally filter renderer records accepted lost (some line) counters) :
    Tally filter renderer records accepted (lost ++ [line]) none counters := by
  obtain ⟨hlines, hreceived, hrendered, hskipped, hwritten⟩ := h
  exact ⟨by simpa using hlines, hreceived, hrendered, hskipped, hwritten⟩

end Tally

/-! ### Before the end -/

structure Running (o : Outputs σ) (P : List Bytes → Session σ → Prop) (filter : KindFilter)
    (renderer : Renderer) (records : List Record) (accepted lost : List Bytes) (w : Observed σ) :
    Prop where
  filter_eq : w.loop.filter = filter
  renderer_eq : w.loop.formatter.renderer = renderer
  goesOn : w.loop.isFinished = false
  sent : w.sent = records ++ w.loop.channel.queue
  tally : Tally filter renderer records accepted lost w.loop.phase.line? w.loop.counters
  lost_length : lost.length = w.loop.phase.lost
  lost_rejected : lost ≠ [] → Rejects o P
  session : P accepted w.loop.session

theorem process_of_not_accepts {loop : RunLoop σ} (hr : loop.filter.accepts record = false) :
    loop.process record =
      (none, { loop with counters := loop.counters.addReceived.addSkipped }) := by
  simp [process, hr]

theorem process_of_accepts (loop : RunLoop σ) (hr : loop.filter.accepts record = true) :
    ∃ (formatter : Formatter) (events : List Event) (unresolved : Nat),
      formatter.renderer = loop.formatter.renderer ∧
      loop.process record = (some (Utf8.encode (loop.formatter.renderer.render record)),
        { loop with
          counters := loop.counters.addReceived.addRendered unresolved
          formatter
          session := { loop.session with events } }) := by
  let formatted := loop.formatter.format loop.session.sink.now record
  have hline : formatted.1.bytes = Utf8.encode (loop.formatter.renderer.render record) := by
    rw [Formatter.format_line]
  refine ⟨formatted.2.2, loop.session.events ++ formatted.2.1, formatted.1.unresolved, rfl, ?_⟩
  unfold process
  rw [if_pos hr, ← hline]

theorem process_eq (record : Record) (loop : RunLoop σ) :
    ∃ counters formatter session,
      (loop.process record).2 = { loop with counters, formatter, session } := by
  cases hr : loop.filter.accepts record with
  | false =>
    rw [process_of_not_accepts hr]
    exact ⟨_, loop.formatter, loop.session, rfl⟩
  | true =>
    obtain ⟨formatter, events, unresolved, -, heq⟩ := process_of_accepts loop hr
    rw [heq]
    exact ⟨_, _, _, rfl⟩

/-- A record is taken from the channel, and its line, if it makes one, comes to hand. -/
theorem Running.process (hk : Keeps o P) {w : Observed σ}
    (h : Running o P filter renderer records accepted lost w) (hline : w.loop.phase.line? = none)
    (hq : w.loop.channel.queue = record :: rest) {line? : Option Bytes} {next : RunLoop σ}
    (hp : ({ w.loop with channel := { w.loop.channel with queue := rest } }).process record
      = (line?, next)) (phase : Phase) (hphase : phase.line? = line?)
    (hlost : phase.lost = w.loop.phase.lost)
    (hgo : ({ next with phase } : RunLoop σ).isFinished = false) :
    Running o P filter renderer (records ++ [record]) accepted lost
      { w with loop := { next with phase } } := by
  obtain ⟨hfilter, hrenderer, -, hsent, htally, hlen, hrej, hsession⟩ := h
  rw [hline] at htally
  rw [hq] at hsent
  cases hr : filter.accepts record with
  | false =>
    rw [process_of_not_accepts (by rw [← hfilter] at hr; exact hr)] at hp
    obtain ⟨rfl, rfl⟩ := Prod.mk.inj hp
    refine ⟨hfilter, hrenderer, hgo, by simpa using hsent, ?_, hlen.trans hlost.symm, hrej,
      hsession⟩
    rw [show ({ w with loop := _ } : Observed σ).loop.phase = phase from rfl, hphase]
    exact htally.skip hr
  | true =>
    rw [← hfilter] at hr
    obtain ⟨formatter, events, unresolved, hsame, heq⟩ := process_of_accepts
      { w.loop with channel := { w.loop.channel with queue := rest } } hr
    rw [hfilter] at hr
    rw [heq] at hp
    obtain ⟨rfl, rfl⟩ := Prod.mk.inj hp
    refine ⟨hfilter, hsame.trans hrenderer, hgo, by simpa using hsent, ?_, hlen.trans hlost.symm,
      hrej, hk.aside events _ hsession⟩
    rw [show ({ w with loop := _ } : Observed σ).loop.phase = phase from rfl, hphase, hrenderer]
    exact htally.render hr unresolved

theorem Running.shutDown {w : Observed σ} (h : Running o P filter renderer records accepted lost w)
    (hlost : w.loop.phase.lost = 0) {line? : Option Bytes} (hline : w.loop.phase.line? = line?) :
    Running o P filter renderer records accepted lost { w with loop := w.loop.shutDown line? } := by
  subst hline
  exact { h with goesOn := rfl, lost_length := h.lost_length.trans hlost }

theorem dropSubscription_eq (loop : RunLoop σ) :
    ∃ hub, loop.dropSubscription = { loop with subscription := none, hub } := by
  unfold dropSubscription
  split
  · exact ⟨_, rfl⟩
  · rename_i hs
    refine ⟨loop.hub, ?_⟩
    rw [← hs]

/-- News of the trigger change nothing but its own state, and the sink by a rotation. -/
theorem Running.react (hk : Keeps o P) {w : Observed σ}
    (h : Running o P filter renderer records accepted lost w) (received : Received) :
    Running o P filter renderer records accepted lost
      { w with loop := w.loop.react o received } := by
  cases received with
  | firing number =>
    exact
      { h with
        tally := { h.tally with }
        session := hk.rotate h.session }
  | pending => exact h
  | closed =>
    obtain ⟨hub, heq⟩ := w.loop.dropSubscription_eq
    simp only [RunLoop.react, heq]
    exact { h with session := hk.aside _ _ h.session }

theorem react_eq (o : Outputs σ) (received : Received) (loop : RunLoop σ) :
    ∃ hub subscription counters session,
      loop.react o received = { loop with hub, subscription, counters, session } := by
  cases received with
  | firing number => exact ⟨loop.hub, loop.subscription, _, _, rfl⟩
  | pending => exact ⟨loop.hub, loop.subscription, loop.counters, loop.session, rfl⟩
  | closed =>
    obtain ⟨hub, heq⟩ := loop.dropSubscription_eq
    simp only [RunLoop.react, heq]
    exact ⟨hub, none, loop.counters, _, rfl⟩

theorem news_eq {loop next : RunLoop σ} {received : Received}
    (h : loop.news = some (received, next)) : ∃ hub, next = { loop with hub } := by
  unfold news at h
  split at h
  · simp at h
  · split at h
    · simp at h
    · obtain ⟨-, rfl⟩ : _ = received ∧ _ = next := by simpa using h
      exact ⟨_, rfl⟩

theorem Running.news (hk : Keeps o P) {w : Observed σ}
    (h : Running o P filter renderer records accepted lost w) {received : Received}
    {next : RunLoop σ} (hn : w.loop.news = some (received, next)) :
    Running o P filter renderer records accepted lost { w with loop := next.react o received } := by
  obtain ⟨hub, rfl⟩ := news_eq hn
  have hhub : Running o P filter renderer records accepted lost
      { w with loop := { w.loop with hub } } := { h with }
  exact hhub.react hk received

theorem Running.setPhase {w : Observed σ}
    (h : Running o P filter renderer records accepted lost w) {phase : Phase}
    (hline : phase.line? = w.loop.phase.line?) (hlost : phase.lost = w.loop.phase.lost)
    (hgo : ({ w.loop with phase } : RunLoop σ).isFinished = false) :
    Running o P filter renderer records accepted lost { w with loop := { w.loop with phase } } where
  filter_eq := h.filter_eq
  renderer_eq := h.renderer_eq
  goesOn := hgo
  sent := h.sent
  tally := hline ▸ h.tally
  lost_length := h.lost_length.trans hlost.symm
  lost_rejected := h.lost_rejected
  session := h.session

/-- A write of the line at hand: the sink accepts the line, or it comes back unchanged. -/
theorem Running.write (hk : Keeps o P) {w : Observed σ}
    (h : Running o P filter renderer records accepted lost w)
    (hline : w.loop.phase.line? = some line)
    (hlost : w.loop.phase.lost = 0) :
    lost = [] ∧
      (∀ session, w.loop.session.write o line = (.ok (), session) →
        Tally filter renderer records (accepted ++ [line]) [] none w.loop.counters.addWritten ∧
          P (accepted ++ [line]) session) ∧
      (∀ rejected session, w.loop.session.write o line = (.error rejected, session) →
        rejected.line = line ∧ Rejects o P ∧ P accepted session ∧
          Tally filter renderer records accepted [line] none w.loop.counters) := by
  obtain rfl : lost = [] := List.length_eq_zero_iff.1 (h.lost_length.trans hlost)
  have htally := h.tally
  rw [hline] at htally
  refine ⟨rfl, fun session hw => ⟨htally.write, hk.write_ok h.session hw⟩, ?_⟩
  intro rejected session hw
  obtain ⟨hl, hs⟩ := hk.write_error h.session hw
  exact ⟨hl, ⟨_, _, _, _, _, h.session, hw⟩, hs, htally.lose⟩

/-! ### The end -/

/-- The loop at its end. Its report tells of the sink at the close, which was `s` before. -/
structure Ended (o : Outputs σ) (P : List Bytes → Session σ → Prop) (filter : KindFilter)
    (renderer : Renderer) (accepted lost : List Bytes) (s : Session σ) (report : StopReport)
    (w : Observed σ) : Prop where
  phase : w.loop.phase = .ended report
  tally : Tally filter renderer w.sent accepted lost none report.counters
  lost_rejected : lost ≠ [] → Rejects o P
  session : P accepted s
  sink : report.sink = (s.close o).2.sink.counters
  undelivered : report.undelivered = lost.length + report.sink.linesDropped
  closedCleanly : report.closedCleanly = true ↔ (s.close o).1 = .ok ()
  outputs : w.loop.session.outputs = (s.close o).2.outputs
  slot : w.loop.session.sink.slot = .closed
  channel : w.loop.channel.isClosed = true

/-- The loop with the records that were sent to it: on its way, at its end, or crashed. -/
inductive Accounted (o : Outputs σ) (P : List Bytes → Session σ → Prop) (filter : KindFilter)
    (renderer : Renderer) (w : Observed σ) : Prop where
  | running {records : List Record} {accepted lost : List Bytes}
      (h : Running o P filter renderer records accepted lost w)
  | ended {accepted lost : List Bytes} {s : Session σ} {report : StopReport}
      (h : Ended o P filter renderer accepted lost s report w)
  | crashed (h : w.loop.phase = .crashed) (hcrash : Crashes o P)

@[simp] theorem reportLost_sink (undelivered : Nat) (session : Session σ) (name : String) :
    (reportLost undelivered session name).sink = session.sink := by
  unfold reportLost
  split <;> rfl

@[simp] theorem reportLost_outputs (undelivered : Nat) (session : Session σ) (name : String) :
    (reportLost undelivered session name).outputs = session.outputs := by
  unfold reportLost
  split <;> rfl

def finalReport (o : Outputs σ) (lost : Nat) (loop : RunLoop σ) : StopReport where
  counters := loop.counters
  sink := (loop.session.close o).2.sink.counters
  undelivered := lost + (loop.session.close o).2.sink.counters.linesDropped
  closedCleanly := (loop.session.close o).1 matches .ok ()

theorem conclude_eq (o : Outputs σ) (lost : Nat) (loop : RunLoop σ) :
    ∃ hub, loop.conclude o lost =
      { loop with
        channel := loop.channel.drop
        subscription := none
        hub
        session := reportLost (loop.finalReport o lost).undelivered (loop.session.close o).2
          loop.settings.name
        phase := .ended (loop.finalReport o lost) } := by
  obtain ⟨hub, heq⟩ := dropSubscription_eq { loop with channel := loop.channel.drop }
  refine ⟨hub, ?_⟩
  unfold conclude
  rw [heq]
  rfl

theorem Running.conclude {w : Observed σ}
    (h : Running o P filter renderer records accepted lost w)
    (hline : w.loop.phase.line? = none) (hq : w.loop.channel.queue = []) :
    Ended o P filter renderer accepted lost w.loop.session
      (w.loop.finalReport o w.loop.phase.lost)
      { w with loop := w.loop.conclude o w.loop.phase.lost } := by
  obtain ⟨-, -, -, hsent, htally, hlen, hrej, hsession⟩ := h
  rw [hq, List.append_nil] at hsent
  rw [hline, ← hsent] at htally
  obtain ⟨hub, heq⟩ := conclude_eq o w.loop.phase.lost w.loop
  have hclean (result : Except SinkError Unit) :
      (result matches .ok ()) = true ↔ result = .ok () := by
    cases result <;> simp
  rw [heq]
  exact
    { phase := rfl
      tally := htally
      lost_rejected := hrej
      session := hsession
      sink := rfl
      undelivered := by rw [hlen]; rfl
      closedCleanly := hclean _
      outputs := reportLost_outputs _ _ _
      slot := by
        rw [reportLost_sink]
        exact Session.close_slot o w.loop.session
      channel := rfl }

/-! ### Steps -/

theorem Running.deliver (hk : Keeps o P) {w : Observed σ}
    (h : Running o P filter renderer records accepted lost w) {n : Nat}
    (hp : w.loop.phase = .draining (some line) n) :
    Accounted o P filter renderer { w with loop := w.loop.deliver o line n } := by
  have hline : w.loop.phase.line? = some line := by rw [hp]; rfl
  have hlost : w.loop.phase.lost = n := by rw [hp]; rfl
  unfold RunLoop.deliver
  split
  · have htally := h.tally
    rw [hline] at htally
    have hne : lost ≠ [] := by
      rw [← List.length_pos_iff, h.lost_length, hlost]
      assumption
    exact .running
      { h with
        goesOn := rfl
        tally := htally.lose
        lost_length := by rw [List.length_append, h.lost_length, hlost]; rfl
        lost_rejected := fun _ => h.lost_rejected hne }
  · obtain ⟨rfl, hok, herror⟩ := h.write hk hline (by omega)
    rcases hw : w.loop.session.write o line with ⟨rejected | _, session⟩
    · obtain ⟨-, hrej, hs, htally⟩ := herror rejected session hw
      exact .running
        { h with
          goesOn := rfl
          tally := htally
          lost_length := rfl
          lost_rejected := fun _ => hrej
          session := hs }
    · obtain ⟨htally, hs⟩ := hok session hw
      exact .running
        { h with
          goesOn := rfl
          tally := htally
          lost_length := rfl
          session := hs }

theorem Running.drain (hk : Keeps o P) {w : Observed σ}
    (h : Running o P filter renderer records accepted lost w) {line? : Option Bytes} {n : Nat}
    (hp : w.loop.phase = .draining line? n) :
    Accounted o P filter renderer { w with loop := w.loop.drain o line? n } := by
  unfold RunLoop.drain
  cases line? with
  | some line => exact h.deliver hk hp
  | none =>
    have hline : w.loop.phase.line? = none := by rw [hp]; rfl
    have hlost : w.loop.phase.lost = n := by rw [hp]; rfl
    cases hq : w.loop.channel.queue with
    | nil =>
      have hend := h.conclude hline hq
      rw [hlost] at hend
      exact .ended hend
    | cons record rest =>
      exact .running (h.process hk hline hq rfl (.draining _ n) rfl hlost.symm rfl)

theorem Running.offer (hk : Keeps o P) {w : Observed σ}
    (h : Running o P filter renderer records accepted lost w)
    (hp : w.loop.phase = .offering line) :
    Accounted o P filter renderer { w with loop := w.loop.offer o line } := by
  have hline : w.loop.phase.line? = some line := by rw [hp]; rfl
  have hlost : w.loop.phase.lost = 0 := by rw [hp]; rfl
  obtain ⟨rfl, hok, herror⟩ := h.write hk hline hlost
  unfold RunLoop.offer
  rcases hw : w.loop.session.write o line with ⟨rejected | _, session⟩
  · obtain ⟨rfl, -, hs, -⟩ := herror rejected session hw
    -- the line is still at hand, held or to be delivered at the end
    have hback : Running o P filter renderer records accepted []
        { w with loop := { w.loop with session } } := { h with session := hs }
    simp only
    split
    · exact .running
        { hback with
          goesOn := rfl
          tally := { h.tally with lines := by rw [h.tally.lines, hline]; rfl }
          lost_length := rfl }
    · exact .running (hback.shutDown hlost hline)
  · obtain ⟨htally, hs⟩ := hok session hw
    exact .running { h with goesOn := rfl, tally := htally, lost_length := rfl, session := hs }

theorem Running.hold (hk : Keeps o P) {w : Observed σ} {next : RunLoop σ}
    (h : Running o P filter renderer records accepted lost w) (hp : w.loop.phase = .holding line)
    (hn : w.loop.hold o line = some next) :
    Accounted o P filter renderer { w with loop := next } := by
  have hline : w.loop.phase.line? = some line := by rw [hp]; rfl
  have hlost : w.loop.phase.lost = 0 := by rw [hp]; rfl
  unfold RunLoop.hold at hn
  split at hn
  · obtain rfl := Option.some.inj hn
    exact .running (h.shutDown hlost hline)
  · split at hn
    · rename_i received after hnews
      obtain rfl := Option.some.inj hn
      have hreact := h.news hk hnews
      obtain ⟨hub, rfl⟩ := news_eq hnews
      obtain ⟨_, _, _, _, heq⟩ := react_eq o received { w.loop with hub }
      have hphase : (RunLoop.react o received { w.loop with hub }).phase = .holding line := by
        rw [heq]
        exact hp
      exact .running (hreact.setPhase (by rw [hphase]; rfl) (by rw [hphase]; rfl) rfl)
    · split at hn
      · obtain rfl := Option.some.inj hn
        exact .running (h.setPhase hline.symm hlost.symm rfl)
      · simp at hn

/-- A flush that crashes takes the loop with it. -/
theorem Running.flush (hk : Keeps o P) {w : Observed σ}
    (h : Running o P filter renderer records accepted lost w) :
    Accounted o P filter renderer { w with loop := w.loop.flush o } := by
  have hs := hk.flush h.session
  unfold RunLoop.flush
  dsimp only
  rcases hf : w.loop.session.flush o with ⟨_ | _ | _, session⟩
  · rw [hf] at hs
    exact .running { h with session := hs }
  · rw [hf] at hs
    exact .running { h with session := hs }
  · exact .crashed rfl ⟨_, _, _, h.session, hf⟩

theorem Running.take (hk : Keeps o P) {w : Observed σ}
    (h : Running o P filter renderer records accepted lost w) (hp : w.loop.phase = .choosing)
    (hq : w.loop.channel.queue = record :: rest) :
    Accounted o P filter renderer { w with loop := w.loop.take record rest } := by
  have hline : w.loop.phase.line? = none := by rw [hp]; rfl
  have hlost : w.loop.phase.lost = 0 := by rw [hp]; rfl
  unfold RunLoop.take
  split
  · rename_i line next hprocess
    exact .running (h.process hk hline hq hprocess (.offering line) rfl hlost.symm rfl)
  · rename_i next hprocess
    have hnext := h.process hk hline hq hprocess .choosing rfl hlost.symm rfl
    obtain ⟨_, _, _, heq⟩ := process_eq record
      { w.loop with channel := { w.loop.channel with queue := rest } }
    have hphase : next.phase = .choosing := by
      rw [hprocess] at heq
      rw [show next = _ from heq]
      exact hp
    rw [← hphase] at hnext
    exact .running hnext

theorem Running.choose (hk : Keeps o P) {w : Observed σ} {next : RunLoop σ}
    (h : Running o P filter renderer records accepted lost w) (hp : w.loop.phase = .choosing)
    (hn : w.loop.choose o = some next) :
    Accounted o P filter renderer { w with loop := next } := by
  have hline : w.loop.phase.line? = none := by rw [hp]; rfl
  have hlost : w.loop.phase.lost = 0 := by rw [hp]; rfl
  unfold RunLoop.choose at hn
  split at hn
  · obtain rfl := Option.some.inj hn
    exact .running (h.shutDown hlost hline)
  · split at hn
    · rename_i received after hnews
      obtain rfl := Option.some.inj hn
      exact .running (h.news hk hnews)
    · split at hn
      · obtain rfl := Option.some.inj hn
        exact h.flush hk
      · split at hn
        · rename_i record rest hq
          obtain rfl := Option.some.inj hn
          exact h.take hk hp hq
        · split at hn
          · obtain rfl := Option.some.inj hn
            exact .running (h.shutDown hlost hline)
          · simp at hn

/-- Every step of the loop keeps the account. -/
theorem Accounted.work (hk : Keeps o P) {w : Observed σ} {next : RunLoop σ}
    (h : Accounted o P filter renderer w) (hn : w.loop.step o = some next) :
    Accounted o P filter renderer { w with loop := next } := by
  unfold RunLoop.step at hn
  cases h with
  | crashed h _ => simp [h] at hn
  | ended h => simp [h.phase] at hn
  | running h =>
    cases hp : w.loop.phase with
    | choosing => exact h.choose hk hp (by simpa [hp] using hn)
    | offering line =>
      obtain rfl : w.loop.offer o line = next := by simpa [hp] using hn
      exact h.offer hk hp
    | holding line => exact h.hold hk hp (by simpa [hp] using hn)
    | draining line? n =>
      obtain rfl : w.loop.drain o line? n = next := by simpa [hp] using hn
      exact h.drain hk hp
    | ended report => simp [hp] at hn
    | crashed => simp [hp] at hn

/-- Requests, time and the trigger do not touch the account. -/
theorem Accounted.frame {w : Observed σ} (h : Accounted o P filter renderer w) (isCancelled : Bool)
    (now : Nat) (hub : Hub) (senderGone : Bool) :
    Accounted o P filter renderer
      { w with
        loop :=
          { w.loop with
            isCancelled, now, hub
            channel := { w.loop.channel with senderGone } } } := by
  cases h with
  | running h => exact .running { h with }
  | ended h => exact .ended { h with }
  | crashed h hcrash => exact .crashed h hcrash

/-- A record that is sent waits behind the others. At the end none is taken any more. -/
theorem Accounted.send {w : Observed σ} (h : Accounted o P filter renderer w) (record : Record) :
    Accounted o P filter renderer (w.after o (.send record)) := by
  by_cases hclosed : w.loop.channel.isClosed
  · simpa [Observed.after, RunLoop.send, Channel.send, hclosed] using h
  · by_cases hfull : w.loop.channel.capacity ≤ w.loop.channel.queue.length
    · simpa [Observed.after, RunLoop.send, Channel.send, hclosed, hfull] using h
    · simp only [Observed.after, RunLoop.send, Channel.send, if_neg hclosed, if_neg hfull]
      cases h with
      | running h =>
        exact .running { h with sent := by rw [h.sent, List.append_assoc] }
      | ended h => exact absurd h.channel hclosed
      | crashed h hcrash => exact .crashed h hcrash

/-- What is done to the sink by others: it is not written to, and not closed. -/
theorem Accounted.onSink {α : Type} {w : Observed σ} (h : Accounted o P filter renderer w)
    {f : Session σ → α × Session σ} (hkeep : ∀ {accepted s}, P accepted s → P accepted (f s).2)
    (hclosed : ∀ s, s.sink.slot = .closed → (f s).2 = s) :
    Accounted o P filter renderer { w with loop := (w.loop.onSink f).2 } := by
  cases h with
  | running h => exact .running { h with session := hkeep h.session }
  | ended h =>
    have hsame : (w.loop.onSink f).2 = w.loop := by
      rw [show (w.loop.onSink f).2 = { w.loop with session := (f w.loop.session).2 } from rfl,
        hclosed _ h.slot]
    rw [hsame]
    exact .ended h
  | crashed h hcrash => exact .crashed h hcrash

/-- Whatever happens, the account is kept. -/
theorem Accounted.after (hk : Keeps o P) {w : Observed σ} (h : Accounted o P filter renderer w)
    (happening : Happening) : Accounted o P filter renderer (w.after o happening) := by
  cases happening with
  | work =>
    unfold Observed.after
    cases hn : w.loop.step o with
    | none => exact h
    | some next => exact h.work hk hn
  | send record => exact h.send record
  | closeSource => exact h.frame _ _ _ true
  | cancel => exact h.frame true _ _ _
  | advance nanos => exact h.frame _ (w.loop.now + nanos) _ _
  | trigger change => exact h.frame _ _ (change w.loop.hub) _
  | flush => exact h.onSink hk.flush fun s hs => by rw [Session.flush_of_closed o hs]
  | rotate => exact h.onSink hk.rotate fun s hs => by rw [Session.rotate_of_closed o hs]
  | elapse nanos =>
    cases h with
    | running h => exact .running { h with session := hk.aside _ _ h.session }
    | ended h => exact .ended { h with }
    | crashed h hcrash => exact .crashed h hcrash

theorem Accounted.run (hk : Keeps o P) (happenings : List Happening) {w : Observed σ}
    (h : Accounted o P filter renderer w) :
    Accounted o P filter renderer (w.run o happenings) := by
  induction happenings generalizing w with
  | nil => exact h
  | cons happening happenings ih => exact ih (h.after hk happening)

/-- A loop that starts has accepted nothing, and finds the records that wait in its channel. -/
theorem start_running (hk : Keeps o P) {pipeline : Pipeline σ} (hs : P [] pipeline.session)
    (trigger : Option Hub) (channel : Channel) (now : Nat) :
    Running o P (KindFilter.ofList pipeline.settings.delivery.eventKinds)
      { pattern := Pattern.compile pipeline.settings.delivery.pattern
        separator := pipeline.settings.delivery.separator }
      [] [] [] { loop := start pipeline trigger channel now, sent := channel.queue } := by
  have hsession (events : List Event) := hk.aside events pipeline.session.sink.now hs
  have htally (filter : KindFilter) (renderer : Renderer) :
      Tally filter renderer [] [] [] none {} := ⟨rfl, rfl, rfl, rfl, rfl⟩
  exact ⟨rfl, rfl, rfl, rfl, htally _ _, rfl, by simp, hsession _⟩

end

end RunLoop

end RequestLog
