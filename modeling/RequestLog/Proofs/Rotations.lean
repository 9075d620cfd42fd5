import RequestLog.Proofs.Delivery
import RequestLog.Proofs.Subscribers

/-! Rotations. While a pipeline on a path runs, every firing that it heard of and every rotation
that others asked for has attached a fresh output or failed to. Once it has ended nothing is
rotated. -/

namespace RequestLog

namespace Session

variable {σ : Type} {o : Outputs σ} {s : Session σ} {c : Call} {a : Standing}

def Standing.turns (a : Standing) : Nat := a.rotations + a.failedRotations

namespace Move

theorem rest (o : Outputs σ) (s : Session σ) : Move o s (.pause 0) s.standing :=
  .stays nofun (by simp) (by simp)

theorem turns_eq (hm : Move o s c a) (hc : c ≠ .rotate) : a.turns = s.standing.turns := by
  cases hm with
  | fails _ => rfl
  | reopens _ _ _ => exact absurd rfl hc
  | misses _ _ _ => exact absurd rfl hc
  | closes => rfl
  | stays _ _ _ => rfl

/-- On a path every rotation counts, whether it finds a fresh output or not. -/
theorem turns_rotate (hm : Move o s .rotate a) (hs : s.sink.slot ≠ .closed)
    (hp : s.sink.path ≠ none) : a.turns = s.standing.turns + 1 := by
  cases hm with
  | fails h => nomatch h
  | reopens _ _ _ => exact Nat.add_right_comm _ _ _
  | misses _ _ _ => rfl
  | stays _ _ hr => exact absurd (hr rfl) (by simp [hs, hp])

theorem closed_iff (hm : Move o s c a) :
    a.held = .closed ↔ s.standing.held = .closed ∨ c = .close := by
  cases hm with
  | fails h =>
    obtain ⟨handle, hs⟩ := h.attached
    have hc : c ≠ .close := by
      rintro rfl
      nomatch h
    simp [Standing.turn, held_attached hs, hc]
  | reopens hs _ _ => simp [Standing.renew, Standing.turn, held_closed_iff, hs]
  | misses hs _ _ => simp [Standing.miss, Standing.turn, held_closed_iff, hs]
  | closes => simp [Standing.turn]
  | stays _ hc _ => simp [hc]

end Move

/-- The counters of a sink on a path that nobody closes. -/
theorem Tracked.run_turns (o : Outputs σ) {calls : List Call} (hc : .close ∉ calls) {t : Tracked σ}
    (h : t.session.standing.Steady) (hs : t.session.sink.slot ≠ .closed)
    (hp : t.session.sink.path ≠ none) :
    (t.run o calls).session.standing.turns = t.session.standing.turns + calls.count .rotate := by
  induction calls generalizing t with
  | nil => rfl
  | cons c calls ih =>
    obtain ⟨hne, hrest⟩ : Call.close ≠ c ∧ .close ∉ calls := by simpa using hc
    have hm := Tracked.call_move o h c
    have hopen : (t.call o c).session.sink.slot ≠ .closed := by
      rw [ne_eq, ← held_closed_iff, hm.closed_iff, held_closed_iff]
      simp [hs, hne.symm]
    have hpath : (t.call o c).session.sink.path ≠ none := by
      rw [show (t.call o c).session.sink.path = t.session.sink.path from hm.path_eq]
      exact hp
    have hcalls := ih hrest (hm.steady h) hopen hpath
    rw [show t.run o (c :: calls) = (t.call o c).run o calls from rfl, hcalls, List.count_cons]
    by_cases hr : c = .rotate
    · subst hr
      rw [hm.turns_rotate hs hp]
      simp
      omega
    · rw [hm.turns_eq hr]
      simp [hr]

/-- A closed sink is done with. -/
theorem Tracked.call_of_closed (o : Outputs σ) (hs : s.sink.slot = .closed) (c : Call) :
    ∃ now, (({ session := s } : Tracked σ).call o c).session
      = { s with sink := { s.sink with now } } := by
  cases c with
  | write line => exact ⟨s.sink.now, by simp [Tracked.call, write_of_closed o line hs]⟩
  | flush => exact ⟨s.sink.now, by simp [Tracked.call, flush_of_closed o hs]⟩
  | rotate => exact ⟨s.sink.now, by simp [Tracked.call, rotate_of_closed o hs]⟩
  | close => exact ⟨s.sink.now, by simp [Tracked.call, close_of_closed o hs]⟩
  | pause nanos => exact ⟨s.sink.now + nanos, rfl⟩

end Session

namespace RunLoop

variable {σ : Type} {o : Outputs σ} {w : Scene σ} {next : RunLoop σ}

def Phase.isEnded : Phase → Bool
  | .ended _ => true
  | _ => false

theorem Phase.not_ended_of_isWaiting {phase : Phase} (h : phase.isWaiting = true) :
    phase.isEnded = false ∧ phase.resume.isEnded = false := by
  cases phase <;> first | exact ⟨rfl, rfl⟩ | simp [Phase.isWaiting] at h

/-- The account of rotations. Nobody but the loop closes the sink, and it does so at its end. -/
structure Balanced (w : Scene σ) : Prop where
  steady : w.loop.session.standing.Steady
  path : w.loop.session.sink.path ≠ none
  turns : w.loop.session.standing.turns = w.loop.counters.triggered + w.rotates
  closed : w.loop.session.standing.held = .closed ↔ w.loop.phase.isEnded = true

namespace Balanced

/-- A move of the sink that is not a rotation. -/
theorem move (h : Balanced w) {c : Session.Call} {deeds : List Deed}
    (hm : Session.Move o w.loop.session c next.session.standing) (hc : c ≠ .rotate)
    (ht : next.counters.triggered = w.loop.counters.triggered)
    (hend : next.phase.isEnded = true ↔ w.loop.phase.isEnded = true ∨ c = .close) :
    Balanced ({ w with loop := next, deeds } : Scene σ) where
  steady := hm.steady h.steady
  path := by
    rw [show next.session.sink.path = w.loop.session.sink.path from hm.path_eq]
    exact h.path
  turns := by
    dsimp only
    rw [hm.turns_eq hc, ht]
    exact h.turns
  closed := by rw [hm.closed_iff, h.closed, hend]

/-- The sink is left alone, or written to or flushed, on the way. -/
theorem goOn (h : Balanced w) {c : Session.Call} {deeds : List Deed}
    (hm : Session.Move o w.loop.session c next.session.standing) (hc : c ≠ .rotate)
    (hc' : c ≠ .close) (ht : next.counters.triggered = w.loop.counters.triggered)
    (hw : w.loop.phase.isEnded = false) (hn : next.phase.isEnded = false) :
    Balanced ({ w with loop := next, deeds } : Scene σ) :=
  h.move hm hc ht (by simp [hw, hn, hc'])

theorem slot_ne_closed (h : Balanced w) (hw : w.loop.phase.isEnded = false) :
    w.loop.session.sink.slot ≠ .closed := by
  rw [ne_eq, ← Session.held_closed_iff, h.closed, hw]
  simp

/-- A rotation that is counted on both sides. -/
theorem rotate (h : Balanced w) {rotates : Nat} {deeds : List Deed}
    (hm : Session.Move o w.loop.session .rotate next.session.standing)
    (hcount : next.counters.triggered + rotates = w.loop.counters.triggered + w.rotates + 1)
    (hw : w.loop.phase.isEnded = false) (hn : next.phase.isEnded = false) :
    Balanced ({ w with loop := next, rotates, deeds } : Scene σ) where
  steady := hm.steady h.steady
  path := by
    rw [show next.session.sink.path = w.loop.session.sink.path from hm.path_eq]
    exact h.path
  turns := by
    dsimp only
    rw [hm.turns_rotate (h.slot_ne_closed hw) h.path, h.turns, hcount]
  closed := by rw [hm.closed_iff, h.closed, hw, hn]; simp

theorem stride (h : Balanced w) (hstride : Stride o w.loop next) (deeds : List Deed) :
    Balanced ({ w with loop := next, deeds } : Scene σ) := by
  have hrest := Session.Move.rest o w.loop.session
  have hflush := Session.flush_move o w.loop.session
  have hwrite {line : Bytes} {r : Except Rejected Unit} {session : Session σ}
      (hw : w.loop.session.write o line = (r, session)) :
      Session.Move o w.loop.session (.write line) session.standing := by
    have hmove := Session.write_move o line w.loop.session
    rwa [hw] at hmove
  cases hstride with
  | rotate hp _ _ _ =>
    obtain ⟨hw, hn⟩ := Phase.not_ended_of_isWaiting hp
    exact h.rotate (Session.rotate_move o _) (Nat.add_right_comm _ _ _) hw hn
  | conclude hp _ =>
    exact h.move (Session.close_move o h.steady) nofun rfl (by simp [Phase.isEnded])
  | flush hp hf _ =>
    rw [hf] at hflush
    exact h.goOn hflush nofun nofun rfl (by rw [hp]; rfl) (by rw [hp]; rfl)
  | crash hp hf =>
    rw [hf] at hflush
    exact h.goOn hflush nofun nofun rfl (by rw [hp]; rfl) rfl
  | accept hp hw | hold hp hw _ | giveUp hp hw _ | deliver hp hw | miss hp hw =>
    exact h.goOn (hwrite hw) nofun nofun rfl (by rw [hp]; rfl) rfl
  -- All other steps leave the sink alone.
  | stop hp _ =>
    exact h.goOn hrest nofun nofun rfl (Phase.not_ended_of_isWaiting hp).1 rfl
  | part hp _ _ _ =>
    obtain ⟨hw, hn⟩ := Phase.not_ended_of_isWaiting hp
    exact h.goOn hrest nofun nofun rfl hw hn
  | skip hp _ _ | skipLate hp _ _ =>
    exact h.goOn hrest nofun nofun rfl (by rw [hp]; rfl) (by rw [hp]; rfl)
  | render hp _ _ _ | renderLate hp _ _ _ | retry hp _ | lose hp _ =>
    exact h.goOn hrest nofun nofun rfl (by rw [hp]; rfl) rfl

/-- A call of others, who do not close the sink. -/
theorem callSink (h : Balanced w) {c : Session.Call} (hc : c ≠ .close) :
    Balanced (w.callSink o c) := by
  have hm := Session.Tracked.call_move o (t := { session := w.loop.session }) h.steady c
  unfold Scene.callSink
  by_cases hr : c = .rotate
  · subst hr
    by_cases hopen : w.loop.session.sink.slot = .closed
    · -- Nothing is rotated any more, and the call does not count.
      rw [if_neg (by simp [hopen])]
      have hrest := Session.Move.rest o w.loop.session
      rw [← show _ = w.loop.session.standing from hm.standing_of_closed h.steady hopen] at hrest
      exact h.move hrest nofun rfl (by simp)
    · have hw : w.loop.phase.isEnded = false := by
        rw [← Session.held_closed_iff, h.closed] at hopen
        simpa using hopen
      rw [if_pos ⟨rfl, hopen⟩]
      exact h.rotate hm rfl hw hw
  · rw [if_neg (by simp [hr])]
    exact h.move hm hr rfl (by simp [hc])

theorem after (h : Balanced w) {occasion : Occasion} (hs : occasion ≠ .sink .close) :
    Balanced (w.after o occasion) := by
  cases occasion with
  | work =>
    rcases w.work_cases o with hrest | ⟨next, hstride, hwork⟩
    · rwa [Scene.after, hrest]
    · rw [Scene.after, hwork]
      exact h.stride hstride _
  | sink c => exact h.callSink fun hc => hs (congrArg _ hc)
  | _ => exact { h with }

theorem run (h : Balanced w) {occasions : List Occasion} (hs : .sink .close ∉ occasions) :
    Balanced (w.run o occasions) := by
  refine Scene.run_keeps h fun w' hw occasion hmem => hw.after ?_
  rintro rfl
  exact hs hmem

end Balanced

/-! ### After the end -/

namespace Scene

variable {report : StopReport}

theorem after_ended (hp : w.loop.phase = .ended report) (hs : w.loop.session.sink.slot = .closed)
    (occasion : Occasion) :
    let next := w.after o occasion
    next.loop.phase = .ended report ∧ next.loop.counters = w.loop.counters ∧
      ∃ now, next.loop.session
        = { w.loop.session with sink := { w.loop.session.sink with now } } := by
  have hstill : ∃ now, w.loop.session
      = { w.loop.session with sink := { w.loop.session.sink with now } } :=
    ⟨w.loop.session.sink.now, rfl⟩
  cases occasion with
  | work =>
    have hnone : w.loop.step o = none := by simp [step, hp]
    rw [Scene.after, work_none hnone]
    exact ⟨hp, rfl, hstill⟩
  | sink c => exact ⟨hp, rfl, Session.Tracked.call_of_closed o hs c⟩
  | _ => exact ⟨hp, rfl, hstill⟩

/-- Whatever happens after the end, the report, the counters, the sink and its outputs stay as they
are. Only the clock of the sink goes on. -/
theorem run_ended (hp : w.loop.phase = .ended report) (hs : w.loop.session.sink.slot = .closed)
    (occasions : List Occasion) :
    let later := w.run o occasions
    later.loop.phase = .ended report ∧ later.loop.counters = w.loop.counters ∧
      ∃ now, later.loop.session
        = { w.loop.session with sink := { w.loop.session.sink with now } } := by
  apply run_keeps (P := fun w' => w'.loop.phase = .ended report ∧
    w'.loop.counters = w.loop.counters ∧
      ∃ now, w'.loop.session
        = { w.loop.session with sink := { w.loop.session.sink with now } })
  · exact ⟨hp, rfl, w.loop.session.sink.now, rfl⟩
  · intro w' ⟨hphase, hcounters, now, hsession⟩ occasion _
    have hclosed : w'.loop.session.sink.slot = .closed := by
      rw [hsession]
      exact hs
    obtain ⟨hnext, hcounters', now', hsession'⟩ := after_ended (o := o) hphase hclosed occasion
    exact ⟨hnext, hcounters'.trans hcounters, now', by rw [hsession', hsession]⟩

end Scene

/-! ### From the start -/

theorem openAt_balanced {settings : Settings} {path : String} {outputs rest : σ}
    {pipeline : Pipeline σ} (h : Pipeline.openAt o settings path outputs = (.ok pipeline, rest)) :
    pipeline.settings = settings ∧ pipeline.session.standing.Steady ∧
      pipeline.session.sink.path ≠ none ∧ pipeline.session.sink.slot ≠ .closed ∧
      pipeline.session.standing.turns = 0 := by
  unfold Pipeline.openAt at h
  split at h
  · simp at h
  · split at h
    · rename_i session opened hs
      obtain ⟨handle, -, rfl⟩ := Session.openAt_ok hs
      obtain rfl := Except.ok.inj (Prod.mk.inj h).1
      exact ⟨rfl, Session.start_steady rfl handle _, by simp [Session.start],
        by simp [Session.start], rfl⟩
    · simp at h

theorem start_balanced {settings : Settings} {path : String} {outputs rest : σ}
    {pipeline : Pipeline σ} (h : Pipeline.openAt o settings path outputs = (.ok pipeline, rest))
    {before : List Session.Call} (hb : .close ∉ before) (trigger : Option Hub) (channel : Channel)
    (start : Nat) :
    let session := (({ session := pipeline.session } : Session.Tracked σ).run o before).session
    Balanced ({ Scene.start { pipeline with session } trigger channel start with
      rotates := before.count .rotate } : Scene σ) := by
  intro session
  obtain ⟨-, hsteady, hpath, hopen, hzero⟩ := openAt_balanced h
  have hturns := Session.Tracked.run_turns o hb (t := { session := pipeline.session }) hsteady hopen
    hpath
  obtain ⟨hsteady', hpath'⟩ :=
    Session.Tracked.run_steady o before (t := { session := pipeline.session }) hsteady
  have hclosed : session.sink.slot ≠ .closed := by
    rw [ne_eq, Session.Tracked.run_closed_iff]
    simp [hopen, hb]
  exact
    { steady := hsteady'
      path := fun hnone => hpath (hpath'.symm.trans hnone)
      turns := by
        rw [hzero] at hturns
        exact hturns
      closed := iff_of_false (fun hheld => hclosed (Session.held_closed_iff.1 hheld)) nofun }

/-- At every moment of a pipeline on a path whose sink nobody else closes. Every firing that it
heard of and every rotation that others asked for is counted once, as a fresh output or as a
failure, and the hub has its subscription besides those of others. A pipeline that is not to rotate
never subscribes; without a subscription it goes on as if the trigger was not used. A hub that is
gone makes it rotate for the firings before at most, and then it gives its subscription up and goes
on. After its end it has none, and nothing changes its report, its counters, the sink or the outputs
any more. -/
theorem run_rotates {settings : Settings} {path : String} {outputs rest : σ} {pipeline : Pipeline σ}
    (h : Pipeline.openAt o settings path outputs = (.ok pipeline, rest))
    {before : List Session.Call} (hb : .close ∉ before) (trigger : Option Hub) (channel : Channel)
    (start : Nat) {occasions : List Occasion} (hs : .sink .close ∉ occasions) :
    let session := (({ session := pipeline.session } : Session.Tracked σ).run o before).session
    let begun : Scene σ :=
      { Scene.start { pipeline with session } trigger channel start with
        rotates := before.count .rotate }
    let now := begun.run o occasions
    let sink := now.loop.session.sink
    sink.counters.rotations + sink.counters.failedRotations
        = now.loop.counters.triggered + now.rotates ∧
      sink.generation = 1 + sink.counters.rotations ∧
      now.loop.hub.subscriberCount
        = now.loop.subscription.toList.length + now.others.length ∧
      (settings.delivery.rotateOnSignal = false →
        now.loop.subscription = none ∧ now.loop.counters.triggered = 0) ∧
      (now.loop.subscription = none → ∀ more,
        let later := now.run o more
        later.loop.subscription = none ∧
          later.loop.counters.triggered = now.loop.counters.triggered ∧
          ∃ hub, (now.run o (more.filter (!·.isTrigger))).loop = { later.loop with hub }) ∧
      (now.loop.hub.isOpen = false →
        (∀ more,
          let later := now.run o more
          later.loop.counters.triggered + later.loop.owed
            ≤ now.loop.counters.triggered + now.loop.owed) ∧
        (∀ s, now.loop.subscription = some s → now.loop.phase.isWaiting = true →
          now.loop.isCancelled = false →
            (∃ next, now.loop.step o = some next ∧ next.phase = now.loop.phase.resume ∧
              next.channel = now.loop.channel) ∧
            (now.loop.owed = 0 → ∃ events, now.loop.step o = some
              { now.loop with
                subscription := none
                hub := now.loop.hub.unsubscribe s
                session := { now.loop.session with events }
                phase := now.loop.phase.resume }))) ∧
      (∀ report, now.loop.report = .ok report →
        now.loop.subscription = none ∧
          now.loop.hub.subscriberCount = now.others.length ∧
          ∀ more,
            let later := now.run o more
            later.loop.report = .ok report ∧ later.loop.counters = now.loop.counters ∧
              ∃ clock, later.loop.session
                = { now.loop.session with sink := { sink with now := clock } }) := by
  intro session begun now sink
  have hbalanced : Balanced now := (start_balanced h hb trigger channel start).run hs
  have hsubscribed : now.Subscribed :=
    (show begun.Subscribed from
      { Scene.Subscribed.start { pipeline with session } trigger channel start with }).run occasions
  have hcount := hsubscribed.subscriberCount_eq
  refine ⟨hbalanced.turns, hbalanced.steady.generation.trans hbalanced.steady.opens, hcount, ?_,
    fun hnone more => Scene.run_unsubscribed hnone more, fun hgone => ⟨?_, ?_⟩, ?_⟩
  · intro hrotate
    have hsettings : pipeline.settings = settings := (openAt_balanced h).1
    rw [← hsettings] at hrotate
    have hnone :=
      (@start_of_not_rotates _ { pipeline with session } hrotate trigger channel start).2
    obtain ⟨hstill, htriggered, -⟩ := Scene.run_unsubscribed (w := begun) (o := o) hnone occasions
    exact ⟨hstill, htriggered⟩
  · exact fun more => (hsubscribed.owed_run hgone more).2
  · exact fun s hsome hwaits hgoes => step_of_gone hwaits hgoes hsome hgone
  · intro report hreport
    have hphase : now.loop.phase = .ended report := by
      unfold RunLoop.report at hreport
      split at hreport
      · rw [← Except.ok.inj hreport]
        assumption
      · simp at hreport
    have hclosed : now.loop.session.sink.slot = .closed := by
      rw [← Session.held_closed_iff, hbalanced.closed, hphase]
      rfl
    have hnone := hsubscribed.finished (by simp [isFinished, hphase])
    refine ⟨hnone, by simpa [hnone] using hcount, fun more => ?_⟩
    obtain ⟨hlater, hcounters, hsession⟩ := Scene.run_ended (o := o) hphase hclosed more
    exact ⟨by simp [RunLoop.report, hlater], hcounters, hsession⟩

/-- Two firings, the second of which is heard of only after the hub is gone, and a rotation that
somebody else asks for in between. Then the pipeline is stopped. -/
def unluckyTurns : List Occasion :=
  [ .trigger .fire, .trigger .fire, .work, .sink .rotate, .trigger .close, .work, .work, .cancel,
    .work, .work ]

/-- Somebody else is subscribed, and the sink was rotated before the start. -/
def unluckyEnding : Scene World :=
  let session := (({ session := unluckyPipeline.session } : Session.Tracked World).run
    World.deviceOutputs [.rotate]).session
  let begun :=
    Scene.start { unluckyPipeline with session } (some { name := "SIGHUP", seen := [some 0, none] })
      { capacity := 2 } 0
  ({ begun with rotates := 1 } : Scene World).run World.deviceOutputs unluckyTurns

theorem run_rotates_unlucky :
    let sink := unluckyEnding.loop.session.sink
    let later := unluckyEnding.run World.deviceOutputs [.trigger .fire, .sink .rotate]
    sink.counters.rotations = 1 ∧ sink.counters.failedRotations = 3 ∧
      unluckyEnding.loop.counters.triggered = 2 ∧
      sink.counters.rotations + sink.counters.failedRotations
        = unluckyEnding.loop.counters.triggered + unluckyEnding.rotates ∧
      sink.generation = 1 + sink.counters.rotations ∧
      unluckyEnding.loop.hub.subscriberCount = unluckyEnding.others.length ∧
      later.loop.counters = unluckyEnding.loop.counters ∧
      later.loop.session.sink.generation = 2 := by
  have hopened : Pipeline.openAt World.deviceOutputs unluckyPipeline.settings "access.log"
      Session.unreliable = (.ok unluckyPipeline, unluckyPipeline.session.outputs) := by cbv
  have hbefore : Session.Call.close ∉ [Session.Call.rotate] := by decide
  have hturned : Occasion.sink .close ∉ unluckyTurns := by simp [unluckyTurns]
  obtain ⟨hturns, hgeneration, -, -, -, -, hended⟩ :=
    run_rotates hopened hbefore (some { name := "SIGHUP", seen := [some 0, none] })
      { capacity := 2 } 0 hturned
  obtain ⟨report, hreport⟩ : ∃ report, unluckyEnding.loop.report = .ok report := ⟨_, by cbv⟩
  obtain ⟨-, hcount, hlater⟩ := hended report hreport
  obtain ⟨-, hcounters, -⟩ := hlater [.trigger .fire, .sink .rotate]
  exact ⟨by cbv, by cbv, by cbv, hturns, hgeneration, hcount, hcounters, by cbv⟩

end RunLoop

end RequestLog
