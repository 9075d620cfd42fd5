import RequestLog.Proofs.Acceptance
import RequestLog.Proofs.Boundary
import RequestLog.Proofs.HoldingBack
import RequestLog.Proofs.Rotations

/-! What comes first. Once a trigger was fired the loop takes no record before it has rotated for
this firing or a later one, and the handles from before the firing take nothing of what comes
then. -/

namespace RequestLog

theorem Ledger.Follows.length_le {l l' : Ledger} (h : l'.Follows l) : l.length ≤ l'.length := by
  obtain ⟨earlier, handle, taken, more, opened, rfl, rfl⟩ := h
  simp

namespace Hub

variable {hub hub' : Hub} {own others : List Subscription} {s : Subscription} {number : Nat}

/-- Others let a subscription that is not theirs pass nothing. -/
theorem Holds.used_seen? (h : hub.Holds (own ++ others)) (use : Use) (hs : s ∈ own) :
    (hub.used others use).1.seen? s = hub.seen? s := by
  have hother {t : Subscription} (ht : t ∈ others) : s ≠ t := by
    rintro rfl
    exact List.disjoint_of_nodup_append h.nodup hs ht
  cases use with
  | fire =>
    rw [Hub.used]
    split <;> rfl
  | close => rfl
  | subscribe =>
    rw [Hub.used]
    split
    · have hlen : s < hub.seen.length :=
        lt_length_of_seen? ((h.mem_iff s).1 (List.mem_append_left _ hs))
      have hnew : s ≠ hub.subscribe.1 := Nat.ne_of_lt hlen
      rw [seen?_subscribe, if_neg hnew]
    · rfl
  | receive t =>
    rw [Hub.used]
    split
    · rename_i ht
      exact seen?_receive_of_ne hub (hother ht)
    · rfl
  | unsubscribe t =>
    rw [Hub.used]
    split
    · rename_i ht
      rw [seen?_unsubscribe, if_neg (hother ht)]
    · rfl

/-- Firings are never taken back, and a hub that is gone stays gone. -/
theorem used_fired (hub : Hub) (others : List Subscription) (use : Use) :
    hub.fired ≤ (hub.used others use).1.fired ∧
      ((hub.used others use).1.isOpen = true → hub.isOpen = true) := by
  cases use with
  | fire =>
    rw [Hub.used]
    split
    · exact ⟨Nat.le_succ _, id⟩
    · exact ⟨Nat.le_refl _, id⟩
  | close =>
    refine ⟨Nat.le_refl _, ?_⟩
    intro hopen
    cases hopen
  | subscribe =>
    rw [Hub.used]
    split <;> exact ⟨Nat.le_refl _, id⟩
  | receive t =>
    obtain ⟨hopen, hfired⟩ := receive_isOpen hub t
    rw [Hub.used]
    split
    · exact ⟨Nat.le_of_eq hfired.symm, fun h => hopen.symm.trans h⟩
    · exact ⟨Nat.le_refl _, id⟩
  | unsubscribe t =>
    rw [Hub.used]
    split <;> exact ⟨Nat.le_refl _, id⟩

/-- A firing that is received is passed, and it is one that the subscription had not passed. -/
theorem receive_firing (h : hub.receive s = (.firing number, hub')) :
    (∃ passed, hub.seen? s = some passed ∧ passed < number) ∧ number ≤ hub.fired ∧
      hub'.seen? s = some number ∧ hub'.fired = hub.fired ∧ hub'.isOpen = hub.isOpen := by
  unfold receive at h
  split at h
  · simp at h
  · rename_i passed hs
    split at h
    · rename_i hlt
      obtain ⟨hn, rfl⟩ := Prod.mk.inj h
      obtain rfl := Received.firing.inj hn
      have hlen : s < hub.seen.length := lt_length_of_seen? (by rw [hs]; rfl)
      refine ⟨⟨passed, hs, ?_⟩, nextAfter_le_fired hlt, ?_, rfl, rfl⟩
      · simp only [nextAfter]
        omega
      · simp [seen?, List.getElem?_set_self hlen]
    · split at h <;> simp at h

/-- A subscription that has not passed all firings receives one. -/
theorem receive_of_lt {passed : Nat} (hs : hub.seen? s = some passed) (hlt : passed < hub.fired) :
    ∃ number hub', hub.receive s = (.firing number, hub') := by
  unfold receive
  rw [hs]
  dsimp only
  rw [if_pos hlt]
  exact ⟨_, _, rfl⟩

/-- A subscription that was not dropped is only told that the hub is gone if it is. -/
theorem isOpen_of_receive_closed (hs : (hub.seen? s).isSome = true)
    (h : hub.receive s = (.closed, hub')) : hub.isOpen = false := by
  unfold receive at h
  split at h
  · rename_i hnone
    simp [hnone] at hs
  · split at h
    · simp at h
    · split at h
      · simp at h
      · rename_i hopen
        simpa using hopen

end Hub

namespace Session

variable {σ : Type} {o : Outputs σ} {v : View σ} {s : Session σ}

/-- What was accepted before makes no difference to a call. -/
theorem Tracked.call_session (o : Outputs σ) (t : Tracked σ) (c : Call) :
    (({ session := t.session } : Tracked σ).call o c).session = (t.call o c).session := by
  cases c with
  | write line =>
    simp only [call]
    rcases t.session.write o line with ⟨_ | _, _⟩ <;> rfl
  | _ => rfl

/-- The lines of the sink are accounted for, whoever called it. -/
def Accountable (v : View σ) (s : Session σ) : Prop :=
  ∃ accepted dropped, s.Inv v accepted dropped

theorem Accountable.call (hc : WriteContract o v) (h : s.Accountable v) (c : Call) :
    let called := ({ session := s } : Tracked σ).call o c
    called.session.Accountable v ∧
      (v.ledger called.session.outputs).Follows (v.ledger s.outputs) ∧
      ∀ old, ({ session := s } : Tracked σ).Past v old → called.Past v old := by
  intro called
  obtain ⟨accepted, dropped, hi⟩ := h
  let t : Tracked σ := { session := s, accepted, dropped }
  have hsame : called.session = (t.call o c).session := t.call_session o c
  obtain ⟨hi', hf⟩ := Tracked.call_inv hc (t := t) hi c
  refine ⟨⟨_, _, by rw [hsame]; exact hi'⟩, by rw [hsame]; exact hf, fun old hpast => ?_⟩
  obtain ⟨since, hl, hidle⟩ := Tracked.Past.call hc (t := t) hi hpast c
  exact ⟨since, by rw [hsame]; exact hl, by rw [hsame]; exact hidle⟩

/-- Diagnostics do not matter. -/
theorem Accountable.log (h : s.Accountable v) (events : List Event) :
    ({ s with events } : Session σ).Accountable v := by
  obtain ⟨accepted, dropped, hi⟩ := h
  exact ⟨accepted, dropped, hi.same { Same.refl hi.valid with } rfl⟩

/-- After a rotation on a path no handle from before it takes anything. -/
theorem Accountable.rotate_past (hc : WriteContract o v) (h : s.Accountable v)
    (hopen : s.sink.slot ≠ .closed) (hp : s.sink.path ≠ none) :
    ∃ old, old.length = (v.ledger s.outputs).length ∧
      ({ session := (s.rotate o).2 } : Tracked σ).Past v old := by
  obtain ⟨accepted, dropped, hi⟩ := h
  by_cases hs : ∃ handle, s.sink.slot = .attached handle
  · obtain ⟨handle, hs⟩ := hs
    obtain ⟨path, hp⟩ := Option.ne_none_iff_exists'.1 hp
    obtain rfl := hi.notClosed hopen
    obtain ⟨n, old, hover, hpast, -⟩ :=
      Tracked.handsOver hc (t := { session := s, accepted, dropped := [] }) hi hs hp
    refine ⟨old, ?_, hpast⟩
    rw [hover.old_eq]
    exact List.length_map _
  · exact ⟨_, rfl, Tracked.past_of_not_attached hc (t := { session := s }) hi.valid
      (not_exists.1 hs) .rotate⟩

end Session

namespace RunLoop

variable {σ : Type} {o : Outputs σ} {v : View σ} {w : Scene σ} {loop next : RunLoop σ}

/-! ### The sink of a loop -/

/-- A step calls the sink at most once. -/
theorem Stride.called (h : Stride o loop next) :
    ∃ (c : Session.Call) (events : List Event), next.session =
      { (({ session := loop.session } : Session.Tracked σ).call o c).session with events } := by
  have hwrite {line : Bytes} {r : Except Rejected Unit} {session : Session σ}
      (hw : loop.session.write o line = (r, session)) :
      session =
        (({ session := loop.session } : Session.Tracked σ).call o (.write line)).session := by
    rcases r with rejected | _
    · rw [Session.Tracked.call_write_error hw]
    · rw [Session.Tracked.call_write_ok hw]
  cases h with
  | rotate _ _ _ _ => exact ⟨.rotate, _, rfl⟩
  | flush _ hf _ | crash _ hf => exact ⟨.flush, _, (congrArg Prod.snd hf).symm⟩
  | accept _ hw | hold _ hw _ | giveUp _ hw _ | deliver _ hw | miss _ hw =>
    exact ⟨.write _, _, hwrite hw⟩
  | conclude _ _ => exact ⟨.close, _, rfl⟩
  | _ => exact ⟨.pause 0, _, rfl⟩

namespace Scene

theorem after_called (o : Outputs σ) (w : Scene σ) (occasion : Occasion) :
    ∃ (c : Session.Call) (events : List Event), (w.after o occasion).loop.session =
      { (({ session := w.loop.session } : Session.Tracked σ).call o c).session with events } := by
  cases occasion with
  | work =>
    rcases w.work_cases o with hrest | ⟨next, hstride, hwork⟩
    · rw [after, hrest]
      exact ⟨.pause 0, _, rfl⟩
    · rw [after, hwork]
      exact hstride.called
  | sink c => exact ⟨c, _, rfl⟩
  | _ => exact ⟨.pause 0, _, rfl⟩

/-- What every call of the sink keeps is kept by all that happens. -/
theorem run_called {P : Session σ → Prop} {occasions : List Occasion} (h : P w.loop.session)
    (hcall : ∀ s, P s → ∀ c, P (({ session := s } : Session.Tracked σ).call o c).session)
    (hlog : ∀ s, P s → ∀ events, P { s with events }) :
    P (w.run o occasions).loop.session := by
  apply run_keeps (P := fun w' => P w'.loop.session) h
  intro w' hw occasion _
  obtain ⟨c, events, heq⟩ := w'.after_called o occasion
  rw [heq]
  exact hlog _ (hcall _ hw c) events

theorem run_accountable (hc : WriteContract o v) (h : w.loop.session.Accountable v)
    (occasions : List Occasion) :
    (w.run o occasions).loop.session.Accountable v ∧
      (v.ledger w.loop.session.outputs).length
        ≤ (v.ledger (w.run o occasions).loop.session.outputs).length := by
  apply run_called (P := fun s => s.Accountable v ∧
    (v.ledger w.loop.session.outputs).length ≤ (v.ledger s.outputs).length)
  · exact ⟨h, Nat.le_refl _⟩
  · intro s ⟨hs, hle⟩ c
    obtain ⟨hs', hf, -⟩ := hs.call hc c
    exact ⟨hs', hle.trans hf.length_le⟩
  · exact fun s ⟨hs, hle⟩ events => ⟨hs.log events, hle⟩

/-- The handles of the past stay as they are. -/
theorem run_past (hc : WriteContract o v) (h : w.loop.session.Accountable v) {old : Ledger}
    (hp : ({ session := w.loop.session } : Session.Tracked σ).Past v old)
    (occasions : List Occasion) :
    old <+: v.ledger (w.run o occasions).loop.session.outputs := by
  have hrun : (w.run o occasions).loop.session.Accountable v ∧
      ({ session := (w.run o occasions).loop.session } : Session.Tracked σ).Past v old := by
    apply run_called (P := fun s => s.Accountable v ∧
      ({ session := s } : Session.Tracked σ).Past v old)
    · exact ⟨h, hp⟩
    · intro s ⟨hs, hpast⟩ c
      obtain ⟨hs', -, hpast'⟩ := hs.call hc c
      exact ⟨hs', hpast' old hpast⟩
    · exact fun s ⟨hs, hpast⟩ events => ⟨hs.log events, hpast⟩
  obtain ⟨since, hl, -⟩ := hrun.2
  exact ⟨since, hl.symm⟩

end Scene

/-! ### Listening -/

/-- A line is only refused for good by a sink that is closed. -/
theorem isRecoverable_of_write {line : Bytes} {rejected : Rejected} {session : Session σ}
    (hs : loop.session.sink.slot ≠ .closed)
    (hw : loop.session.write o line = (.error rejected, session)) :
    rejected.error.isRecoverable = true := by
  have hout := Session.write_outcome o line loop.session
  rw [hw] at hout
  cases hout with
  | unavailable _ =>
    cases hslot : loop.session.sink.slot <;>
      simp_all [Sink.Slot.unavailable, SinkError.isRecoverable]
  | failed _ _ _ _ => rfl

theorem Stride.isCancelled (h : Stride o loop next) : next.isCancelled = loop.isCancelled := by
  cases h <;> rfl

theorem Phase.not_ended_of_isWorking {phase : Phase} (h : phase.isWorking = true) :
    phase.isEnded = false := by
  cases phase <;> first | rfl | simp [Phase.isWorking] at h

/-- A loop on a path that was not told to stop, and whose sink nobody else closed. It listens to its
trigger until that is gone, and it only comes to its end once nothing is sent any more. -/
structure Attentive (w : Scene σ) : Prop where
  balanced : Balanced w
  subscribed : w.Subscribed
  goes : w.loop.isCancelled = false
  passed : ∀ s passed, w.loop.subscription = some s → w.loop.hub.seen? s = some passed →
    passed ≤ w.loop.hub.fired
  listens : w.loop.subscription = none → w.loop.phase.isWorking = true →
    w.loop.hub.isOpen = false
  exhausted : w.loop.phase.isWorking = false →
    w.loop.channel.queue = [] ∧ w.loop.channel.isClosed = true

namespace Attentive

theorem passed_of_stride (h : Attentive w) (hstride : Stride o w.loop next) {s : Subscription}
    {passed : Nat} (hs : next.subscription = some s) (hp : next.hub.seen? s = some passed) :
    passed ≤ next.hub.fired := by
  cases hstride with
  | rotate _ _ hsome hr =>
    obtain rfl := Option.some.inj (hsome.symm.trans hs)
    obtain ⟨-, hle, hseen, hfired, -⟩ := Hub.receive_firing hr
    obtain rfl := Option.some.inj (hseen.symm.trans hp)
    exact hle.trans (Nat.le_of_eq hfired.symm)
  | part _ _ _ _ => simp at hs
  | crash _ _ => simp at hs
  | conclude _ _ => simp at hs
  | _ => exact h.passed s passed hs hp

/-- The subscription is only given up when the trigger is gone. -/
theorem listens_of_stride (h : Attentive w) (hstride : Stride o w.loop next)
    (hs : next.subscription = none) (hgo : next.phase.isWorking = true) :
    next.hub.isOpen = false := by
  have hworks := hstride.isWorking hgo
  cases hstride with
  | rotate _ _ hsome _ => simp [hsome] at hs
  | @part s hub events _ _ hsome hr =>
    have hown := (h.subscribed.holds.mem_iff s).1 (by simp [hsome])
    have hgone := Hub.isOpen_of_receive_closed hown hr
    obtain rfl := Hub.eq_of_receive_closed hr
    exact hgone
  | crash _ _ => simp [Phase.isWorking] at hgo
  | conclude _ _ => simp [Phase.isWorking] at hgo
  | _ => exact h.listens hs hworks

/-- The end only begins when no record waits or will be sent. -/
theorem exhausted_of_stride (h : Attentive w) (hstride : Stride o w.loop next)
    (hend : next.phase.isWorking = false) :
    next.channel.queue = [] ∧ next.channel.isClosed = true := by
  have hbegun := h.exhausted
  cases hstride with
  | stop hp hstop =>
    obtain ⟨-, -, hq, -⟩ := hstop h.goes
    exact ⟨hq, rfl⟩
  | giveUp hp hw hr =>
    have hopen := h.balanced.slot_ne_closed (by rw [hp]; rfl)
    rw [isRecoverable_of_write hopen hw] at hr
    simp at hr
  | crash _ _ => exact ⟨rfl, rfl⟩
  | conclude _ _ => exact ⟨rfl, rfl⟩
  | rotate hp _ _ _ | part hp _ _ _ =>
    simp [Phase.isWorking_of_isWaiting hp] at hend
  | skipLate hp hq _ | renderLate hp hq _ _ =>
    obtain ⟨hempty, -⟩ := hbegun (by rw [hp]; rfl)
    simp [hq] at hempty
  | lose hp _ | deliver hp _ | miss hp _ => exact hbegun (by rw [hp]; rfl)
  | flush hp _ _ | skip hp _ _ => simp [hp, Phase.isWorking] at hend
  | render _ _ _ _ | accept _ _ | hold _ _ _ | retry _ _ => simp [Phase.isWorking] at hend

theorem after (h : Attentive w) {occasion : Occasion} (hs : occasion ≠ .sink .close)
    (hc : occasion ≠ .cancel) : Attentive (w.after o occasion) := by
  have hbalanced : Balanced (w.after o occasion) := h.balanced.after hs
  have hsubscribed : (w.after o occasion).Subscribed := h.subscribed.after occasion
  cases occasion with
  | work =>
    rcases w.work_cases o with hrest | ⟨next, hstride, hwork⟩
    · rwa [Scene.after, hrest]
    · rw [Scene.after, hwork] at hbalanced hsubscribed ⊢
      exact
        { balanced := hbalanced
          subscribed := hsubscribed
          goes := hstride.isCancelled.trans h.goes
          passed := fun _ _ => h.passed_of_stride hstride
          listens := h.listens_of_stride hstride
          exhausted := h.exhausted_of_stride hstride }
  | send record =>
    refine { h with balanced := hbalanced, subscribed := hsubscribed, exhausted := ?_ }
    intro hend
    obtain ⟨hq, hclosed⟩ := h.exhausted hend
    simp [Scene.after, RunLoop.send, Channel.send, hclosed, hq]
  | cancel => exact absurd rfl hc
  | trigger use =>
    obtain ⟨hfired, hopen⟩ := Hub.used_fired w.loop.hub w.others use
    refine { h with balanced := hbalanced, subscribed := hsubscribed, passed := ?_, listens := ?_ }
    · intro s passed hsome hseen
      have hown : s ∈ w.loop.subscription.toList := Option.mem_toList.2 hsome
      rw [show (w.after o (.trigger use)).loop.hub = (w.loop.hub.used w.others use).1 from rfl,
        h.subscribed.holds.used_seen? use hown] at hseen
      exact (h.passed s passed hsome hseen).trans hfired
    · intro hnone hgo
      have hgone := h.listens hnone hgo
      rw [← Bool.not_eq_true] at hgone ⊢
      exact mt hopen hgone
  | _ => exact { h with balanced := hbalanced, subscribed := hsubscribed }

theorem run (h : Attentive w) {occasions : List Occasion} (hs : .sink .close ∉ occasions)
    (hc : .cancel ∉ occasions) : Attentive (w.run o occasions) := by
  refine Scene.run_keeps h fun w' hw occasion hmem => hw.after ?_ ?_
  · rintro rfl
    exact hs hmem
  · rintro rfl
    exact hc hmem

/-- A pipeline that starts at a path and is to rotate listens to its trigger. -/
theorem start {settings : Settings} {path : String} {outputs rest : σ} {pipeline : Pipeline σ}
    (h : Pipeline.openAt o settings path outputs = (.ok pipeline, rest))
    (hr : settings.delivery.rotateOnSignal = true) {calls : List Session.Call}
    (hb : .close ∉ calls) (hub : Hub) (channel : Channel) (start : Nat) :
    let session := (({ session := pipeline.session } : Session.Tracked σ).run o calls).session
    Attentive ({ Scene.start { pipeline with session } (some hub) channel start with
      rotates := calls.count .rotate } : Scene σ) := by
  intro session
  have hsettings : pipeline.settings = settings := (openAt_balanced h).1
  rw [← hsettings] at hr
  obtain ⟨hhub, hsome⟩ :=
    @start_of_rotates _ { pipeline with session } hr hub channel start
  have hpassed : ∀ s passed, some hub.subscribe.1 = some s → hub.subscribe.2.seen? s = some passed →
      passed ≤ hub.subscribe.2.fired := by
    intro s passed hs hp
    obtain rfl := Option.some.inj hs
    rw [Hub.seen?_subscribe, if_pos rfl] at hp
    exact Nat.le_of_eq (Option.some.inj hp).symm
  rw [← hhub, ← hsome] at hpassed
  exact
    { balanced := start_balanced h hb (some hub) channel start
      subscribed :=
        { Scene.Subscribed.start { pipeline with session } (some hub) channel start with }
      goes := rfl
      passed := hpassed
      listens := fun hnone _ => nomatch hsome.symm.trans hnone
      exhausted := nofun }

end Attentive

/-! ### A firing that is due -/

def Scene.Rotates (o : Outputs σ) (number : Nat) (w : Scene σ) : Prop :=
  ∃ s hub, w.loop.subscription = some s ∧ w.loop.hub.receive s = (.firing number, hub) ∧
    w.loop.step o = some
      { w.loop with
        hub
        counters := w.loop.counters.addTriggered
        session := (w.loop.session.rotate o).2
        phase := w.loop.phase.resume }

/-- The loop works and has not heard of a firing. -/
structure Due (number : Nat) (w : Scene σ) : Prop where
  works : w.loop.phase.isWorking = true
  goes : w.loop.isCancelled = false
  unheard : ∃ s passed, w.loop.subscription = some s ∧ w.loop.hub.seen? s = some passed ∧
    passed < number
  fired : number ≤ w.loop.hub.fired

namespace Due

variable {n : Nat}

/-- The loop makes a step, which takes no record. It rotates for this firing or a later one, or the
firing is still due. -/
theorem work (h : Due n w) (hopen : w.loop.session.sink.slot ≠ .closed) :
    ∃ next, w.loop.step o = some next ∧ next.channel = w.loop.channel ∧
      next.phase.isWorking = true ∧
      ((∃ number, n ≤ number ∧ w.Rotates o number) ∨
        Due n ({ w with loop := next, deeds := w.deeds ++ deedsOf o w.loop next } : Scene σ)) := by
  obtain ⟨hworks, hgoes, ⟨s, passed, hs, hp, hlt⟩, hfired⟩ := h
  cases hphase : w.loop.phase with
  | offering line =>
    have hstep : w.loop.step o = some (w.loop.offer o line) := by simp [step, hphase]
    rcases hw : w.loop.session.write o line with ⟨rejected | _, session⟩
    · have hr := isRecoverable_of_write hopen hw
      simp only [RunLoop.offer, hw, hr, if_true] at hstep
      exact ⟨_, hstep, rfl, rfl, .inr ⟨rfl, hgoes, ⟨s, passed, hs, hp, hlt⟩, hfired⟩⟩
    · simp only [RunLoop.offer, hw] at hstep
      exact ⟨_, hstep, rfl, rfl, .inr ⟨rfl, hgoes, ⟨s, passed, hs, hp, hlt⟩, hfired⟩⟩
  | choosing | holding line =>
    have hwaits : w.loop.phase.isWaiting = true := by rw [hphase]; rfl
    obtain ⟨number, hub, hr⟩ := Hub.receive_of_lt hp (Nat.lt_of_lt_of_le hlt hfired)
    obtain ⟨-, -, hseen, hsame, -⟩ := Hub.receive_firing hr
    have hnews : w.loop.news = some (.firing number, { w.loop with hub }) := by
      simp [news, hs, hr]
    have hstep := step_of_news (o := o) hwaits hgoes hnews
    have hgo : w.loop.phase.resume.isWorking = true := by rw [Phase.isWorking_resume, hworks]
    refine ⟨_, hstep, rfl, hgo, ?_⟩
    by_cases hn : n ≤ number
    · exact .inl ⟨number, hn, s, hub, hs, hr, hstep⟩
    · exact .inr ⟨hgo, hgoes, ⟨s, number, hs, hseen, Nat.lt_of_not_le hn⟩,
        hfired.trans (Nat.le_of_eq hsame.symm)⟩
  | draining left lost => simp [hphase, Phase.isWorking] at hworks
  | ended report => simp [hphase, Phase.isWorking] at hworks
  | crashed => simp [hphase, Phase.isWorking] at hworks

/-- Nothing that others do makes the loop hear of a firing. -/
theorem aside (h : Due n w) (hw : w.Subscribed) {occasion : Occasion} (hne : occasion ≠ .work)
    (hc : occasion ≠ .cancel) : Due n (w.after o occasion) := by
  cases occasion with
  | work => exact absurd rfl hne
  | cancel => exact absurd rfl hc
  | trigger use =>
    obtain ⟨hworks, hgoes, ⟨s, passed, hs, hp, hlt⟩, hfired⟩ := h
    have hown : s ∈ w.loop.subscription.toList := Option.mem_toList.2 hs
    have hsame := hw.holds.used_seen? use hown
    exact ⟨hworks, hgoes, ⟨s, passed, hs, hsame.trans hp, hlt⟩,
      hfired.trans (Hub.used_fired w.loop.hub w.others use).1⟩
  | _ => exact { h with }

/-- It is due until the loop rotates for it or for a later one. -/
theorem run (h : Due n w) (hw : Attentive w) {occasions : List Occasion}
    (hs : .sink .close ∉ occasions) (hc : .cancel ∉ occasions) :
    Due n (w.run o occasions) ∨ ∃ early late number, occasions = early ++ .work :: late ∧
      n ≤ number ∧ (w.run o early).Rotates o number := by
  induction occasions generalizing w with
  | nil => exact .inl h
  | cons occasion occasions ih =>
    obtain ⟨hs₁, hs₂⟩ : Occasion.sink .close ≠ occasion ∧ .sink .close ∉ occasions := by
      simpa using hs
    obtain ⟨hc₁, hc₂⟩ : Occasion.cancel ≠ occasion ∧ .cancel ∉ occasions := by simpa using hc
    have hstill : Due n (w.after o occasion) ∨
        occasion = .work ∧ ∃ number, n ≤ number ∧ w.Rotates o number := by
      by_cases hwork : occasion = .work
      · subst hwork
        obtain ⟨next, hstep, -, -, hrotates | hdue⟩ := h.work (o := o)
          (hw.balanced.slot_ne_closed (Phase.not_ended_of_isWorking h.works))
        · exact .inr ⟨rfl, hrotates⟩
        · rw [Scene.after, Scene.work_some hstep]
          exact .inl hdue
      · exact .inl (h.aside hw.subscribed hwork hc₁.symm)
    rcases hstill with hdue | ⟨rfl, number, hn, hrotates⟩
    · rcases ih hdue (hw.after hs₁.symm hc₁.symm) hs₂ hc₂ with
        hlast | ⟨early, late, number, rfl, hn, hr⟩
      · exact .inl hlast
      · exact .inr ⟨occasion :: early, late, number, rfl, hn, hr⟩
    · exact .inr ⟨[], occasions, number, rfl, hn, hrotates⟩

/-- As long as it is due no record is taken. -/
theorem takes_nothing (h : Due n w) (hopen : w.loop.session.sink.slot ≠ .closed)
    (hstep : w.loop.step o = some next) (record : Record) :
    .receive record ∉ deedsOf o w.loop next := by
  obtain ⟨after, hafter, hchannel, hgo, -⟩ := h.work (o := o) hopen
  obtain rfl := Option.some.inj (hafter.symm.trans hstep)
  rw [deedsOf_eq [] hgo (by rw [hchannel]; rfl)]
  simp

end Due

/-- A loop that listens takes no record at its end. -/
theorem Attentive.works_of_receive (h : Attentive w) {record : Record}
    (hr : .receive record ∈ deedsOf o w.loop next) : w.loop.phase.isWorking = true := by
  by_contra hend
  obtain ⟨hq, -⟩ := h.exhausted (by simpa using hend)
  simp [deedsOf, hq] at hr

/-- A firing is due at once, unless the trigger is gone or the loop is at its end. -/
theorem Attentive.due_of_fire (h : Attentive w) (hopen : w.loop.hub.isOpen = true)
    (hgo : w.loop.phase.isWorking = true) :
    let fired := w.after o (.trigger .fire)
    Due fired.loop.hub.fired fired := by
  intro fired
  have hfired : fired.loop.hub = w.loop.hub.fire.2 := by
    simp [fired, Scene.after, Hub.used, hopen]
  obtain ⟨s, hs⟩ : ∃ s, w.loop.subscription = some s := by
    rw [← Option.ne_none_iff_exists']
    intro hnone
    simp [h.listens hnone hgo] at hopen
  have hown := (h.subscribed.holds.mem_iff s).1 (by simp [hs])
  obtain ⟨passed, hp⟩ := Option.isSome_iff_exists.1 hown
  refine ⟨hgo, h.goes, ⟨s, passed, hs, ?_, ?_⟩, Nat.le_refl _⟩
  · rw [hfired]
    exact hp
  · rw [hfired]
    exact Nat.lt_succ_of_le (h.passed s passed hs hp)

/-! ### Handles from before a firing -/

theorem openAt_opened {settings : Settings} {path : String} {outputs rest : σ}
    {pipeline : Pipeline σ} (hv : v.valid outputs) (hl : v.ledger outputs = [])
    (h : Pipeline.openAt o settings path outputs = (.ok pipeline, rest)) :
    pipeline.session.Opened o v := by
  obtain ⟨-, -, hs⟩ := Pipeline.openAt_ok h
  exact .path hv hl hs

/-- Once the loop has rotated, the handles from before take nothing any more, whatever happens. -/
theorem Scene.Rotates.past (hc : WriteContract o v) (hw : Attentive w)
    (hi : w.loop.session.Accountable v) {number : Nat} (h : w.Rotates o number) :
    ∃ old : Ledger, old.length = (v.ledger w.loop.session.outputs).length ∧
      ∀ occasions, old <+: v.ledger ((w.work o).run o occasions).loop.session.outputs := by
  obtain ⟨s, hub, -, -, hstep⟩ := h
  have hwork : (w.work o).loop.session = (w.loop.session.rotate o).2 := by
    rw [Scene.work_some hstep]
  have hgo : w.loop.phase.isEnded = false := by
    cases hphase : w.loop.phase <;> first | rfl | simp [step, hphase] at hstep
  obtain ⟨old, hlength, hpast⟩ :=
    hi.rotate_past hc (hw.balanced.slot_ne_closed hgo) hw.balanced.path
  rw [← hwork] at hpast
  have hi' : (w.work o).loop.session.Accountable v := by
    rw [hwork]
    exact (hi.call hc .rotate).1
  exact ⟨old, hlength, Scene.run_past hc hi' hpast⟩

/-- A firing takes effect before any later record. Whenever a pipeline on a path, which is to rotate
and was neither told to stop nor had its sink closed by others, takes a record after a firing, it
has rotated for this firing or a later one in between. The handles from before the firing take
nothing any more from then on, whether or not the path could be opened again. -/
theorem run_rotates_first (hc : WriteContract o v) {settings : Settings} {path : String}
    {outputs rest : σ} {pipeline : Pipeline σ} (hv : v.valid outputs) (hl : v.ledger outputs = [])
    (h : Pipeline.openAt o settings path outputs = (.ok pipeline, rest))
    (hr : settings.delivery.rotateOnSignal = true) {calls : List Session.Call}
    (hb : .close ∉ calls) (hub : Hub) (channel : Channel) (start : Nat)
    {before since : List Occasion} (hs : .sink .close ∉ before ++ .trigger .fire :: since)
    (hs' : .cancel ∉ before ++ .trigger .fire :: since) :
    let session := (({ session := pipeline.session } : Session.Tracked σ).run o calls).session
    let begun : Scene σ :=
      { Scene.start { pipeline with session } (some hub) channel start with
        rotates := calls.count .rotate }
    let firing := begun.run o before
    let fired := firing.after o (.trigger .fire)
    let taking := fired.run o since
    let handles := (v.ledger firing.loop.session.outputs).length
    firing.loop.hub.isOpen = true →
      ∀ next record, taking.loop.step o = some next →
        .receive record ∈ deedsOf o taking.loop next →
          ∃ early late number, since = early ++ .work :: late ∧
            fired.loop.hub.fired ≤ number ∧ (fired.run o early).Rotates o number ∧
            ∀ more,
              (v.ledger (taking.run o more).loop.session.outputs).take handles
                = (v.ledger ((fired.run o early).work o).loop.session.outputs).take handles := by
  intro session begun firing fired taking handles hopen next record hstep hreceive
  obtain ⟨hs₁, hs₂⟩ : Occasion.sink .close ∉ before ∧ .sink .close ∉ since := by simpa using hs
  obtain ⟨hc₁, hc₂⟩ : Occasion.cancel ∉ before ∧ .cancel ∉ since := by simpa using hs'
  have hbegun : Attentive begun := .start h hr hb hub channel start
  have hfiring : Attentive firing := hbegun.run hs₁ hc₁
  have hfired : Attentive fired := hfiring.after nofun nofun
  have htaking : Attentive taking := hfired.run hs₂ hc₂
  have hworks : taking.loop.phase.isWorking = true := htaking.works_of_receive hreceive
  have hdue : Due fired.loop.hub.fired fired :=
    hfiring.due_of_fire hopen (Scene.isWorking_of_after (Scene.isWorking_of_run hworks))
  rcases hdue.run hfired hs₂ hc₂ with hstill | ⟨early, late, number, rfl, hn, hrotates⟩
  · have hslot := htaking.balanced.slot_ne_closed (Phase.not_ended_of_isWorking hworks)
    exact absurd hreceive (hstill.takes_nothing hslot hstep record)
  refine ⟨early, late, number, rfl, hn, hrotates, fun more => ?_⟩
  have hi : begun.loop.session.Accountable v :=
    Session.Accountable.log ⟨_, _, ((openAt_opened hv hl h).run_inv hc calls).1⟩ _
  obtain ⟨hi, -⟩ := Scene.run_accountable (o := o) hc hi before
  obtain ⟨hi, hmore⟩ := Scene.run_accountable (o := o) (w := fired) hc hi early
  obtain ⟨old, hold, hpast⟩ :=
    hrotates.past hc (hfired.run (fun h => hs₂ (by simp [h])) (fun h => hc₂ (by simp [h]))) hi
  have hfirst {l : Ledger} (hl : old <+: l) : l.take handles = old.take handles := by
    obtain ⟨rest, rfl⟩ := hl
    exact List.take_append_of_le_length (hmore.trans (Nat.le_of_eq hold.symm))
  have hlater : taking.run o more = ((fired.run o early).work o).run o (late ++ more) := by
    simp only [taking, Scene.run_append, Scene.run_cons, Scene.after]
  rw [hlater]
  exact (hfirst (hpast (late ++ more))).trans (hfirst (hpast [])).symm

def unluckyWait : List Occasion :=
  [.advance 2000000000, .send { kind := Record.responseKind }] ++ List.replicate 18 .work

/-- While a line is held the trigger is fired more often than firings are kept. -/
def unluckyFiring : Scene World :=
  let session := (({ session := unluckyPipeline.session } : Session.Tracked World).run
    World.deviceOutputs [.flush]).session
  let begun : Scene World :=
    { Scene.start { unluckyPipeline with session } (some { name := "SIGHUP" })
        { capacity := 2 } 0 with
      rotates := [Session.Call.flush].count .rotate }
  begun.run World.deviceOutputs (unluckyOccasions ++ List.replicate 16 (.trigger .fire))

def unluckyTaking : Scene World :=
  (unluckyFiring.after World.deviceOutputs (.trigger .fire)).run World.deviceOutputs unluckyWait

set_option maxRecDepth 4000 in
theorem run_rotates_first_unlucky :
    let fired := unluckyFiring.after World.deviceOutputs (.trigger .fire)
    fired.loop.phase = .holding (Utf8.encode "abc\n") ∧ fired.loop.hub.fired = 18 ∧
      unluckyTaking.loop.counters.triggered = 17 ∧
      unluckyTaking.loop.session.outputs.deviceLedger
        = [(0, Utf8.encode "abc\na"), (1, Utf8.encode "bc\n")] ∧
      ∃ early late number, unluckyWait = early ++ .work :: late ∧ fired.loop.hub.fired ≤ number ∧
        (fired.run World.deviceOutputs early).Rotates World.deviceOutputs number := by
  have hopened : Pipeline.openAt World.deviceOutputs unluckyPipeline.settings "access.log"
      Session.unreliable = (.ok unluckyPipeline, unluckyPipeline.session.outputs) := by cbv
  have hb : Session.Call.close ∉ [Session.Call.flush] := by decide
  have hclose : Occasion.sink .close
      ∉ unluckyOccasions ++ List.replicate 16 (.trigger .fire) ++
        .trigger .fire :: unluckyWait := by
    simp [unluckyOccasions, unluckyWait]
  have hcancel : Occasion.cancel
      ∉ unluckyOccasions ++ List.replicate 16 (.trigger .fire) ++
        .trigger .fire :: unluckyWait := by
    simp [unluckyOccasions, unluckyWait]
  have hopen : unluckyFiring.loop.hub.isOpen = true := by cbv
  -- the record is what the next step takes
  obtain ⟨next, hstep⟩ : ∃ next, unluckyTaking.loop.step World.deviceOutputs = some next :=
    Option.isSome_iff_exists.1 (by cbv)
  have hdeeds : (unluckyTaking.work World.deviceOutputs).deeds
      = unluckyTaking.deeds ++ [.receive { kind := Record.responseKind }] := by cbv
  rw [Scene.work_some hstep] at hdeeds
  have hreceive : Deed.receive { kind := Record.responseKind }
      ∈ deedsOf World.deviceOutputs unluckyTaking.loop next := by
    rw [List.append_cancel_left hdeeds]
    exact List.mem_singleton_self _
  have hfirst := run_rotates_first World.deviceOutputs_contract
    (World.onDevices_of_unused (by simp)) rfl hopened rfl hb { name := "SIGHUP" }
    { capacity := 2 } 0 hclose hcancel
  obtain ⟨early, late, number, hwait, hn, hrotates, -⟩ := hfirst hopen next _ hstep hreceive
  exact ⟨by cbv, by cbv, by cbv, by cbv, early, late, number, hwait, hn, hrotates⟩

end RunLoop

end RequestLog
