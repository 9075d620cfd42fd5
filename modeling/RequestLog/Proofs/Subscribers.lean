import RequestLog.Proofs.Scenes
import Mathlib

/-! The subscribers of a trigger. The subscriptions of a hub are that of the pipeline, as long as it
has one, and those of others. Without a subscription a pipeline does not notice that there is a
trigger. -/

namespace RequestLog

namespace Hub

variable {hub : Hub} {own others subs : List Subscription} {s t : Subscription}

/-! ### Places -/

theorem lt_length_of_seen? (h : (hub.seen? s).isSome = true) : s < hub.seen.length := by
  by_contra hlen
  simp [seen?, List.getElem?_eq_none (Nat.le_of_not_lt hlen)] at h

theorem seen?_unsubscribe (hub : Hub) (s t : Subscription) :
    (hub.unsubscribe s).seen? t = if t = s then none else hub.seen? t := by
  unfold unsubscribe seen?
  rw [List.getElem?_set]
  by_cases h : s = t
  · subst h
    by_cases hlen : s < hub.seen.length <;> simp [hlen]
  · simp [h, Ne.symm h]

theorem seen?_subscribe (hub : Hub) (t : Subscription) :
    hub.subscribe.2.seen? t = if t = hub.subscribe.1 then some hub.fired else hub.seen? t := by
  unfold subscribe seen?
  dsimp only
  by_cases h : t = hub.seen.length
  · simp [h]
  · rw [if_neg h]
    by_cases hlt : t < hub.seen.length
    · rw [List.getElem?_append_left hlt]
    · have hbeyond : (hub.seen ++ [some hub.fired])[t]? = none := by
        rw [List.getElem?_eq_none_iff, List.length_append]
        exact Nat.lt_of_le_of_ne (Nat.le_of_not_lt hlt) (Ne.symm h)
      rw [hbeyond, List.getElem?_eq_none (Nat.le_of_not_lt hlt)]

theorem seen?_receive_of_ne (hub : Hub) (h : t ≠ s) : (hub.receive s).2.seen? t = hub.seen? t := by
  unfold receive
  split
  · rfl
  · split
    · simp [seen?, List.getElem?_set_ne (Ne.symm h)]
    · rfl

theorem isSome_seen?_receive (hub : Hub) (s t : Subscription) :
    ((hub.receive s).2.seen? t).isSome = (hub.seen? t).isSome := by
  by_cases h : t = s
  · subst h
    unfold receive
    split
    · rfl
    · rename_i passed hs
      split
      · have hsome : (hub.seen? t).isSome = true := by rw [hs]; rfl
        rw [hsome, seen?, List.getElem?_set_self (lt_length_of_seen? hsome)]
        rfl
      · rfl
  · rw [seen?_receive_of_ne hub h]

/-! ### Who is subscribed -/

/-- These are the subscriptions of the hub, each once. -/
structure Holds (hub : Hub) (subs : List Subscription) : Prop where
  nodup : subs.Nodup
  mem_iff : ∀ s, s ∈ subs ↔ (hub.seen? s).isSome = true

theorem holds_live (hub : Hub) : hub.Holds hub.live where
  nodup := List.nodup_range.filter _
  mem_iff s := by
    rw [live, List.mem_filter, List.mem_range]
    exact ⟨And.right, fun h => ⟨lt_length_of_seen? h, h⟩⟩

theorem length_live (hub : Hub) : hub.live.length = hub.subscriberCount := by
  have hseen : hub.seen = (List.range hub.seen.length).map fun s => hub.seen[s]?.join := by
    refine List.ext_getElem (by simp) fun s hs _ => ?_
    simp [List.getElem?_eq_getElem hs]
  rw [live, subscriberCount, ← List.countP_eq_length_filter]
  conv_rhs => rw [hseen, List.countP_map]
  rfl

theorem Holds.subscriberCount_eq (h : hub.Holds subs) : hub.subscriberCount = subs.length := by
  rw [← length_live]
  refine (List.Perm.length_eq ?_).symm
  rw [List.perm_ext_iff_of_nodup h.nodup hub.holds_live.nodup]
  exact fun s => (h.mem_iff s).trans (hub.holds_live.mem_iff s).symm

theorem Holds.of_isSome_eq {hub' : Hub} (h : hub.Holds subs)
    (hsame : ∀ s, (hub'.seen? s).isSome = (hub.seen? s).isSome) : hub'.Holds subs :=
  ⟨h.nodup, fun s => by rw [hsame, h.mem_iff]⟩

theorem Holds.receive (h : hub.Holds subs) (s : Subscription) : (hub.receive s).2.Holds subs :=
  h.of_isSome_eq (isSome_seen?_receive hub s)

theorem Holds.subscribe (h : hub.Holds subs) :
    hub.subscribe.2.Holds (subs ++ [hub.subscribe.1]) where
  nodup := by
    have hnew : hub.subscribe.1 ∉ subs := fun hmem =>
      absurd (lt_length_of_seen? ((h.mem_iff _).1 hmem)) (Nat.lt_irrefl _)
    simpa using h.nodup.concat hnew
  mem_iff s := by
    rw [seen?_subscribe, List.mem_append, h.mem_iff, List.mem_singleton]
    by_cases hs : s = hub.subscribe.1 <;> simp [hs]

theorem Holds.unsubscribe (h : hub.Holds subs) (s : Subscription) :
    (hub.unsubscribe s).Holds (subs.erase s) where
  nodup := h.nodup.erase s
  mem_iff t := by
    rw [seen?_unsubscribe, h.nodup.mem_erase_iff, h.mem_iff]
    by_cases ht : t = s <;> simp [ht]

/-- Others do not touch a subscription that is not theirs. -/
theorem Holds.used (h : hub.Holds (own ++ others)) (use : Use) :
    (hub.used others use).1.Holds (own ++ (hub.used others use).2) := by
  cases use with
  | fire =>
    rw [Hub.used]
    split <;> exact h.of_isSome_eq fun _ => rfl
  | close => exact h.of_isSome_eq fun _ => rfl
  | subscribe =>
    rw [Hub.used]
    split
    · rw [← List.append_assoc]
      exact h.subscribe
    · exact h
  | receive s =>
    rw [Hub.used]
    split
    · exact h.receive s
    · exact h
  | unsubscribe s =>
    rw [Hub.used]
    split
    · rename_i hs
      have hown : s ∉ own := fun hmem => List.disjoint_of_nodup_append h.nodup hmem hs
      have hrest := h.unsubscribe s
      rwa [List.erase_append_right _ hown] at hrest
    · exact h

theorem Holds.without {subscription : Option Subscription}
    (h : hub.Holds (subscription.toList ++ others)) :
    (hub.without subscription).Holds others := by
  cases subscription with
  | none => exact h
  | some s =>
    have hrest := h.unsubscribe s
    rwa [Option.toList_some, List.singleton_append, List.erase_cons_head] at hrest

/-! ### A hub that is gone -/

theorem receive_isOpen (hub : Hub) (s : Subscription) :
    (hub.receive s).2.isOpen = hub.isOpen ∧ (hub.receive s).2.fired = hub.fired := by
  unfold receive
  split
  · exact ⟨rfl, rfl⟩
  · split <;> exact ⟨rfl, rfl⟩

/-- It stays gone, and what a subscription has not passed yet stays as it is. -/
theorem Holds.used_of_closed (h : hub.Holds (own ++ others)) (use : Use)
    (hclosed : hub.isOpen = false) :
    (hub.used others use).1.isOpen = false ∧
      ∀ s ∈ own, (hub.used others use).1.backlog s = hub.backlog s := by
  have hother {s t : Subscription} (hs : s ∈ own) (ht : t ∈ others) : s ≠ t := by
    rintro rfl
    exact List.disjoint_of_nodup_append h.nodup hs ht
  cases use with
  | fire => simp [Hub.used, hclosed]
  | close => exact ⟨rfl, fun s _ => rfl⟩
  | subscribe => simp [Hub.used, hclosed]
  | receive t =>
    rw [Hub.used]
    split
    · rename_i ht
      obtain ⟨hopen, hfired⟩ := receive_isOpen hub t
      refine ⟨hopen.trans hclosed, fun s hs => ?_⟩
      rw [backlog, backlog, seen?_receive_of_ne hub (hother hs ht), hfired]
    · exact ⟨hclosed, fun _ _ => rfl⟩
  | unsubscribe t =>
    rw [Hub.used]
    split
    · rename_i ht
      refine ⟨hclosed, fun s hs => ?_⟩
      rw [backlog, backlog, seen?_unsubscribe, if_neg (hother hs ht)]
      rfl
    · exact ⟨hclosed, fun _ _ => rfl⟩

/-- To be told that the hub is gone changes nothing. -/
theorem eq_of_receive_closed {hub' : Hub} (h : hub.receive s = (.closed, hub')) : hub' = hub := by
  unfold receive at h
  split at h
  · exact (Prod.mk.inj h).2.symm
  · split at h
    · simp at h
    · exact (Prod.mk.inj h).2.symm

/-- A subscription that has passed all firings is told that the hub is gone. -/
theorem receive_of_closed (hclosed : hub.isOpen = false) (hb : hub.backlog s = 0) :
    hub.receive s = (.closed, hub) := by
  unfold backlog at hb
  unfold receive
  cases hs : hub.seen? s with
  | none => rfl
  | some passed =>
    have hpassed : ¬ passed < hub.fired := by
      rw [hs] at hb
      dsimp only at hb
      omega
    simp [hpassed, hclosed]

end Hub

namespace RunLoop

variable {σ : Type} {o : Outputs σ} {w : Scene σ} {loop next : RunLoop σ}

theorem start_of_rotates {pipeline : Pipeline σ}
    (h : pipeline.settings.delivery.rotateOnSignal = true) (hub : Hub) (channel : Channel)
    (now : Nat) :
    (start pipeline (some hub) channel now).hub = hub.subscribe.2 ∧
      (start pipeline (some hub) channel now).subscription = some hub.subscribe.1 := by
  simp [start, h]

/-- A pipeline that is not to rotate does not subscribe. -/
theorem start_of_not_rotates {pipeline : Pipeline σ}
    (h : pipeline.settings.delivery.rotateOnSignal = false) (trigger : Option Hub)
    (channel : Channel) (now : Nat) :
    (∀ hub, trigger = some hub → (start pipeline trigger channel now).hub = hub) ∧
      (start pipeline trigger channel now).subscription = none := by
  cases trigger <;> simp [start, h]

/-- The subscriptions of the hub are that of the loop and those of others. At its end the loop has
none. -/
structure Scene.Subscribed (w : Scene σ) : Prop where
  holds : w.loop.hub.Holds (w.loop.subscription.toList ++ w.others)
  finished : w.loop.isFinished = true → w.loop.subscription = none

namespace Scene.Subscribed

theorem start (pipeline : Pipeline σ) (trigger : Option Hub) (channel : Channel) (now : Nat) :
    (Scene.start pipeline trigger channel now).Subscribed where
  holds := by
    unfold Scene.start
    cases trigger with
    | none => exact ⟨List.nodup_nil, fun s => by simp [RunLoop.start, Hub.seen?]⟩
    | some hub =>
      dsimp only [Option.map_some, Option.getD_some]
      cases hr : pipeline.settings.delivery.rotateOnSignal with
      | false =>
        obtain ⟨hhub, hnone⟩ := start_of_not_rotates hr (some hub) channel now
        rw [hhub hub rfl, hnone]
        exact hub.holds_live
      | true =>
        obtain ⟨hhub, hsome⟩ := start_of_rotates hr hub channel now
        rw [hhub, hsome]
        have hnew := hub.holds_live.subscribe
        have hperm := List.perm_append_singleton hub.subscribe.1 hub.live
        exact ⟨hperm.nodup_iff.1 hnew.nodup, fun s => hperm.mem_iff.symm.trans (hnew.mem_iff s)⟩
  finished := by simp [Scene.start, RunLoop.start, isFinished]

theorem subscriberCount_eq (h : w.Subscribed) :
    w.loop.hub.subscriberCount = w.loop.subscription.toList.length + w.others.length := by
  rw [h.holds.subscriberCount_eq, List.length_append]

/-- The loop gives its subscription up. -/
theorem leave (h : w.Subscribed) {deeds : List Deed} (hs : next.subscription = none)
    (hh : next.hub = w.loop.hub.without w.loop.subscription) :
    ({ w with loop := next, deeds } : Scene σ).Subscribed where
  holds := by
    dsimp only
    rw [hs, hh]
    exact h.holds.without
  finished := fun _ => hs

theorem stay (h : w.Subscribed) {deeds : List Deed} (hs : next.subscription = w.loop.subscription)
    (hh : next.hub = w.loop.hub ∨ ∃ s, next.hub = (w.loop.hub.receive s).2)
    (hf : next.isFinished = false) :
    ({ w with loop := next, deeds } : Scene σ).Subscribed where
  holds := by
    dsimp only
    rw [hs]
    obtain hh | ⟨s, hh⟩ := hh <;> rw [hh]
    · exact h.holds
    · exact h.holds.receive s
  finished := by simp [hf]

theorem stride (h : w.Subscribed) (hstride : Stride o w.loop next) (deeds : List Deed) :
    ({ w with loop := next, deeds } : Scene σ).Subscribed := by
  cases hstride with
  | @rotate s number hub hp hc hs hr =>
    refine h.stay rfl (.inr ⟨s, by rw [hr]⟩) ?_
    cases hphase : w.loop.phase <;> simp_all [isFinished, Phase.isWaiting, Phase.resume]
  | @part s hub events hp hc hs hr =>
    obtain rfl := Hub.eq_of_receive_closed hr
    exact h.leave rfl (by rw [hs]; rfl)
  | crash _ _ => exact h.leave rfl rfl
  | conclude _ _ => exact h.leave rfl rfl
  | flush hp _ _ => exact h.stay rfl (.inl rfl) (by simp [isFinished, hp])
  | skip hp _ _ => exact h.stay rfl (.inl rfl) (by simp [isFinished, hp])
  | skipLate hp _ _ => exact h.stay rfl (.inl rfl) (by simp [isFinished, hp])
  | _ => exact h.stay rfl (.inl rfl) rfl

theorem after (h : w.Subscribed) (occasion : Occasion) : (w.after o occasion).Subscribed := by
  cases occasion with
  | work =>
    rcases w.work_cases o with hrest | ⟨next, hstride, hwork⟩
    · rwa [Scene.after, hrest]
    · rw [Scene.after, hwork]
      exact h.stride hstride _
  | trigger use => exact ⟨h.holds.used use, h.finished⟩
  | _ => exact ⟨h.holds, h.finished⟩

theorem run (h : w.Subscribed) (occasions : List Occasion) : (w.run o occasions).Subscribed :=
  run_keeps h fun _ hw occasion _ => hw.after occasion

end Scene.Subscribed

/-! ### After the hub is gone -/

/-- Firings that the loop has not heard of yet. -/
def owed (loop : RunLoop σ) : Nat :=
  match loop.subscription with
  | some s => loop.hub.backlog s
  | none => 0

/-- A firing that is heard of is no longer owed. -/
theorem Stride.owed (h : Stride o loop next) :
    next.hub.isOpen = loop.hub.isOpen ∧
      next.counters.triggered + next.owed ≤ loop.counters.triggered + loop.owed := by
  cases h with
  | @rotate s number hub hp hc hs hr =>
    have hopen := (Hub.receive_isOpen loop.hub s).1
    have hlt : (loop.hub.receive s).2.backlog s < loop.hub.backlog s :=
      Hub.backlog_receive_lt (congrArg Prod.fst hr)
    rw [hr] at hopen hlt
    refine ⟨hopen, ?_⟩
    simp only [RunLoop.owed, hs, Pipeline.Counters.addTriggered] at hlt ⊢
    omega
  | @part s hub events hp hc hs hr =>
    obtain rfl := Hub.eq_of_receive_closed hr
    exact ⟨rfl, Nat.add_le_add_left (Nat.zero_le _) _⟩
  | crash _ _ =>
    refine ⟨?_, Nat.add_le_add_left (Nat.zero_le _) _⟩
    cases loop.subscription <;> rfl
  | conclude _ _ =>
    refine ⟨?_, Nat.add_le_add_left (Nat.zero_le _) _⟩
    cases loop.subscription <;> rfl
  | _ => exact ⟨rfl, Nat.le_refl _⟩

namespace Scene

theorem Subscribed.owed_after (h : w.Subscribed) (hclosed : w.loop.hub.isOpen = false)
    (occasion : Occasion) :
    let next := w.after o occasion
    next.loop.hub.isOpen = false ∧
      next.loop.counters.triggered + next.loop.owed
        ≤ w.loop.counters.triggered + w.loop.owed := by
  intro next
  cases occasion with
  | work =>
    rcases w.work_cases o with hrest | ⟨after, hstride, hwork⟩
    · rw [show next = w from hrest]
      exact ⟨hclosed, Nat.le_refl _⟩
    · obtain ⟨hopen, hle⟩ := hstride.owed
      rw [show next = _ from hwork]
      exact ⟨hopen.trans hclosed, hle⟩
  | trigger use =>
    obtain ⟨hstill, hsame⟩ := h.holds.used_of_closed use hclosed
    refine ⟨hstill, Nat.le_of_eq ?_⟩
    have howed : next.loop.owed = w.loop.owed := by
      unfold RunLoop.owed
      rw [show next.loop.subscription = w.loop.subscription from rfl]
      cases hs : w.loop.subscription with
      | none => rfl
      | some s => exact hsame s (by simp [hs])
    rw [howed]
    rfl
  | _ => exact ⟨hclosed, Nat.le_refl _⟩

/-- A hub that is gone makes the loop rotate for the firings before, and for no others. -/
theorem Subscribed.owed_run (h : w.Subscribed) (hclosed : w.loop.hub.isOpen = false)
    (occasions : List Occasion) :
    let later := w.run o occasions
    later.loop.hub.isOpen = false ∧
      later.loop.counters.triggered + later.loop.owed
        ≤ w.loop.counters.triggered + w.loop.owed := by
  refine (run_keeps (P := fun w' => w'.Subscribed ∧ w'.loop.hub.isOpen = false ∧
    w'.loop.counters.triggered + w'.loop.owed ≤ w.loop.counters.triggered + w.loop.owed)
    ⟨h, hclosed, Nat.le_refl _⟩ ?_).2
  intro w' ⟨hw, hgone, hle⟩ occasion _
  obtain ⟨hnext, hle'⟩ := hw.owed_after (o := o) hgone occasion
  exact ⟨hw.after occasion, hnext, hle'.trans hle⟩

end Scene

theorem setPhase_eq_self {phase : Phase} (h : loop.phase = phase) : { loop with phase } = loop := by
  rw [← h]

/-- What a loop that waits hears of the trigger does not end it. -/
theorem step_of_news {received : Received} (hp : loop.phase.isWaiting = true)
    (hc : loop.isCancelled = false) (hn : loop.news = some (received, next)) :
    loop.step o = some { next.react o received with phase := loop.phase.resume } := by
  have hsame : (next.react o received).phase = loop.phase := by
    obtain ⟨hub, rfl⟩ := news_eq hn
    obtain ⟨_, _, _, _, heq⟩ := react_eq o received { loop with hub }
    rw [heq]
  unfold step
  cases hphase : loop.phase with
  | choosing =>
    rw [hphase] at hsame
    simp only [choose, hc, hn, Bool.false_eq_true, if_false, Phase.resume, setPhase_eq_self hsame]
  | holding line => simp only [RunLoop.hold, hc, hn, Bool.false_eq_true, if_false, Phase.resume]
  | _ => simp [hphase, Phase.isWaiting] at hp

/-- There always is something to hear of a hub that is gone. -/
theorem news_of_gone {s : Subscription} (hs : loop.subscription = some s)
    (hclosed : loop.hub.isOpen = false) :
    ∃ received hub, loop.hub.receive s = (received, hub) ∧
      loop.news = some (received, { loop with hub }) := by
  have hne : (loop.hub.receive s).1 ≠ .pending := by
    unfold Hub.receive
    split
    · simp
    · split <;> simp [hclosed]
  rcases hr : loop.hub.receive s with ⟨received, hub⟩
  rw [hr] at hne
  refine ⟨received, hub, rfl, ?_⟩
  unfold news
  split
  · rename_i hnone
    cases hs.symm.trans hnone
  · rename_i found hfound
    obtain rfl := Option.some.inj (hs.symm.trans hfound)
    rw [hr]
    cases received with
    | pending => exact absurd rfl hne
    | firing number => rfl
    | closed => rfl

/-- A loop that waits goes on when the hub is gone. Once the firings before are heard of, it gives
its subscription up, and that is all. -/
theorem step_of_gone {s : Subscription} (hp : loop.phase.isWaiting = true)
    (hc : loop.isCancelled = false) (hs : loop.subscription = some s)
    (hclosed : loop.hub.isOpen = false) :
    (∃ next, loop.step o = some next ∧ next.phase = loop.phase.resume ∧
        next.channel = loop.channel) ∧
      (loop.owed = 0 → ∃ events, loop.step o = some
        { loop with
          subscription := none
          hub := loop.hub.unsubscribe s
          session := { loop.session with events }
          phase := loop.phase.resume }) := by
  obtain ⟨received, hub, hr, hn⟩ := news_of_gone hs hclosed
  have hstep := step_of_news (o := o) hp hc hn
  obtain ⟨_, _, _, _, heq⟩ := react_eq o received { loop with hub }
  refine ⟨⟨_, hstep, rfl, by rw [heq]⟩, fun howed => ?_⟩
  simp only [owed, hs] at howed
  obtain ⟨rfl, rfl⟩ := Prod.mk.inj (hr.symm.trans (Hub.receive_of_closed hclosed howed))
  simp only [react, dropSubscription, hs] at hstep
  exact ⟨_, hstep⟩

/-! ### Without a subscription -/

theorem Stride.unsubscribed (h : Stride o loop next) (hs : loop.subscription = none) :
    next.subscription = none ∧ next.counters.triggered = loop.counters.triggered := by
  cases h with
  | rotate _ _ hsome _ => simp [hs] at hsome
  | part _ _ hsome _ => simp [hs] at hsome
  | crash _ _ => exact ⟨rfl, rfl⟩
  | conclude _ _ => exact ⟨rfl, rfl⟩
  | _ => exact ⟨hs, rfl⟩

section

variable (o : Outputs σ) (hub : Hub)

theorem process_hub (record : Record) (loop : RunLoop σ) :
    ({ loop with hub } : RunLoop σ).process record
      = ((loop.process record).1, { (loop.process record).2 with hub }) := by
  unfold process
  dsimp only
  split <;> rfl

theorem take_hub (record : Record) (rest : List Record) (loop : RunLoop σ) :
    ({ loop with hub } : RunLoop σ).take record rest = { loop.take record rest with hub } := by
  have hprocess :=
    process_hub hub record { loop with channel := { loop.channel with queue := rest } }
  unfold RunLoop.take
  rw [hprocess]
  rcases ({ loop with channel := { loop.channel with queue := rest } } : RunLoop σ).process record
    with ⟨_ | line, next⟩ <;> rfl

theorem flush_hub (hs : loop.subscription = none) :
    ({ loop with hub } : RunLoop σ).flush o = { loop.flush o with hub } := by
  unfold RunLoop.flush
  dsimp only
  rcases loop.session.flush o with ⟨_ | _ | _, session⟩
  · rfl
  · rfl
  · simp [crash, dropSubscription, hs]

theorem offer_hub (line : Bytes) (loop : RunLoop σ) :
    ({ loop with hub } : RunLoop σ).offer o line = { loop.offer o line with hub } := by
  unfold offer
  dsimp only
  rcases loop.session.write o line with ⟨rejected | _, session⟩
  · dsimp only
    split <;> rfl
  · rfl

theorem drain_hub (left : Option Bytes) (lost : Nat) (hs : loop.subscription = none) :
    ({ loop with hub } : RunLoop σ).drain o left lost = { loop.drain o left lost with hub } := by
  cases left with
  | some line =>
    simp only [RunLoop.drain, deliver]
    split
    · rfl
    · rcases loop.session.write o line with ⟨rejected | _, session⟩ <;> rfl
  | none =>
    unfold RunLoop.drain
    dsimp only
    cases hq : loop.channel.queue with
    | nil => simp [conclude, dropSubscription, hs]
    | cons record rest =>
      have hprocess :=
        process_hub hub record { loop with channel := { loop.channel with queue := rest } }
      dsimp only at hprocess ⊢
      rw [hprocess]

theorem choose_hub (hs : loop.subscription = none) :
    ({ loop with hub } : RunLoop σ).choose o
      = (loop.choose o).map fun next => { next with hub } := by
  have hnews (hub : Hub) : ({ loop with hub } : RunLoop σ).news = none := by simp [news, hs]
  have hsame : loop.news = none := hnews loop.hub
  unfold choose
  rw [hnews hub, hsame, flush_hub o hub hs]
  dsimp only
  split
  · rfl
  · split
    · rfl
    · cases loop.channel.queue with
      | cons record rest => exact congrArg some (take_hub hub record rest loop)
      | nil =>
        dsimp only
        split <;> rfl

theorem hold_hub (line : Bytes) (hs : loop.subscription = none) :
    ({ loop with hub } : RunLoop σ).hold o line
      = (loop.hold o line).map fun next => { next with hub } := by
  have hnews (hub : Hub) : ({ loop with hub } : RunLoop σ).news = none := by simp [news, hs]
  have hsame : loop.news = none := hnews loop.hub
  unfold RunLoop.hold
  rw [hnews hub, hsame]
  dsimp only
  split
  · rfl
  · split <;> rfl

/-- Without a subscription the hub makes no difference to a step. -/
theorem step_hub (hs : loop.subscription = none) :
    ({ loop with hub } : RunLoop σ).step o
      = (loop.step o).map fun next => { next with hub } := by
  unfold step
  cases hp : loop.phase with
  | choosing => simpa only [hp] using choose_hub o hub hs
  | offering line =>
    simpa only [hp, Option.map_some] using congrArg some (offer_hub o hub line loop)
  | holding line => simpa only [hp] using hold_hub o hub line hs
  | draining left lost =>
    simpa only [hp, Option.map_some] using congrArg some (drain_hub o hub left lost hs)
  | ended report => rfl
  | crashed => rfl

end

/-- Another scene shows the same, but for its trigger. -/
structure Scene.Unheard (w w' : Scene σ) : Prop where
  unsubscribed : w.loop.subscription = none
  loop : ∃ hub, w'.loop = { w.loop with hub }
  rotates : w'.rotates = w.rotates
  deeds : w'.deeds = w.deeds

def Occasion.isTrigger : Occasion → Bool
  | .trigger _ => true
  | _ => false

namespace Scene.Unheard

variable {w' : Scene σ}

theorem trigger (h : w.Unheard w') (use : Hub.Use) : (w.after o (.trigger use)).Unheard w' := by
  obtain ⟨hnone, ⟨hub, heq⟩, hrotates, hdeeds⟩ := h
  exact ⟨hnone, ⟨hub, heq⟩, hrotates, hdeeds⟩

theorem work (h : w.Unheard w') : (w.work o).Unheard (w'.work o) := by
  obtain ⟨hnone, ⟨hub, heq⟩, hrotates, hdeeds⟩ := h
  have hstep' := step_hub o hub hnone
  rw [← heq] at hstep'
  cases hstep : w.loop.step o with
  | none =>
    rw [hstep] at hstep'
    rw [work_none hstep, work_none hstep']
    exact ⟨hnone, ⟨hub, heq⟩, hrotates, hdeeds⟩
  | some next =>
    rw [hstep] at hstep'
    rw [work_some hstep, work_some hstep']
    refine ⟨((stride_of_step hstep).unsubscribed hnone).1, ⟨hub, rfl⟩, hrotates, ?_⟩
    dsimp only
    rw [hdeeds, heq]
    rfl

theorem after (h : w.Unheard w') {occasion : Occasion} (ht : occasion.isTrigger = false) :
    (w.after o occasion).Unheard (w'.after o occasion) := by
  cases occasion with
  | work => exact h.work
  | trigger use => simp [Occasion.isTrigger] at ht
  | sink c =>
    obtain ⟨hnone, ⟨hub, heq⟩, hrotates, hdeeds⟩ := h
    refine ⟨hnone, ⟨hub, ?_⟩, ?_, hdeeds⟩
    · simp only [Scene.after, callSink, heq]
    · simp only [Scene.after, callSink, heq, hrotates]
  | _ =>
    obtain ⟨hnone, ⟨hub, heq⟩, hrotates, hdeeds⟩ := h
    exact ⟨hnone, ⟨hub, by simp only [Scene.after, heq]; rfl⟩, hrotates, hdeeds⟩

theorem run (h : w.Unheard w') (occasions : List Occasion) :
    (w.run o occasions).Unheard (w'.run o (occasions.filter (!·.isTrigger))) := by
  induction occasions generalizing w w' with
  | nil => exact h
  | cons occasion occasions ih =>
    cases ht : occasion.isTrigger with
    | true =>
      rw [List.filter_cons_of_neg (by simp [ht])]
      cases occasion with
      | trigger use => exact ih (h.trigger use)
      | _ => simp [Occasion.isTrigger] at ht
    | false =>
      rw [List.filter_cons_of_pos (by simp [ht])]
      exact ih (h.after ht)

end Scene.Unheard

namespace Scene

theorem after_unsubscribed (h : w.loop.subscription = none) (occasion : Occasion) :
    (w.after o occasion).loop.subscription = none ∧
      (w.after o occasion).loop.counters.triggered = w.loop.counters.triggered := by
  by_cases hwork : occasion = .work
  · subst hwork
    rcases w.work_cases o with hrest | ⟨next, hstride, hwork⟩
    · rw [Scene.after, hrest]
      exact ⟨h, rfl⟩
    · rw [Scene.after, hwork]
      exact hstride.unsubscribed h
  · obtain ⟨-, _, _, _, _, _, heq⟩ := w.after_frame o hwork
    rw [heq]
    exact ⟨h, rfl⟩

/-- From then on a loop without a subscription rotates for no firing, and does what it would do if
the trigger was not used at all. -/
theorem run_unsubscribed (h : w.loop.subscription = none) (occasions : List Occasion) :
    let later := w.run o occasions
    later.loop.subscription = none ∧
      later.loop.counters.triggered = w.loop.counters.triggered ∧
      ∃ hub, (w.run o (occasions.filter (!·.isTrigger))).loop = { later.loop with hub } := by
  have hsame : w.Unheard w := ⟨h, ⟨w.loop.hub, rfl⟩, rfl, rfl⟩
  rw [← and_assoc]
  refine ⟨run_keeps (P := fun w' => w'.loop.subscription = none ∧
    w'.loop.counters.triggered = w.loop.counters.triggered) ⟨h, rfl⟩ ?_,
    (hsame.run occasions).loop⟩
  intro w' ⟨hnone, htriggered⟩ occasion _
  obtain ⟨hnext, heq⟩ := after_unsubscribed (o := o) hnone occasion
  exact ⟨hnext, heq.trans htriggered⟩

end Scene

end RunLoop

end RequestLog
