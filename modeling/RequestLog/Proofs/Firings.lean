import RequestLog.Proofs.Feeds
import Mathlib

/-! What the subscriptions of a hub get, however the steps of its clones interleave. A subscription
gets the numbers that are sent after it in the order in which they are sent; only one that is more
than 16 firings behind misses some, and those are the oldest. -/

namespace RequestLog

namespace Hub

namespace Watch

open Broadcast (broadcaster)

variable {σ : Type} {w : Watch Broadcast} {s : Subscription} {feed : Feed}

/-! ### What a subscription gets next -/

/-- A firing reaches the subscriptions that are there when it is sent. -/
theorem Inv.step_send (h : w.Inv) {number : Nat} (hnumber : number ∈ w.relay.inFlight) :
    (w.step broadcaster (.send number)).1 = .reached (w.feeds.countP (·.isLive)) := by
  have hreached : (w.relay.channel.send number).1.getD 0 = w.relay.channel.receiverCount := by
    unfold Broadcast.send
    split
    · exact (‹w.relay.channel.receiverCount = 0›).symm
    · rfl
  rw [← h.receiverCount_eq, ← hreached]
  simp only [Watch.step, Relay.step, if_pos hnumber, broadcaster]

theorem Inv.look_of_kept (h : w.Inv) (hfeed : w.feeds[s]? = some feed)
    (hlive : feed.isLive = true)
    (hkept : w.sent.length ≤ feed.next + capacity) {number : Nat}
    (hnumber : w.sent[feed.next]? = some number) :
    (w.relay.channel.look s).1 = .value number := by
  obtain ⟨position, -, hlook⟩ := h.look_eq hfeed hlive
  rw [hlook, if_neg (Nat.not_lt.2 hkept), hnumber]

theorem Inv.look_of_passed (h : w.Inv) (hfeed : w.feeds[s]? = some feed)
    (hlive : feed.isLive = true)
    (hnone : w.sent[feed.next]? = none) :
    w.relay.channel.look s =
      (if 0 < w.relay.clones then .empty else .closed, w.relay.channel) := by
  obtain ⟨position, -, hlook⟩ := h.look_eq hfeed hlive
  have hle := List.getElem?_eq_none_iff.1 hnone
  rw [hlook, if_neg (show ¬ feed.next + capacity < w.sent.length by omega), hnone]

/-- A subscription that is too far behind is told how many firings it misses, and then it is not. -/
theorem Inv.look_of_lag (h : w.Inv) (hfeed : w.feeds[s]? = some feed)
    (hlive : feed.isLive = true)
    (hlag : feed.next + capacity < w.sent.length) :
    ∃ missed, feed.next + missed + capacity = w.sent.length ∧
      (w.relay.channel.look s).1 = .lagged missed := by
  obtain ⟨position, -, hlook⟩ := h.look_eq hfeed hlive
  refine ⟨w.sent.length - capacity - feed.next, by omega, ?_⟩
  rw [hlook, if_pos hlag]

theorem step_look_value {number : Nat}
    (hlook : (w.relay.channel.look s).1 = .value number) :
    (w.step broadcaster (.look s)).2 =
      { w with
        relay := { w.relay with channel := (w.relay.channel.look s).2 }
        feeds := w.feeds.modify s (·.gets number) } := by
  change w.note _ (.look s) (.looked (w.relay.channel.look s).1) = _
  rw [hlook]
  rfl

theorem step_look_lagged {missed : Nat}
    (hlook : (w.relay.channel.look s).1 = .lagged missed) :
    (w.step broadcaster (.look s)).2 =
      { w with
        relay := { w.relay with channel := (w.relay.channel.look s).2 }
        feeds := w.feeds.modify s (·.misses missed) } := by
  change w.note _ (.look s) (.looked (w.relay.channel.look s).1) = _
  rw [hlook]
  rfl

theorem Inv.step_look_passed (h : w.Inv) (hfeed : w.feeds[s]? = some feed)
    (hlive : feed.isLive = true)
    (hnone : w.sent[feed.next]? = none) : (w.step broadcaster (.look s)).2 = w := by
  change w.note { w.relay with channel := (w.relay.channel.look s).2 } (.look s)
    (.looked (w.relay.channel.look s).1) = w
  rw [h.look_of_passed hfeed hlive hnone]
  by_cases hopen : 0 < w.relay.clones
  · rw [if_pos hopen]
    rfl
  · rw [if_neg hopen]
    rfl

/-- A subscription that is not too far behind gets the first firing that is left to it. -/
theorem Inv.answer_of_kept (h : w.Inv) (hfeed : w.feeds[s]? = some feed)
    (hlive : feed.isLive = true)
    (hkept : w.sent.length ≤ feed.next + capacity) :
    (w.relay.channel.look s).1.answer? = some (w.next feed) := by
  have hunread := (h.sound feed (List.mem_of_getElem? hfeed)).unread_eq h.nodup_sent
  rw [Nat.max_eq_left (by omega)] at hunread
  rw [Watch.next, hunread]
  cases hnumber : w.sent[feed.next]? with
  | some number =>
    obtain ⟨hlt, rfl⟩ := List.getElem?_eq_some_iff.1 hnumber
    rw [h.look_of_kept hfeed hlive hkept hnumber, List.drop_eq_getElem_cons hlt]
    rfl
  | none =>
    rw [h.look_of_passed hfeed hlive hnumber,
      List.drop_eq_nil_of_le (List.getElem?_eq_none_iff.1 hnumber)]
    by_cases hopen : 0 < w.relay.clones
    · simp only [if_pos hopen, Broadcast.Look.answer?]
    · simp only [if_neg hopen, Broadcast.Look.answer?]

theorem Inv.look_answer (h : w.Inv) (hfeed : w.feeds[s]? = some feed)
    (hlive : feed.isLive = true) :
    ∀ answer ∈ (w.relay.channel.look s).1.answer?, answer = w.next feed := by
  intro answer hanswer
  rcases Nat.lt_or_ge (feed.next + capacity) w.sent.length with hlag | hkept
  · obtain ⟨missed, -, hlook⟩ := h.look_of_lag hfeed hlive hlag
    rw [hlook] at hanswer
    cases hanswer
  · rw [h.answer_of_kept hfeed hlive hkept] at hanswer
    exact (Option.some.inj hanswer).symm

/-- A reception is a look for the next firing, or two if there is a miss. -/
theorem Inv.receive_eq (h : w.Inv) (hfeed : w.feeds[s]? = some feed)
    (hlive : feed.isLive = true) :
    (w.relay.channel.receive s).1 = w.next feed := by
  rcases Nat.lt_or_ge (feed.next + capacity) w.sent.length with hlag | hkept
  · obtain ⟨missed, hmissed, hlook⟩ := h.look_of_lag hfeed hlive hlag
    have hnext := h.look s
    rw [step_look_lagged hlook] at hnext
    have hanswer := hnext.answer_of_kept (getElem?_modify_self hfeed) hlive
      (by rw [feed.next_misses]; exact Nat.le_of_eq hmissed.symm)
    rw [Broadcast.receive_of_lagged (Prod.ext hlook rfl), Broadcast.receive_of_answer rfl hanswer]
    rfl
  · rw [Broadcast.receive_of_answer rfl (h.answer_of_kept hfeed hlive hkept)]

/-- Looking again and again gets one firing after the other. -/
theorem Inv.run_looks (h : w.Inv) (hfeed : w.feeds[s]? = some feed)
    (hlive : feed.isLive = true) (hkept : w.sent.length ≤ feed.next + capacity) (k : Nat) :
    ((w.run broadcaster (List.replicate k (.look s))).feeds[s]?).map Feed.got =
      some (feed.got ++ (w.sent.drop feed.next).take k) := by
  induction k generalizing w feed with
  | zero => simp [run, hfeed]
  | succ k ih =>
    rw [List.replicate_succ, run_cons]
    cases hnumber : w.sent[feed.next]? with
    | none =>
      have hnil := List.drop_eq_nil_of_le (List.getElem?_eq_none_iff.1 hnumber)
      rw [h.step_look_passed hfeed hlive hnumber, ih h hfeed hlive hkept, hnil, List.take_nil,
        List.take_nil]
    | some number =>
      have hlook := h.look_of_kept hfeed hlive hkept hnumber
      have hinv := h.look s
      have hnext := feed.next_gets number
      obtain ⟨hlt, rfl⟩ := List.getElem?_eq_some_iff.1 hnumber
      rw [step_look_value hlook] at hinv ⊢
      rw [ih hinv (getElem?_modify_self hfeed) hlive (by dsimp only; omega), hnext,
        List.drop_eq_getElem_cons hlt, List.take_succ_cons]
      simp [Feed.gets]

/-- After a miss and one look for each firing that is kept, nothing is left to read. -/
theorem Inv.run_looks_all (h : w.Inv) (hfeed : w.feeds[s]? = some feed)
    (hlive : feed.isLive = true) :
    ((w.run broadcaster (List.replicate (capacity + 1) (.look s))).feeds[s]?).map Feed.got =
      some (feed.got ++ feed.unread w.sent) := by
  have hunread := (h.sound feed (List.mem_of_getElem? hfeed)).unread_eq h.nodup_sent
  rw [hunread]
  rcases Nat.lt_or_ge (feed.next + capacity) w.sent.length with hlag | hkept
  · obtain ⟨missed, hmissed, hlook⟩ := h.look_of_lag hfeed hlive hlag
    have hnext := feed.next_misses missed
    have hinv := h.look s
    rw [List.replicate_succ, run_cons]
    rw [step_look_lagged hlook] at hinv ⊢
    have hlast : w.sent.length - capacity = feed.next + missed := by omega
    have hleft : (w.sent.drop (feed.next + missed)).length ≤ capacity := by
      rw [List.length_drop]
      omega
    rw [hinv.run_looks (getElem?_modify_self hfeed) hlive (by dsimp only; omega), hnext,
      List.take_of_length_le hleft, Nat.max_eq_right (by omega), hlast]
    rfl
  · rw [h.run_looks hfeed hlive hkept, List.take_of_length_le (by rw [List.length_drop]; omega),
      Nat.max_eq_left (by omega)]

/-- Only a look can tell a subscription of a miss. -/
theorem missed_note (relay : Relay Broadcast) (a : Step) (answer : Answer) {new : Feed}
    (hnew : (w.note relay a answer).feeds[s]? = some new) :
    new.missed = 0 ∨ ∃ old, w.feeds[s]? = some old ∧
      (new.missed = old.missed ∨
        ∃ missed, a = .look s ∧ answer = .looked (.lagged missed)) := by
  unfold note at hnew
  split at hnew
  · exact .inr ⟨new, hnew, .inl rfl⟩
  · rcases Nat.lt_or_ge s w.feeds.length with hlt | hge
    · rw [List.getElem?_append_left hlt] at hnew
      exact .inr ⟨new, hnew, .inl rfl⟩
    · rw [List.getElem?_append_right hge] at hnew
      obtain rfl := List.mem_singleton.1 (List.mem_of_getElem? hnew)
      exact .inl rfl
  · obtain ⟨old, hold, rfl | ⟨-, rfl⟩⟩ := getElem?_modify_cases hnew
    all_goals exact .inr ⟨_, hold, .inl rfl⟩
  · obtain ⟨old, hold, rfl | ⟨rfl, -⟩⟩ := getElem?_modify_cases hnew
    · exact .inr ⟨_, hold, .inl rfl⟩
    · exact .inr ⟨_, hold, .inr ⟨_, rfl, rfl⟩⟩
  · obtain ⟨old, hold, rfl | ⟨-, rfl⟩⟩ := getElem?_modify_cases hnew
    all_goals exact .inr ⟨_, hold, .inl rfl⟩
  · exact .inr ⟨new, hnew, .inl rfl⟩

/-- A subscription that is not too far behind misses nothing more. -/
theorem Inv.missed_step (h : w.Inv) (hnear : w.behind s ≤ capacity)
    (hnone : ∀ feed, w.feeds[s]? = some feed → feed.missed = 0) (a : Step) :
    ∀ feed, (w.step broadcaster a).2.feeds[s]? = some feed → feed.missed = 0 := by
  intro new hnew
  rcases missed_note _ _ _ hnew with hstart | ⟨old, hold, hsame | ⟨missed, rfl, hlagged⟩⟩
  · exact hstart
  · exact hsame.trans (hnone old hold)
  · have hlook : (w.relay.channel.look s).1 = .lagged missed := Answer.looked.inj hlagged
    cases hlive : old.isLive with
    | false =>
      have hclosed := h.look_closed fun feed hfeed => by
        obtain rfl := Option.some.inj (hold.symm.trans hfeed)
        exact hlive
      rw [hclosed] at hlook
      cases hlook
    | true =>
      have hkept : w.sent.length ≤ old.next + capacity := by
        rw [Watch.behind, hold] at hnear
        simp only [hlive, if_true] at hnear
        omega
      have hanswer := h.answer_of_kept hold hlive hkept
      rw [hlook] at hanswer
      cases hanswer

/-! ### Every run -/

variable (c : Broadcaster σ)

def view (w : Watch σ) : Watch Broadcast :=
  { relay := w.relay.view c, sent := w.sent, feeds := w.feeds }

theorem view_note (w : Watch σ) (relay : Relay σ) (a : Step) (answer : Answer) :
    (w.note relay a answer).view c = (w.view c).note (relay.view c) a answer := by
  cases a <;> cases answer <;> try rfl
  rename_i s found
  cases found <;> rfl

theorem view_step (w : Watch σ) (a : Step) :
    Prod.map id (view c) (w.step c a) = (w.view c).step broadcaster a := by
  have hrelay : Prod.map id (Relay.view c) (w.relay.step c a) =
      (w.view c).relay.step broadcaster a := w.relay.view_step c a
  rw [step, step, Prod.map_apply, view_note, ← hrelay]
  rfl

theorem view_run (w : Watch σ) (steps : List Step) :
    (w.run c steps).view c = (w.view c).run broadcaster steps := by
  induction steps generalizing w with
  | nil => rfl
  | cons a steps ih =>
    rw [run_cons, run_cons, ih, ← view_step]
    rfl

theorem inv_run (steps : List Step) : (((fresh c).run c steps).view c).Inv := by
  induction steps using List.reverseRecOn with
  | nil =>
    simp only [run, List.foldl_nil, view, fresh, Relay.view, c.view_create]
    exact inv_start
  | append_singleton steps a ih =>
    have hstep := ih.step a
    rw [← view_step] at hstep
    rw [run_concat]
    exact hstep

/-- What a step does to the firings. -/
theorem step_cases (w : Watch σ) (a : Step) :
    ((w.step c a).2.sent = w.sent ∧ (w.step c a).2.relay.inFlight = w.relay.inFlight) ∨
      ((w.step c a).2.sent = w.sent ∧
        (w.step c a).2.relay.inFlight = w.relay.inFlight ++ [w.relay.fired + 1]) ∨
      ∃ number ∈ w.relay.inFlight, (w.step c a).2.sent = w.sent ++ [number] ∧
        (w.step c a).2.relay.inFlight = w.relay.inFlight.erase number := by
  cases a with
  | clone =>
    left
    simp only [step, Relay.step]
    split <;> exact ⟨rfl, rfl⟩
  | dropClone =>
    left
    simp only [step, Relay.step]
    split <;> exact ⟨rfl, rfl⟩
  | subscribe =>
    left
    simp only [step, Relay.step]
    split <;> exact ⟨rfl, rfl⟩
  | count =>
    simp only [step, Relay.step]
    split
    · exact .inl ⟨rfl, rfl⟩
    · exact .inr (.inl ⟨rfl, rfl⟩)
  | send number =>
    simp only [step, Relay.step]
    split
    · exact .inr (.inr ⟨number, ‹_›, rfl, rfl⟩)
    · exact .inl ⟨rfl, rfl⟩
  | look s =>
    left
    simp only [step, Relay.step]
    cases (c.look s w.relay.channel).1 <;> exact ⟨rfl, rfl⟩
  | unsubscribe s => exact .inl ⟨rfl, rfl⟩

variable {c} in
theorem InOrder.concat {w : Watch σ} {steps : List Step} {m n : Nat}
    (h : w.InOrder c steps m n) (a : Step) : w.InOrder c (steps ++ [a]) m n :=
  h.imp_right fun ⟨hlt, before, hbefore, hboth⟩ =>
    ⟨hlt, before, hbefore.trans (List.prefix_append _ _), hboth⟩

/-- A firing is sent after those that were counted before it, unless they are in flight together. -/
theorem sent_inOrder (steps : List Step) :
    ((fresh c).run c steps).sent.Pairwise ((fresh c).InOrder c steps) ∧
      ∀ m ∈ ((fresh c).run c steps).sent, ∀ n ∈ ((fresh c).run c steps).relay.inFlight,
        (fresh c).InOrder c steps m n := by
  induction steps using List.reverseRecOn with
  | nil => simp [run, fresh]
  | append_singleton steps a ih =>
    obtain ⟨hsent, hflight⟩ := ih
    have hinv := inv_run c steps
    rw [run_concat]
    generalize hnow : (fresh c).run c steps = now at hsent hflight hinv ⊢
    have hsent' := hsent.imp fun h => InOrder.concat h a
    rcases step_cases c now a with ⟨hs, hf⟩ | ⟨hs, hf⟩ | ⟨number, hnumber, hs, hf⟩ <;> rw [hs, hf]
    · exact ⟨hsent', fun m hm n hn => (hflight m hm n hn).concat a⟩
    · refine ⟨hsent', fun m hm n hn => ?_⟩
      rcases List.mem_append.1 hn with hn | hn
      · exact (hflight m hm n hn).concat a
      · obtain rfl := List.mem_singleton.1 hn
        exact .inl (Nat.lt_succ_of_le (hinv.mem_iff.1 (.inl hm)).2)
    · have hnodup : now.relay.inFlight.Nodup := (List.nodup_append.1 hinv.nodup).2.1
      refine ⟨List.pairwise_append.2 ⟨hsent', List.pairwise_singleton _ _, fun m hm n hn => ?_⟩,
        fun m hm n hn => ?_⟩
      · obtain rfl := List.mem_singleton.1 hn
        exact (hflight m hm n hnumber).concat a
      · obtain ⟨hne, hold⟩ := hnodup.mem_erase_iff.1 hn
        rcases List.mem_append.1 hm with hm | hm
        · exact (hflight m hm n hold).concat a
        · obtain rfl := List.mem_singleton.1 hm
          refine (Nat.lt_or_gt_of_ne hne.symm).imp_right fun hlt =>
            ⟨hlt, steps, List.prefix_append _ _, ?_⟩
          rw [hnow]
          exact ⟨hnumber, hold⟩

theorem run_missed (steps : List Step)
    (hnear : ∀ before, before <+: steps → ((fresh c).run c before).behind s ≤ capacity) :
    ∀ feed, ((fresh c).run c steps).feeds[s]? = some feed → feed.missed = 0 := by
  induction steps using List.reverseRecOn with
  | nil => simp [run, fresh]
  | append_singleton steps a ih =>
    have hbefore : steps <+: steps ++ [a] := List.prefix_append _ _
    have hstep := (inv_run c steps).missed_step (hnear steps hbefore)
      (ih fun before h => hnear before (h.trans hbefore)) a
    rw [← view_step] at hstep
    rw [run_concat]
    exact hstep

end Watch

/-- A hub after any steps of its clones, over any channel that keeps the 16 latest values. Called
one after the other they answer as the hub with its plain counter. Firings are numbered one after
the other, each is sent once, and it reaches the subscriptions that are there when it is sent. A
subscription gets firings that are sent after it in that order, which is the order of their numbers
but for firings that overlapped; only those in flight at the subscription were counted before it.
Each time it gets the first one that it has not got and that is still kept, and nothing more only
once it has come to the latest. It misses none unless it is more than 16 behind. Once the hub is
gone, it comes to an end when nothing is left to read. -/
theorem run_hands_out {σ : Type} (c : Broadcaster σ) (name : String) (calls : List Call)
    (steps : List Step) :
    let fresh := Watch.fresh c
    let now := fresh.run c steps
    answers Shared.call { hub := { name } } calls = answers (Relay.call c) fresh.relay calls ∧
      (now.sent ++ now.relay.inFlight).Perm (List.range' 1 now.relay.fired) ∧
      (now.relay.inFlight ≠ [] → 0 < now.relay.clones) ∧
      (0 < now.relay.clones → (now.step c .count).1 = .counted (now.relay.fired + 1)) ∧
      (∀ n ∈ now.relay.inFlight,
        (now.step c (.send n)).1 = .reached (now.feeds.countP (·.isLive))) ∧
      ∀ (s : Subscription) (feed : Feed), now.feeds[s]? = some feed →
        (feed.got ++ feed.unread now.sent).Sublist (now.sent.drop feed.start) ∧
        now.sent.drop (max feed.start (now.sent.length - capacity)) <:+
          feed.got ++ feed.unread now.sent ∧
        ((∀ before, before <+: steps → (fresh.run c before).behind s ≤ capacity) →
          feed.got <+: now.sent.drop feed.start) ∧
        (feed.got ++ feed.unread now.sent).Pairwise (fresh.InOrder c steps) ∧
        (∀ n ∈ feed.got ++ feed.unread now.sent, feed.since < n ∨ n ∈ feed.inFlight) ∧
        (feed.isLive = true →
          (∃ found, (now.step c (.look s)).1 = .looked found ∧
            ∀ answer ∈ found.answer?, answer = now.next feed) ∧
          (now.relay.call c (.receive s)).1 = .received (now.next feed) ∧
          ((now.run c (List.replicate (capacity + 1) (.look s))).feeds[s]?).map Feed.got =
            some (feed.got ++ feed.unread now.sent)) := by
  intro fresh now
  have hinv : (now.view c).Inv := Watch.inv_run c steps
  have hanswer (a : Step) :
      (now.step c a).1 = ((now.view c).step Broadcast.broadcaster a).1 :=
    congrArg Prod.fst (Watch.view_step c now a)
  refine ⟨?_, hinv.numbers, hinv.held, fun hpos => ?_, fun n hn => ?_, fun s feed hfeed => ?_⟩
  · rw [Relay.answers_view, (relays_start name).answers_eq]
    simp only [fresh, Watch.fresh, Relay.view, c.view_create]
  · simp only [Watch.step, Relay.step, if_neg (Nat.ne_of_gt hpos)]
  · exact (hanswer (.send n)).trans (hinv.step_send hn)
  have hsound := hinv.sound feed (List.mem_of_getElem? hfeed)
  have hsublist := hsound.append_sublist hinv.nodup_sent
  refine ⟨hsublist, hsound.kept_suffix_append hinv.nodup_sent, fun hnear => ?_, ?_, fun n hn => ?_,
    fun hlive => ⟨?_, ?_, ?_⟩⟩
  · exact hsound.got_prefix (Watch.run_missed c steps hnear feed hfeed)
  · exact (Watch.sent_inOrder c steps).1.sublist (hsublist.trans (List.drop_sublist _ _))
  · exact hinv.later feed (List.mem_of_getElem? hfeed) n
      (List.mem_append_left _ (hsublist.subset hn))
  · exact ⟨_, hanswer (.look s), hinv.look_answer hfeed hlive⟩
  · have hcall := congrArg Prod.fst (now.relay.view_call c (.receive s))
    exact hcall.trans (congrArg Answer.received (hinv.receive_eq hfeed hlive))
  · have hall := hinv.run_looks_all hfeed hlive
    rw [← Watch.view_run] at hall
    exact hall

def firings (first count : Nat) : List Step :=
  (List.range' first count).flatMap fun n => [.count, .send n]

/-- Two firings overlap, and the second subscription comes while the first of them is in flight. The
first subscription falls behind. -/
def overrun : List Step :=
  [.subscribe, .count, .subscribe, .count, .send 2, .send 1, .look 1, .look 1] ++ firings 3 1 ++
    [.look 1] ++ firings 4 16 ++ [.look 0, .look 0]

theorem run_hands_out_overrun :
    let c := Broadcast.broadcaster
    let now := (Watch.fresh c).run c overrun
    let counted := (Watch.fresh c).run c (overrun ++ [.count])
    now.sent = [2, 1] ++ List.range' 3 17 ∧
      now.feeds =
        [{ since := 0, inFlight := [], start := 0, got := [4], missed := 3 },
          { since := 1, inFlight := [1], start := 0, got := [2, 1, 3] }] ∧
      (now.step c .count).1 = .counted 20 ∧
      (counted.step c (.send 20)).1 = .reached 2 ∧
      [2, 1, 3] <+: now.sent ∧
      (now.relay.call c (.receive 0)).1 = .received (.firing 5) ∧
      ((now.run c (List.replicate (capacity + 1) (.look 0))).feeds[0]?).map Feed.got =
        some (List.range' 4 16) ∧
      answers (Relay.call c) (Watch.fresh c).relay
        [.subscribe, .fire, .receive 0, .dropClone, .receive 0] =
        [.subscribed 0, .reached 1, .received (.firing 1), .nothing, .received .closed] := by
  intro c now counted
  obtain ⟨hcalls, -, -, hcount, -, hall⟩ := run_hands_out c "hangup"
    [.subscribe, .fire, .receive 0, .dropClone, .receive 0] overrun
  obtain ⟨-, -, -, -, hsend, -⟩ := run_hands_out c "hangup" [] (overrun ++ [.count])
  have hfeeds : now.feeds =
      [{ since := 0, inFlight := [], start := 0, got := [4], missed := 3 },
        { since := 1, inFlight := [1], start := 0, got := [2, 1, 3] }] := by decide +kernel
  obtain ⟨-, -, -, -, -, hlate⟩ := hall 0 _ (congrArg (·[0]?) hfeeds)
  obtain ⟨-, -, hcomplete, -⟩ := hall 1 _ (congrArg (·[1]?) hfeeds)
  obtain ⟨-, hreceive, hread⟩ := hlate rfl
  have hnear : ∀ before ∈ overrun.inits, ((Watch.fresh c).run c before).behind 1 ≤ capacity := by
    decide +kernel
  have hprefix : [2, 1, 3] <+: now.sent.drop 0 :=
    hcomplete fun before hbefore => hnear before ((List.mem_inits ..).2 hbefore)
  rw [List.drop_zero] at hprefix
  refine ⟨by decide +kernel, hfeeds, (hcount (by decide +kernel)).trans (by decide +kernel),
    (hsend 20 (by decide +kernel)).trans (by decide +kernel), hprefix,
    hreceive.trans (by decide +kernel), hread.trans (by decide +kernel), hcalls.symm.trans ?_⟩
  decide

/-- The second of two firings is sent first, though it is counted last. -/
def overtaking : List Step :=
  [.subscribe, .count, .count, .send 2, .send 1, .look 0, .look 0]

/-- A subscription comes when a firing is counted and not yet sent. -/
def joining : List Step := [.count, .subscribe, .send 1, .look 0]

/-- Numbers need not increase, nor come after the firings that are counted at the subscription. -/
theorem firings_overtake :
    let run := (Watch.fresh Broadcast.broadcaster).run Broadcast.broadcaster
    (∃ feed ∈ (run overtaking).feeds, feed.got = [2, 1] ∧ ¬ feed.got.Pairwise (· < ·)) ∧
      ∃ feed ∈ (run joining).feeds, feed.got = [1] ∧ ¬ ∀ n ∈ feed.got, feed.since < n :=
  ⟨⟨{ since := 0, inFlight := [], start := 0, got := [2, 1] }, by decide, rfl, by decide⟩,
    ⟨{ since := 1, inFlight := [1], start := 0, got := [1] }, by decide, rfl, by decide⟩⟩

end Hub

end RequestLog
