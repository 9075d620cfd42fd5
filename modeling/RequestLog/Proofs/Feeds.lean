import RequestLog.Proofs.Relays
import Mathlib

/-! What each subscription of a hub has got, beside all firings in the order in which they were
sent, and where its receiver is in the channel. -/

namespace RequestLog

namespace Hub

/-! ### The record of a run -/

/-- A subscription: the firings counted before it, those of them in flight then, how many were sent
before it, what it got and how many it was told it had missed. -/
structure Feed where
  since : Nat
  inFlight : List Nat
  start : Nat
  got : List Nat := []
  missed : Nat := 0
  isLive : Bool := true
deriving DecidableEq, Repr

namespace Feed

/-- The place of its next firing among all that are sent. -/
def next (feed : Feed) : Nat := feed.start + feed.got.length + feed.missed

def gets (number : Nat) (feed : Feed) : Feed := { feed with got := feed.got ++ [number] }

def misses (count : Nat) (feed : Feed) : Feed := { feed with missed := feed.missed + count }

def drop (feed : Feed) : Feed := { feed with isLive := false }

theorem start_le_next (feed : Feed) : feed.start ≤ feed.next := by
  simp only [next]
  omega

@[simp]
theorem next_gets (number : Nat) (feed : Feed) : (feed.gets number).next = feed.next + 1 := by
  simp only [gets, next, List.length_append, List.length_singleton]
  omega

@[simp]
theorem next_misses (count : Nat) (feed : Feed) : (feed.misses count).next = feed.next + count := by
  simp only [misses, next]
  omega

/-- The firings sent after it that are among the latest 16 and that it has not got. -/
def unread (sent : List Nat) (feed : Feed) : List Nat :=
  (sent.drop (max feed.start (sent.length - capacity))).filter (· ∉ feed.got)

end Feed

/-- A relay, the numbers that were sent in their order, and all subscriptions. -/
structure Watch (σ : Type) where
  relay : Relay σ
  sent : List Nat := []
  feeds : List Feed := []
deriving DecidableEq

namespace Watch

variable {σ : Type}

def fresh (c : Broadcaster σ) : Watch σ := { relay := { channel := c.create } }

/-- What a step and its answer add to the record. -/
def note (w : Watch σ) (relay : Relay σ) : Step → Answer → Watch σ
  | .send number, .reached _ => { w with relay, sent := w.sent ++ [number] }
  | .subscribe, .subscribed _ =>
    { w with
      relay
      feeds := w.feeds ++
        [{ since := w.relay.fired, inFlight := w.relay.inFlight, start := w.sent.length }] }
  | .look s, .looked (.value number) => { w with relay, feeds := w.feeds.modify s (·.gets number) }
  | .look s, .looked (.lagged missed) =>
    { w with relay, feeds := w.feeds.modify s (·.misses missed) }
  | .unsubscribe s, _ => { w with relay, feeds := w.feeds.modify s (·.drop) }
  | _, _ => { w with relay }

def step (c : Broadcaster σ) (w : Watch σ) (a : Step) : Answer × Watch σ :=
  ((w.relay.step c a).1, w.note (w.relay.step c a).2 a (w.relay.step c a).1)

def run (c : Broadcaster σ) (w : Watch σ) (steps : List Step) : Watch σ :=
  steps.foldl (fun w a => (w.step c a).2) w

theorem run_cons (c : Broadcaster σ) (w : Watch σ) (a : Step) (steps : List Step) :
    w.run c (a :: steps) = (w.step c a).2.run c steps := rfl

theorem run_concat (c : Broadcaster σ) (w : Watch σ) (steps : List Step) (a : Step) :
    w.run c (steps ++ [a]) = ((w.run c steps).step c a).2 := by
  simp [run, List.foldl_append]

/-- Two firings that were in flight at the same time. -/
def Overlapped (c : Broadcaster σ) (w : Watch σ) (steps : List Step) (m n : Nat) : Prop :=
  ∃ before, before <+: steps ∧
    m ∈ (w.run c before).relay.inFlight ∧ n ∈ (w.run c before).relay.inFlight

/-- A firing comes before those that are counted after it, unless they overlapped. -/
def InOrder (c : Broadcaster σ) (w : Watch σ) (steps : List Step) (m n : Nat) : Prop :=
  m < n ∨ n < m ∧ w.Overlapped c steps m n

def behind (w : Watch σ) (s : Subscription) : Nat :=
  match w.feeds[s]? with
  | some feed => if feed.isLive then w.sent.length - feed.next else 0
  | none => 0

/-- What a subscription gets once it is told of no more misses. -/
def next (w : Watch σ) (feed : Feed) : Received :=
  match feed.unread w.sent with
  | number :: _ => .firing number
  | [] => if 0 < w.relay.clones then .pending else .closed

end Watch

/-! ### What a subscription has got -/

structure Feed.Sound (feed : Feed) (sent : List Nat) : Prop where
  next_le : feed.next ≤ sent.length
  got_sublist : feed.got.Sublist ((sent.take feed.next).drop feed.start)
  kept_suffix : (sent.take feed.next).drop (max feed.start (sent.length - capacity)) <:+ feed.got

namespace Feed.Sound

variable {feed : Feed} {sent : List Nat}

theorem start (since : Nat) (inFlight sent : List Nat) :
    Sound { since, inFlight, start := sent.length } sent where
  next_le := Nat.le_refl _
  got_sublist := List.nil_sublist _
  kept_suffix := by
    rw [List.drop_eq_nil_of_le (by simp [Feed.next])]

theorem send (h : feed.Sound sent) (number : Nat) : feed.Sound (sent ++ [number]) where
  next_le := by
    have := h.next_le
    simp only [List.length_append]
    omega
  got_sublist := by
    rw [List.take_append_of_le_length h.next_le]
    exact h.got_sublist
  kept_suffix := by
    rw [List.take_append_of_le_length h.next_le, List.length_append]
    exact (List.drop_suffix_drop_left _ (by omega)).trans h.kept_suffix

theorem drop (h : feed.Sound sent) : feed.drop.Sound sent :=
  ⟨h.next_le, h.got_sublist, h.kept_suffix⟩

/-- The firing at its place is got. -/
theorem gets (h : feed.Sound sent) {number : Nat} (hnumber : sent[feed.next]? = some number) :
    (feed.gets number).Sound sent := by
  have hnext := feed.next_gets number
  have hlt := (List.getElem?_eq_some_iff.1 hnumber).1
  have hstart := feed.start_le_next
  have hlength : (sent.take feed.next).length = feed.next := by rw [List.length_take]; omega
  refine ⟨by omega, ?_, ?_⟩ <;>
    rw [hnext, List.take_add_one, hnumber, Option.toList_some,
      show (feed.gets number).start = feed.start from rfl,
      show (feed.gets number).got = feed.got ++ [number] from rfl]
  · rw [List.drop_append_of_le_length (by omega)]
    exact h.got_sublist.append (List.Sublist.refl _)
  · rcases Nat.lt_or_ge feed.next (max feed.start (sent.length - capacity)) with hlost | hkept
    · rw [List.drop_eq_nil_of_le (by rw [List.length_append, List.length_singleton]; omega)]
      exact List.nil_suffix
    · obtain ⟨skipped, hskipped⟩ := h.kept_suffix
      rw [List.drop_append_of_le_length (by omega), ← hskipped, List.append_assoc]
      exact List.suffix_append _ _

/-- Firings that are no longer kept are missed. -/
theorem misses (h : feed.Sound sent) {count : Nat}
    (hcount : feed.next + count + capacity = sent.length) : (feed.misses count).Sound sent := by
  have hnext := feed.next_misses count
  refine ⟨by omega, ?_, ?_⟩
  · have htake : sent.take feed.next <+: sent.take (feed.next + count) :=
      List.take_prefix_take_left (Nat.le_add_right _ _)
    rw [hnext]
    exact h.got_sublist.trans (htake.sublist.drop _)
  · rw [List.drop_eq_nil_of_le]
    · exact List.nil_suffix
    · rw [List.length_take]
      omega

theorem kept_split (h : feed.Sound sent)
    (hkept : max feed.start (sent.length - capacity) ≤ feed.next) :
    sent.drop (max feed.start (sent.length - capacity)) =
      (sent.take feed.next).drop (max feed.start (sent.length - capacity)) ++
        sent.drop feed.next := by
  have hnext := h.next_le
  rw [← List.drop_append_of_le_length (by rw [List.length_take]; omega), List.take_append_drop]

/-- What is left to read are the firings from its place on that are still kept. -/
theorem unread_eq (h : feed.Sound sent) (hnodup : sent.Nodup) :
    feed.unread sent = sent.drop (max feed.next (sent.length - capacity)) := by
  have hstart := feed.start_le_next
  have hgot : ∀ n ∈ feed.got, n ∈ sent.take feed.next := fun n hn =>
    List.mem_of_mem_drop (h.got_sublist.subset hn)
  have hnone {k : Nat} (hk : feed.next ≤ k) :
      (sent.drop k).filter (· ∉ feed.got) = sent.drop k :=
    List.filter_eq_self.2 fun n hn => decide_eq_true fun hmem =>
      List.disjoint_take_drop hnodup hk (hgot n hmem) hn
  unfold Feed.unread
  rcases Nat.lt_or_ge feed.next (max feed.start (sent.length - capacity)) with hlost | hkept
  · rw [hnone (Nat.le_of_lt hlost)]
    congr 1
    omega
  · -- what is kept of the firings before its place it has got
    rw [kept_split h hkept, List.filter_append, hnone (Nat.le_refl _), List.filter_eq_nil_iff.2,
      List.nil_append]
    · congr 1
      omega
    · intro n hn
      simpa using h.kept_suffix.subset hn

/-- What it has got and what is left to read ends with all firings that are still kept. -/
theorem kept_suffix_append (h : feed.Sound sent) (hnodup : sent.Nodup) :
    sent.drop (max feed.start (sent.length - capacity)) <:+ feed.got ++ feed.unread sent := by
  have hstart := feed.start_le_next
  rw [h.unread_eq hnodup]
  rcases Nat.lt_or_ge feed.next (max feed.start (sent.length - capacity)) with hlost | hkept
  · rw [show max feed.start (sent.length - capacity) = max feed.next (sent.length - capacity) by
      omega]
    exact List.suffix_append _ _
  · obtain ⟨skipped, hskipped⟩ := h.kept_suffix
    have hnext : max feed.next (sent.length - capacity) = feed.next := by omega
    rw [h.kept_split hkept, hnext]
    exact ⟨skipped, by rw [← List.append_assoc, hskipped]⟩

theorem append_sublist (h : feed.Sound sent) (hnodup : sent.Nodup) :
    (feed.got ++ feed.unread sent).Sublist (sent.drop feed.start) := by
  have hsplit : (sent.take feed.next).drop feed.start ++ sent.drop feed.next =
      sent.drop feed.start := by
    have hstart := feed.start_le_next
    have hnext := h.next_le
    rw [← List.drop_append_of_le_length (by rw [List.length_take]; omega), List.take_append_drop]
  rw [h.unread_eq hnodup, ← hsplit]
  exact h.got_sublist.append (List.drop_sublist_drop_left _ (Nat.le_max_left _ _))

/-- A subscription that missed nothing got all firings up to its place. -/
theorem got_prefix (h : feed.Sound sent) (hmissed : feed.missed = 0) :
    feed.got <+: sent.drop feed.start := by
  have hlength : ((sent.take feed.next).drop feed.start).length = feed.got.length := by
    have hnext := h.next_le
    rw [List.length_drop, List.length_take, Nat.min_eq_left hnext, Feed.next, hmissed]
    omega
  rw [h.got_sublist.eq_of_length hlength.symm, List.drop_take]
  exact List.take_prefix _ _

end Feed.Sound

/-! ### Where the receivers of the channel are -/

/-- The receiver of a subscription has the same values before it as the subscription has firings. -/
inductive Feed.Follows (log sent : List Nat) : Option Nat → Feed → Prop where
  | dropped {feed : Feed} (h : feed.isLive = false) : Follows log sent none feed
  | live {feed : Feed} {position : Nat} (h : feed.isLive = true) (hle : position ≤ log.length)
      (hleft : log.drop position = sent.drop feed.next) : Follows log sent (some position) feed

namespace Feed.Follows

variable {log sent : List Nat} {cursor : Option Nat} {feed : Feed}

theorem isSome_eq (h : feed.Follows log sent cursor) : cursor.isSome = feed.isLive := by
  cases h with
  | dropped hlive => exact hlive.symm
  | live hlive => exact hlive.symm

theorem exists_position (h : feed.Follows log sent cursor) (hlive : feed.isLive = true) :
    ∃ position, cursor = some position ∧ position ≤ log.length ∧
      log.drop position = sent.drop feed.next := by
  cases h with
  | dropped hdropped => exact absurd hlive (by simp [hdropped])
  | live _ hle hleft => exact ⟨_, rfl, hle, hleft⟩

/-- A subscription that was dropped has no receiver. -/
theorem of_dropped (h : feed.Follows log sent cursor) (hdropped : feed.isLive = false)
    (sent' : List Nat) : feed.Follows log sent' cursor := by
  cases h with
  | dropped hlive => exact .dropped hlive
  | live hlive => exact absurd hlive (by simp [hdropped])

theorem send (h : feed.Follows log sent cursor) (hnext : feed.next ≤ sent.length) (number : Nat) :
    feed.Follows (log ++ [number]) (sent ++ [number]) cursor := by
  cases h with
  | dropped hlive => exact .dropped hlive
  | live hlive hle hleft =>
    refine .live hlive (by rw [List.length_append]; omega) ?_
    rw [List.drop_append_of_le_length hle, List.drop_append_of_le_length hnext, hleft]

/-- A receiver that passes more values has as many more firings behind it. -/
theorem advance {feed' : Feed} {position k : Nat} (h : feed.Follows log sent (some position))
    (hlive : feed'.isLive = feed.isLive) (hnext : feed'.next = feed.next + k)
    (hle : feed'.next ≤ sent.length) : feed'.Follows log sent (some (position + k)) := by
  cases h with
  | live hlive' _ hleft =>
    have hlength := congrArg List.length hleft
    simp only [List.length_drop] at hlength
    refine .live (hlive.trans hlive') (by omega) ?_
    rw [hnext, ← List.drop_drop, ← List.drop_drop, hleft]

end Feed.Follows

/-- What holds of a relay and its record at any time. -/
structure Watch.Inv (w : Watch Broadcast) : Prop where
  isOpen : w.relay.channel.isOpen = decide (0 < w.relay.clones)
  held : w.relay.inFlight ≠ [] → 0 < w.relay.clones
  numbers : (w.sent ++ w.relay.inFlight).Perm (List.range' 1 w.relay.fired)
  length : w.relay.channel.cursors.length = w.feeds.length
  since_le : ∀ feed ∈ w.feeds, feed.since ≤ w.relay.fired
  later : ∀ feed ∈ w.feeds, ∀ n ∈ w.sent.drop feed.start ++ w.relay.inFlight,
    feed.since < n ∨ n ∈ feed.inFlight
  sound : ∀ feed ∈ w.feeds, feed.Sound w.sent
  follows : ∃ log, w.relay.channel.Keeps log ∧ ∀ (s : Subscription) (feed : Feed),
    w.feeds[s]? = some feed → feed.Follows log w.sent w.relay.channel.cursors[s]?.join

namespace Watch

open Broadcast (broadcaster)

variable {w : Watch Broadcast}

theorem inv_start : Inv { relay := { channel := {} } } where
  isOpen := rfl
  held := by simp
  numbers := by simp
  length := rfl
  since_le := by simp
  later := by simp
  sound := by simp
  follows := ⟨[], Broadcast.keeps_start, by simp⟩

theorem Inv.nodup (h : w.Inv) : (w.sent ++ w.relay.inFlight).Nodup :=
  h.numbers.nodup_iff.2 List.nodup_range'

theorem Inv.nodup_sent (h : w.Inv) : w.sent.Nodup := (List.nodup_append.1 h.nodup).1

theorem Inv.mem_iff (h : w.Inv) {n : Nat} :
    n ∈ w.sent ∨ n ∈ w.relay.inFlight ↔ 1 ≤ n ∧ n ≤ w.relay.fired := by
  rw [← List.mem_append, h.numbers.mem_iff, List.mem_range'_1]
  omega

theorem Inv.receiverCount_eq (h : w.Inv) :
    w.relay.channel.receiverCount = w.feeds.countP (·.isLive) := by
  obtain ⟨log, -, hfollows⟩ := h.follows
  have hmap : w.relay.channel.cursors.map Option.isSome = w.feeds.map (·.isLive) := by
    refine List.ext_getElem? fun s => ?_
    rw [List.getElem?_map, List.getElem?_map]
    cases hfeed : w.feeds[s]? with
    | none =>
      have hle := List.getElem?_eq_none_iff.1 hfeed
      simp [List.getElem?_eq_none (h.length ▸ hle)]
    | some feed =>
      have hlt : s < w.relay.channel.cursors.length :=
        h.length ▸ (List.getElem?_eq_some_iff.1 hfeed).1
      have hs := (hfollows s feed hfeed).isSome_eq
      rw [List.getElem?_eq_getElem hlt] at hs ⊢
      simpa using hs
  exact Broadcast.countP_eq_of_map_eq hmap

theorem getElem?_modify_self {f : Feed → Feed} {feeds : List Feed} {s : Subscription} {feed : Feed}
    (hfeed : feeds[s]? = some feed) : (feeds.modify s f)[s]? = some (f feed) := by
  rw [List.getElem?_modify_eq, hfeed]
  rfl

theorem getElem?_modify_cases {f : Feed → Feed} {feeds : List Feed} {s s' : Subscription}
    {new : Feed} (h : (feeds.modify s f)[s']? = some new) :
    ∃ old, feeds[s']? = some old ∧ (new = old ∨ s = s' ∧ new = f old) := by
  rw [List.getElem?_modify] at h
  obtain ⟨old, hold, rfl⟩ := Option.map_eq_some_iff.1 h
  refine ⟨old, hold, ?_⟩
  split
  · exact .inr ⟨‹_›, rfl⟩
  · exact .inl rfl

/-- One receiver moves with its subscription, and the others stay. -/
theorem Inv.modify (h : w.Inv) {s : Subscription} {feed : Feed} (hs : w.feeds[s]? = some feed)
    {f : Feed → Feed} {cursor : Option Nat}
    (hf : (f feed).since = feed.since ∧ (f feed).start = feed.start ∧
      (f feed).inFlight = feed.inFlight)
    (hsound : (f feed).Sound w.sent)
    (hfollows : ∀ log, feed.Follows log w.sent w.relay.channel.cursors[s]?.join →
      (f feed).Follows log w.sent cursor) :
    Inv { w with
      relay := { w.relay with
        channel := { w.relay.channel with cursors := w.relay.channel.cursors.set s cursor } }
      feeds := w.feeds.modify s f } := by
  have hmem {new : Feed} (hnew : new ∈ w.feeds.modify s f) : new ∈ w.feeds ∨ new = f feed := by
    obtain ⟨s', hs'⟩ := List.mem_iff_getElem?.1 hnew
    obtain ⟨old, hold, rfl | ⟨rfl, rfl⟩⟩ := getElem?_modify_cases hs'
    · exact .inl (List.mem_of_getElem? hold)
    · obtain rfl := Option.some.inj (hs.symm.trans hold)
      exact .inr rfl
  have hfeed := List.mem_of_getElem? hs
  obtain ⟨log, hkeeps, hall⟩ := h.follows
  refine ⟨h.isOpen, h.held, h.numbers, by simpa using h.length, ?_, ?_, ?_, log,
    ⟨hkeeps.sent, hkeeps.kept⟩, ?_⟩
  · intro new hnew
    rcases hmem hnew with hold | rfl
    · exact h.since_le new hold
    · rw [hf.1]
      exact h.since_le feed hfeed
  · intro new hnew
    rcases hmem hnew with hold | rfl
    · exact h.later new hold
    · rw [hf.1, hf.2.1, hf.2.2]
      exact h.later feed hfeed
  · intro new hnew
    rcases hmem hnew with hold | rfl
    · exact h.sound new hold
    · exact hsound
  · intro s' new hnew
    by_cases heq : s = s'
    · subst heq
      obtain rfl := Option.some.inj ((getElem?_modify_self hs).symm.trans hnew)
      have hlt : s < w.relay.channel.cursors.length :=
        h.length ▸ (List.getElem?_eq_some_iff.1 hs).1
      rw [List.getElem?_set_self hlt, Option.join_some]
      exact hfollows log (hall s feed hs)
    · obtain ⟨old, hold, rfl | ⟨hsame, -⟩⟩ := getElem?_modify_cases hnew
      · rw [List.getElem?_set_ne heq]
        exact hall s' _ hold
      · exact absurd hsame heq

theorem Inv.count (h : w.Inv) (hclones : w.relay.clones ≠ 0) :
    Inv { w with
      relay := { w.relay with
        fired := w.relay.fired + 1
        inFlight := w.relay.inFlight ++ [w.relay.fired + 1] } } where
  isOpen := h.isOpen
  held := fun _ => Nat.pos_of_ne_zero hclones
  numbers := by
    rw [← List.append_assoc, List.range'_1_concat, Nat.add_comm 1]
    exact h.numbers.append_right _
  length := h.length
  since_le := fun feed hfeed => Nat.le_succ_of_le (h.since_le feed hfeed)
  later := by
    intro feed hfeed n hn
    rw [← List.append_assoc, List.mem_append, List.mem_singleton] at hn
    rcases hn with hn | rfl
    · exact h.later feed hfeed n hn
    · exact .inl (Nat.lt_succ_of_le (h.since_le feed hfeed))
  sound := h.sound
  follows := h.follows

/-- Nothing that was sent before is for a new subscription. -/
theorem Inv.subscribe (h : w.Inv) :
    Inv { w with
      relay := { w.relay with channel := w.relay.channel.subscribe.2 }
      feeds := w.feeds ++
        [{ since := w.relay.fired, inFlight := w.relay.inFlight, start := w.sent.length }] } where
  isOpen := h.isOpen
  held := h.held
  numbers := h.numbers
  length := by simp [Broadcast.subscribe, h.length]
  since_le := by
    simp only [List.mem_append, List.mem_singleton]
    rintro feed (hold | rfl)
    · exact h.since_le feed hold
    · exact Nat.le_refl _
  later := by
    simp only [List.mem_append, List.mem_singleton]
    rintro feed (hold | rfl) n hn
    · exact h.later feed hold n (List.mem_append.2 hn)
    · rw [List.drop_length] at hn
      exact .inr (hn.resolve_left List.not_mem_nil)
  sound := by
    simp only [List.mem_append, List.mem_singleton]
    rintro feed (hold | rfl)
    · exact h.sound feed hold
    · exact .start _ _ _
  follows := by
    obtain ⟨log, hkeeps, hall⟩ := h.follows
    refine ⟨log, ⟨hkeeps.sent, hkeeps.kept⟩, fun s feed hfeed => ?_⟩
    simp only [Broadcast.subscribe]
    have hle : s ≤ w.feeds.length := by
      obtain ⟨hlt, -⟩ := List.getElem?_eq_some_iff.1 hfeed
      simp only [List.length_append, List.length_singleton] at hlt
      exact Nat.le_of_lt_succ hlt
    rcases Nat.lt_or_eq_of_le hle with hlt | rfl
    · rw [List.getElem?_append_left hlt] at hfeed
      rw [List.getElem?_append_left (h.length ▸ hlt)]
      exact hall s feed hfeed
    · rw [List.getElem?_concat_length] at hfeed
      obtain rfl := Option.some.inj hfeed
      rw [← h.length, List.getElem?_concat_length, Option.join_some]
      refine .live rfl (Nat.le_of_eq hkeeps.sent) ?_
      rw [hkeeps.sent, List.drop_length]
      exact List.drop_length.symm

/-- A firing that nobody could receive is sent to no place of the channel. -/
theorem Inv.send (h : w.Inv) {number : Nat} (hnumber : number ∈ w.relay.inFlight) :
    Inv { w with
      relay := { w.relay with
        channel := (w.relay.channel.send number).2
        inFlight := w.relay.inFlight.erase number }
      sent := w.sent ++ [number] } where
  isOpen := by
    rw [← h.isOpen]
    simp only [Broadcast.send]
    split <;> rfl
  held := fun _ => h.held (List.ne_nil_of_mem hnumber)
  numbers := by
    rw [List.append_assoc, List.singleton_append]
    exact ((List.perm_cons_erase hnumber).symm.append_left _).trans h.numbers
  length := by
    rw [← h.length]
    simp only [Broadcast.send]
    split <;> rfl
  since_le := h.since_le
  later := by
    intro feed hfeed n hn
    refine h.later feed hfeed n ?_
    rw [List.mem_append] at hn ⊢
    rcases hn with hn | hn
    · rw [List.drop_append, List.mem_append] at hn
      refine hn.imp_right fun hn => ?_
      obtain rfl := List.mem_singleton.1 (List.mem_of_mem_drop hn)
      exact hnumber
    · exact .inr (List.mem_of_mem_erase hn)
  sound := fun feed hfeed => (h.sound feed hfeed).send number
  follows := by
    obtain ⟨log, hkeeps, hall⟩ := h.follows
    have hcursors : (w.relay.channel.send number).2.cursors = w.relay.channel.cursors := by
      simp only [Broadcast.send]
      split <;> rfl
    by_cases hnone : w.relay.channel.receiverCount = 0
    · have hsame : (w.relay.channel.send number).2 = w.relay.channel := by
        rw [Broadcast.send, if_pos hnone]
      refine ⟨log, by rwa [hsame], fun s feed hfeed => ?_⟩
      have hdropped : feed.isLive = false := by
        have := List.countP_eq_zero.1 (h.receiverCount_eq.symm.trans hnone) feed
          (List.mem_of_getElem? hfeed)
        simpa using this
      rw [hcursors]
      exact (hall s feed hfeed).of_dropped hdropped _
    · refine ⟨log ++ [number], hkeeps.send hnone number, fun s feed hfeed => ?_⟩
      have hnext := (h.sound feed (List.mem_of_getElem? hfeed)).next_le
      rw [hcursors]
      exact (hall s feed hfeed).send hnext number

/-- A subscription finds the firing at its place among those that were sent, unless that one is no
longer kept. -/
theorem Inv.look_eq (h : w.Inv) {s : Subscription} {feed : Feed} (hfeed : w.feeds[s]? = some feed)
    (hlive : feed.isLive = true) :
    ∃ position, w.relay.channel.cursors[s]?.join = some position ∧
      w.relay.channel.look s =
        if feed.next + capacity < w.sent.length then
          (.lagged (w.sent.length - capacity - feed.next),
            w.relay.channel.moveTo s (position + (w.sent.length - capacity - feed.next)))
        else
          match w.sent[feed.next]? with
          | some number => (.value number, w.relay.channel.moveTo s (position + 1))
          | none =>
            (if 0 < w.relay.clones then .empty else .closed, w.relay.channel) := by
  obtain ⟨log, hkeeps, hall⟩ := h.follows
  have hnext := (h.sound feed (List.mem_of_getElem? hfeed)).next_le
  obtain ⟨position, hcursor, hle, hleft⟩ := (hall s feed hfeed).exists_position hlive
  have hlength := congrArg List.length hleft
  have hhead := congrArg (·[0]?) hleft
  simp only [List.length_drop] at hlength
  simp only [List.getElem?_drop, Nat.add_zero] at hhead
  refine ⟨position, hcursor, ?_⟩
  rw [hkeeps.look hcursor hle, hhead, h.isOpen]
  simp only [decide_eq_true_eq]
  by_cases hlag : feed.next + capacity < w.sent.length
  · rw [if_pos hlag, if_pos (by omega)]
    congr 2 <;> omega
  · have hlag' : ¬ position + capacity < log.length := by omega
    cases w.sent[feed.next]? <;> simp only [if_neg hlag, if_neg hlag']

theorem Inv.look_closed (h : w.Inv) {s : Subscription}
    (hnone : ∀ feed, w.feeds[s]? = some feed → feed.isLive = false) :
    w.relay.channel.look s = (.closed, w.relay.channel) := by
  obtain ⟨log, -, hall⟩ := h.follows
  have hcursor : w.relay.channel.cursors[s]?.join = none := by
    cases hfeed : w.feeds[s]? with
    | none =>
      have hle := List.getElem?_eq_none_iff.1 hfeed
      rw [List.getElem?_eq_none (h.length ▸ hle), Option.join_none]
    | some feed =>
      have hs := (hall s feed hfeed).isSome_eq
      rwa [hnone feed hfeed, Option.isSome_eq_false_iff, Option.isNone_iff_eq_none] at hs
  rw [Broadcast.look, hcursor]

theorem Inv.look (h : w.Inv) (s : Subscription) : (w.step broadcaster (.look s)).2.Inv := by
  change (w.note _ (.look s) (.looked _)).Inv
  change (w.note { w.relay with channel := (w.relay.channel.look s).2 } (.look s)
    (.looked (w.relay.channel.look s).1)).Inv
  by_cases hlive : ∃ feed, w.feeds[s]? = some feed ∧ feed.isLive = true
  · obtain ⟨feed, hfeed, hlive⟩ := hlive
    obtain ⟨position, hcursor, hlook⟩ := h.look_eq hfeed hlive
    have hsound := h.sound feed (List.mem_of_getElem? hfeed)
    rw [hlook]
    by_cases hlag : feed.next + capacity < w.sent.length
    · rw [if_pos hlag]
      have hmissed : (feed.misses (w.sent.length - capacity - feed.next)).Sound w.sent :=
        hsound.misses (by omega)
      refine h.modify hfeed ⟨rfl, rfl, rfl⟩ hmissed fun log hfollows => ?_
      rw [hcursor] at hfollows
      exact hfollows.advance rfl (feed.next_misses _) hmissed.next_le
    · rw [if_neg hlag]
      cases hnumber : w.sent[feed.next]? with
      | none =>
        by_cases hopen : 0 < w.relay.clones
        · rw [if_pos hopen]
          exact h
        · rw [if_neg hopen]
          exact h
      | some number =>
        have hgot := hsound.gets hnumber
        refine h.modify hfeed ⟨rfl, rfl, rfl⟩ hgot fun log hfollows => ?_
        rw [hcursor] at hfollows
        exact hfollows.advance rfl (feed.next_gets _) hgot.next_le
  · have hnone : ∀ feed, w.feeds[s]? = some feed → feed.isLive = false := fun feed hfeed =>
      Bool.eq_false_iff.2 fun h => hlive ⟨feed, hfeed, h⟩
    rw [h.look_closed hnone]
    exact h

theorem Inv.unsubscribe (h : w.Inv) (s : Subscription) :
    (w.step broadcaster (.unsubscribe s)).2.Inv := by
  change (w.note { w.relay with channel := w.relay.channel.unsubscribe s } (.unsubscribe s)
    .nothing).Inv
  cases hfeed : w.feeds[s]? with
  | none =>
    have hle := List.getElem?_eq_none_iff.1 hfeed
    have hfeeds : w.feeds.modify s (·.drop) = w.feeds := List.modify_eq_self hle
    have hcursors : w.relay.channel.cursors.set s none = w.relay.channel.cursors :=
      List.set_eq_of_length_le (h.length ▸ hle)
    simp only [note, Broadcast.unsubscribe, hfeeds, hcursors]
    exact h
  | some feed =>
    have hsound := h.sound feed (List.mem_of_getElem? hfeed)
    exact h.modify hfeed ⟨rfl, rfl, rfl⟩ hsound.drop fun log _ => .dropped rfl

theorem Inv.step (h : w.Inv) (a : Step) : (w.step broadcaster a).2.Inv := by
  cases a with
  | clone =>
    simp only [Watch.step, Relay.step, note]
    split
    · exact h
    · rename_i hclones
      refine { h with isOpen := ?_, held := fun _ => Nat.succ_pos _ }
      rw [h.isOpen]
      simp only [decide_eq_decide]
      omega
  | dropClone =>
    simp only [Watch.step, Relay.step]
    split
    · exact h
    · rename_i hidle
      by_cases hlast : w.relay.clones ≤ 1
      · have hnone : w.relay.inFlight = [] := by simpa [hlast] using hidle
        obtain ⟨log, hkeeps, hall⟩ := h.follows
        simp only [note, if_pos hlast]
        refine { h with
          isOpen := ?_, held := fun hne => absurd hnone hne
          follows := ⟨log, ⟨hkeeps.sent, hkeeps.kept⟩, hall⟩ }
        have hgone : w.relay.clones - 1 = 0 := by omega
        rw [hgone]
        rfl
      · simp only [note, if_neg hlast]
        refine { h with isOpen := ?_, held := fun _ => by dsimp only; omega }
        rw [h.isOpen]
        simp only [decide_eq_decide]
        omega
  | subscribe =>
    simp only [Watch.step, Relay.step]
    split
    · exact h
    · exact h.subscribe
  | count =>
    simp only [Watch.step, Relay.step]
    split
    · exact h
    · exact h.count ‹_›
  | send number =>
    simp only [Watch.step, Relay.step]
    split
    · exact h.send ‹_›
    · exact h
  | look s => exact h.look s
  | unsubscribe s => exact h.unsubscribe s

end Watch

end Hub

end RequestLog
