import RequestLog.Trigger.Hub
import Mathlib.Data.List.Basic

/-! A hub is a counter over a broadcast channel. The channel keeps the latest values that were sent.
A receiver that has fallen behind is told how many values it missed, and goes on with the oldest one
that is kept; a hub looks again then, so that its subscribers never see the miss. -/

namespace RequestLog

/-- What is to be known of a channel that hands every value to all its receivers. -/
structure Broadcast where
  /-- Values sent so far, without those that nobody could receive. -/
  sent : Nat := 0
  /-- The values that are kept, the oldest first. -/
  kept : List Nat := []
  /-- How many values each receiver has passed. One that was dropped keeps its place. -/
  cursors : List (Option Nat) := []
  isOpen : Bool := true

namespace Broadcast

inductive Look where
  | value (value : Nat)
  | lagged (missed : Nat)
  | empty
  | closed
deriving DecidableEq, Repr

def receiverCount (b : Broadcast) : Nat := b.cursors.countP Option.isSome

/-- Values that were sent before the oldest one that is kept. -/
def forgotten (b : Broadcast) : Nat := b.sent - b.kept.length

/-- The number of receivers that the value reaches. With none it is not sent at all. -/
def send (value : Nat) (b : Broadcast) : Option Nat × Broadcast :=
  if b.receiverCount = 0 then (none, b)
  else
    (some b.receiverCount,
      { b with
        sent := b.sent + 1
        kept := (b.kept ++ [value]).drop (b.kept.length + 1 - Hub.capacity) })

/-- A new receiver gets what is sent after it. -/
def subscribe (b : Broadcast) : Nat × Broadcast :=
  (b.cursors.length, { b with cursors := b.cursors ++ [some b.sent] })

def unsubscribe (receiver : Nat) (b : Broadcast) : Broadcast :=
  { b with cursors := b.cursors.set receiver none }

def close (b : Broadcast) : Broadcast := { b with isOpen := false }

def moveTo (receiver position : Nat) (b : Broadcast) : Broadcast :=
  { b with cursors := b.cursors.set receiver (some position) }

def look (receiver : Nat) (b : Broadcast) : Look × Broadcast :=
  match b.cursors[receiver]?.join with
  | none => (.closed, b)
  | some position =>
    if position < b.forgotten then
      (.lagged (b.forgotten - position), b.moveTo receiver b.forgotten)
    else
      match b.kept[position - b.forgotten]? with
      | some value => (.value value, b.moveTo receiver (position + 1))
      | none => (if b.isOpen then .empty else .closed, b)

/-- Values that a receiver has missed without being told. -/
def lag (receiver : Nat) (b : Broadcast) : Nat :=
  match b.cursors[receiver]?.join with
  | none => 0
  | some position => b.forgotten - position

theorem lt_length_of_join {l : List (Option Nat)} {i n : Nat} (h : l[i]?.join = some n) :
    i < l.length := by
  by_contra hle
  simp [List.getElem?_eq_none (Nat.not_lt.1 hle)] at h

theorem countP_eq_of_map_eq {α β : Type} {p : α → Bool} {q : β → Bool} {l : List α} {l' : List β}
    (h : l.map p = l'.map q) : l.countP p = l'.countP q := by
  have hmap := congrArg (List.countP id) h
  rwa [List.countP_map, List.countP_map] at hmap

theorem lag_lt_of_lagged {receiver missed : Nat} {b next : Broadcast}
    (h : b.look receiver = (.lagged missed, next)) : next.lag receiver < b.lag receiver := by
  unfold look at h
  cases hc : b.cursors[receiver]?.join with
  | none => simp [hc] at h
  | some position =>
    simp only [hc] at h
    split at h
    · rename_i hlt
      obtain ⟨-, rfl⟩ := Prod.mk.inj h
      have hmoved : (b.moveTo receiver b.forgotten).lag receiver = 0 := by
        simp [lag, moveTo, lt_length_of_join hc, forgotten]
      rw [hmoved]
      simp only [lag, hc]
      omega
    · split at h
      · simp at h
      · split at h <;> simp at h

end Broadcast

/-- A channel. All that it does is told by what is known of its state. -/
structure Broadcaster (σ : Type) where
  create : σ
  send : Nat → σ → Option Nat × σ
  subscribe : σ → Nat × σ
  unsubscribe : Nat → σ → σ
  close : σ → σ
  look : Nat → σ → Broadcast.Look × σ
  view : σ → Broadcast
  view_create : view create = {}
  view_send (value : Nat) (s : σ) : Prod.map id view (send value s) = (view s).send value
  view_subscribe (s : σ) : Prod.map id view (subscribe s) = (view s).subscribe
  view_unsubscribe (receiver : Nat) (s : σ) :
    view (unsubscribe receiver s) = (view s).unsubscribe receiver
  view_close (s : σ) : view (close s) = (view s).close
  view_look (receiver : Nat) (s : σ) : Prod.map id view (look receiver s) = (view s).look receiver

namespace Broadcaster

variable {σ : Type} {c : Broadcaster σ} {s t : σ}

theorem view_of_look {receiver : Nat} {found : Broadcast.Look}
    (h : c.look receiver s = (found, t)) :
    (c.view s).look receiver = (found, c.view t) := by
  rw [← c.view_look, h]
  rfl

/-- Looks until it is told of no more misses. -/
def receive (c : Broadcaster σ) (receiver : Nat) (s : σ) : Received × σ :=
  match _h : c.look receiver s with
  | (.value number, t) => (.firing number, t)
  | (.lagged _, t) => c.receive receiver t
  | (.empty, t) => (.pending, t)
  | (.closed, t) => (.closed, t)
termination_by (c.view s).lag receiver
decreasing_by exact Broadcast.lag_lt_of_lagged (view_of_look _h)

end Broadcaster

namespace Broadcast

/-- The channel that is no more than what is to be known of it. -/
def broadcaster : Broadcaster Broadcast where
  create := {}
  send := send
  subscribe := subscribe
  unsubscribe := unsubscribe
  close := close
  look := look
  view := id
  view_create := rfl
  view_send := fun _ _ => rfl
  view_subscribe := fun _ => rfl
  view_unsubscribe := fun _ _ => rfl
  view_close := fun _ => rfl
  view_look := fun _ _ => rfl

def receive (receiver : Nat) (b : Broadcast) : Received × Broadcast :=
  broadcaster.receive receiver b

/-! ### The values that are kept -/

/-- The channel was given these values while it had receivers, and keeps the latest of them. -/
structure Keeps (b : Broadcast) (log : List Nat) : Prop where
  sent : b.sent = log.length
  kept : b.kept = log.drop (log.length - Hub.capacity)

section

variable {b : Broadcast} {log : List Nat}

theorem keeps_start : Keeps {} [] := ⟨rfl, rfl⟩

theorem Keeps.send (h : b.Keeps log) (hreceivers : b.receiverCount ≠ 0) (value : Nat) :
    (b.send value).2.Keeps (log ++ [value]) := by
  unfold Broadcast.send
  rw [if_neg hreceivers]
  constructor
  · simp [h.sent]
  · have hcapacity : Hub.capacity = 16 := rfl
    simp only [h.kept, List.length_drop, List.length_append, List.length_singleton]
    rw [← List.drop_append_of_le_length (by omega), List.drop_drop]
    congr 1
    omega

/-- A receiver finds the value at its place, unless that one is no longer kept. -/
theorem Keeps.look (h : b.Keeps log) {receiver position : Nat}
    (hc : b.cursors[receiver]?.join = some position) (hle : position ≤ log.length) :
    b.look receiver =
      if position + Hub.capacity < log.length then
        (.lagged (log.length - Hub.capacity - position),
          b.moveTo receiver (log.length - Hub.capacity))
      else
        match log[position]? with
        | some value => (.value value, b.moveTo receiver (position + 1))
        | none => (if b.isOpen then .empty else .closed, b) := by
  have hforgotten : b.forgotten = log.length - Hub.capacity := by
    unfold forgotten
    rw [h.sent, h.kept, List.length_drop]
    omega
  simp only [Broadcast.look, hc, hforgotten]
  by_cases hlag : position + Hub.capacity < log.length
  · rw [if_pos hlag, if_pos (by omega)]
  · rw [if_neg hlag, if_neg (by omega), h.kept, List.getElem?_drop]
    rw [show log.length - Hub.capacity + (position - (log.length - Hub.capacity)) = position by
      omega]

end

/-! ### The channel behind a hub -/

/-- A cursor in the channel beside the last number that a subscription of the hub has passed: so
many values are left as there are firings, and those that are kept are the latest numbers. -/
inductive Level (sent : Nat) (kept : List Nat) (fired : Nat) : Option Nat → Option Nat → Prop where
  | dropped : Level sent kept fired none none
  | live {position seen : Nat} (hle : position ≤ sent) (hleft : position + fired = seen + sent)
      (hkept : ∀ i value, kept[i]? = some value → position + kept.length ≤ sent + i →
        value + kept.length = fired + 1 + i) : Level sent kept fired (some position) (some seen)

structure Carries (b : Broadcast) (hub : Hub) : Prop where
  isOpen : b.isOpen = hub.isOpen
  length_kept : b.kept.length = min b.sent Hub.capacity
  length_cursors : b.cursors.length = hub.seen.length
  level : ∀ s : Subscription, Level b.sent b.kept hub.fired b.cursors[s]?.join hub.seen[s]?.join

variable {b : Broadcast} {hub : Hub}

section

variable {sent fired position seen : Nat} {kept : List Nat} {cursor number : Option Nat}

theorem Level.isSome_eq (h : Level sent kept fired cursor number) :
    cursor.isSome = number.isSome := by
  cases h <;> rfl

/-- A receiver that passes more values has passed as many more numbers. -/
theorem Level.advance (h : Level sent kept fired (some position) (some seen)) {n : Nat}
    (hle : position + n ≤ sent) :
    Level sent kept fired (some (position + n)) (some (seen + n)) := by
  cases h with
  | live _ hleft hkept =>
    exact .live hle (by omega) fun i value hi hge => hkept i value hi (by omega)

end

theorem carries_start (name : String) : Carries {} { name } where
  isOpen := rfl
  length_kept := rfl
  length_cursors := rfl
  level := fun s => by simpa using Level.dropped

theorem Carries.receiverCount_eq (h : Carries b hub) : b.receiverCount = hub.subscriberCount := by
  have hmap : b.cursors.map Option.isSome = hub.seen.map Option.isSome := by
    refine List.ext_getElem? fun i => ?_
    have hlevel := (h.level i).isSome_eq
    rw [List.getElem?_map, List.getElem?_map]
    by_cases hi : i < b.cursors.length
    · have hi' : i < hub.seen.length := h.length_cursors ▸ hi
      simpa [hi, hi'] using hlevel
    · have hi' : ¬ i < hub.seen.length := h.length_cursors ▸ hi
      simp [List.getElem?_eq_none (Nat.not_lt.1 hi), List.getElem?_eq_none (Nat.not_lt.1 hi')]
  exact countP_eq_of_map_eq hmap

theorem Carries.forgotten_add (h : Carries b hub) : b.forgotten + b.kept.length = b.sent := by
  have := h.length_kept
  unfold forgotten
  omega

/-- One receiver moves, and the others stay. -/
theorem Carries.set (h : Carries b hub) {s : Subscription} {position seen : Option Nat}
    (hlevel : Level b.sent b.kept hub.fired position seen) :
    Carries { b with cursors := b.cursors.set s position }
      { hub with seen := hub.seen.set s seen } where
  isOpen := h.isOpen
  length_kept := h.length_kept
  length_cursors := by simpa using h.length_cursors
  level := by
    intro s'
    by_cases heq : s = s'
    · subst heq
      by_cases hs : s < b.cursors.length
      · have hs' : s < hub.seen.length := h.length_cursors ▸ hs
        simpa [hs, hs'] using hlevel
      · have hs' : ¬ s < hub.seen.length := h.length_cursors ▸ hs
        simpa [hs, hs'] using Level.dropped
    · simpa [List.getElem?_set_ne heq] using h.level s'

theorem Carries.unsubscribe (h : Carries b hub) (s : Subscription) :
    Carries (b.unsubscribe s) (hub.unsubscribe s) :=
  h.set .dropped

theorem Carries.close (h : Carries b hub) : Carries b.close hub.close :=
  { h with isOpen := rfl }

theorem Carries.subscribe (h : Carries b hub) :
    b.subscribe.1 = hub.subscribe.1 ∧ Carries b.subscribe.2 hub.subscribe.2 := by
  refine ⟨h.length_cursors, h.isOpen, h.length_kept, ?_, fun s => ?_⟩
  · simpa [Broadcast.subscribe, Hub.subscribe] using h.length_cursors
  · simp only [Broadcast.subscribe, Hub.subscribe]
    rcases Nat.lt_trichotomy s b.cursors.length with hs | rfl | hs
    · rw [List.getElem?_append_left hs, List.getElem?_append_left (h.length_cursors ▸ hs)]
      exact h.level s
    · -- nothing that was sent before is for the new receiver
      simp only [List.getElem?_concat_length]
      rw [h.length_cursors, List.getElem?_concat_length]
      refine .live (Nat.le_refl _) (Nat.add_comm _ _) fun i value hi hge => ?_
      have := (List.getElem?_eq_some_iff.1 hi).1
      omega
    · have hs' : hub.seen.length < s := h.length_cursors ▸ hs
      rw [List.getElem?_eq_none (by simp; omega), List.getElem?_eq_none (by simp; omega)]
      exact .dropped

/-- A firing is one more value, which pushes out the oldest if there is no room. -/
theorem Carries.fire (h : Carries b hub) :
    (b.send (hub.fired + 1)).1.getD 0 = hub.fire.1 ∧
      Carries (b.send (hub.fired + 1)).2 hub.fire.2 := by
  unfold send Hub.fire
  have hcount := h.receiverCount_eq
  split
  · rename_i hnone
    refine ⟨by simp [← hcount, hnone], h.isOpen, h.length_kept, h.length_cursors, fun s => ?_⟩
    have hdropped : b.cursors[s]?.join = none := by
      by_contra hsome
      obtain ⟨position, hp⟩ := Option.ne_none_iff_exists'.1 hsome
      have hmem : some position ∈ b.cursors :=
        List.mem_of_getElem? (Option.join_eq_some_iff.1 hp)
      exact absurd rfl (List.countP_eq_zero.1 hnone _ hmem)
    have hlost : hub.seen[s]?.join = none := by
      simpa [hdropped] using (h.level s).isSome_eq.symm
    simpa only [hdropped, hlost] using Level.dropped
  · refine ⟨by simp [hcount], h.isOpen, ?_, h.length_cursors, fun s => ?_⟩
    · have := h.length_kept
      simp only [List.length_drop, List.length_append, List.length_singleton]
      omega
    · have hlevel := h.level s
      revert hlevel
      dsimp only
      generalize b.cursors[s]?.join = position
      generalize hub.seen[s]?.join = seen
      intro hlevel
      cases hlevel with
      | dropped => exact .dropped
      | @live position seen hle hleft hkept =>
        refine .live (by omega) (by omega) fun i value hi hge => ?_
        have hlength := h.length_kept
        rw [List.getElem?_drop] at hi
        simp only [List.length_drop, List.length_append, List.length_singleton] at hge ⊢
        -- either a value that was kept before, or the new one
        have hlt := (List.getElem?_eq_some_iff.1 hi).1
        simp only [List.length_append, List.length_singleton] at hlt
        rcases Nat.lt_or_ge (b.kept.length + 1 - Hub.capacity + i) b.kept.length with hold | hnew
        · rw [List.getElem?_append_left hold] at hi
          have := hkept _ value hi (by omega)
          omega
        · rw [List.getElem?_append_right hnew,
            show b.kept.length + 1 - Hub.capacity + i - b.kept.length = 0 by omega] at hi
          obtain rfl : hub.fired + 1 = value := by simpa using hi
          omega

/-- What a receiver that is told of a miss has to look for again; all else is an answer. -/
def Look.answer? : Look → Option Received
  | .value number => some (.firing number)
  | .lagged _ => none
  | .empty => some .pending
  | .closed => some .closed

theorem receive_of_answer {s : Subscription} {found : Look} {next : Broadcast} {answer : Received}
    (h : b.look s = (found, next)) (ha : found.answer? = some answer) :
    b.receive s = (answer, next) := by
  change broadcaster.look s b = (found, next) at h
  cases found <;> simp only [Look.answer?, Option.some.injEq, reduceCtorEq] at ha
  all_goals
    subst ha
    rw [receive, Broadcaster.receive]
    split <;> simp_all

theorem receive_of_lagged {s : Subscription} {next : Broadcast} {missed : Nat}
    (h : b.look s = (.lagged missed, next)) : b.receive s = next.receive s := by
  change broadcaster.look s b = (.lagged missed, next) at h
  rw [receive, Broadcaster.receive]
  split <;> simp_all [receive]

/-- A receiver that is not behind the values that are kept gets the next number. -/
theorem Carries.receive_kept (h : Carries b hub) {s : Subscription} {position seen : Nat}
    (hc : b.cursors[s]?.join = some position) (hs : hub.seen[s]?.join = some seen)
    (hle : b.forgotten ≤ position) (hlt : position < b.sent) :
    b.receive s = (.firing (seen + 1), b.moveTo s (position + 1)) := by
  have hlevel := h.level s
  rw [hc, hs] at hlevel
  cases hlevel with
  | live _ hleft hkept =>
    have hadd := h.forgotten_add
    have hi : position - b.forgotten < b.kept.length := by omega
    have hvalue := hkept _ _ (List.getElem?_eq_getElem hi) (by omega)
    have hlook : b.look s = (.value (seen + 1), b.moveTo s (position + 1)) := by
      simp only [look, hc, if_neg (Nat.not_lt.2 hle), List.getElem?_eq_getElem hi]
      congr 2
      omega
    exact receive_of_answer hlook rfl

/-- A receiver that has passed every value. -/
theorem Carries.receive_passed (h : Carries b hub) {s : Subscription}
    (hc : b.cursors[s]?.join = some b.sent) :
    b.receive s = (if b.isOpen then .pending else .closed, b) := by
  have hadd := h.forgotten_add
  have hnone : b.kept[b.sent - b.forgotten]? = none := List.getElem?_eq_none (by omega)
  have hlook : b.look s = (if b.isOpen then .empty else .closed, b) := by
    simp only [look, hc, if_neg (show ¬ b.sent < b.forgotten by omega), hnone]
  refine receive_of_answer hlook ?_
  cases b.isOpen <;> rfl

/-- The hub gives each subscription what its receiver finds once it is told of no more misses. -/
theorem Carries.receive (h : Carries b hub) (s : Subscription) :
    (b.receive s).1 = (hub.receive s).1 ∧ Carries (b.receive s).2 (hub.receive s).2 := by
  have hadd := h.forgotten_add
  have hlength := h.length_kept
  have hcapacity : Hub.capacity = 16 := rfl
  have hlevel := h.level s
  unfold Hub.receive Hub.seen?
  cases hc : b.cursors[s]?.join with
  | none =>
    have hs : hub.seen[s]?.join = none := by simpa [hc] using hlevel.isSome_eq.symm
    have hlook : b.look s = (.closed, b) := by simp only [look, hc]
    rw [hs, receive_of_answer hlook rfl]
    exact ⟨rfl, h⟩
  | some position =>
    obtain ⟨seen, hs⟩ : ∃ seen, hub.seen[s]?.join = some seen :=
      Option.isSome_iff_exists.1 (by simpa [hc] using hlevel.isSome_eq.symm)
    rw [hc, hs] at hlevel
    rw [hs]
    obtain ⟨hle, hleft⟩ : position ≤ b.sent ∧ position + hub.fired = seen + b.sent := by
      cases hlevel with
      | live hle hleft _ => exact ⟨hle, hleft⟩
    rcases Nat.lt_or_eq_of_le hle with hlt | rfl
    · simp only [if_pos (show seen < hub.fired by omega)]
      rcases Nat.lt_or_ge position b.forgotten with hbehind | hkept
      · -- it goes on with the oldest value, which is as far back as the channel is long
        have hlook : b.look s = (.lagged (b.forgotten - position), b.moveTo s b.forgotten) := by
          simp only [look, hc, if_pos hbehind]
        obtain ⟨n, hn⟩ : ∃ n, b.forgotten = position + n :=
          ⟨b.forgotten - position, by omega⟩
        have hmoved := h.set (s := s) (hlevel.advance (n := n) (by omega))
        have hnext : hub.nextAfter seen = seen + n + 1 := by
          simp only [Hub.nextAfter]
          omega
        have hc' : (b.cursors.set s (some (position + n)))[s]?.join = some (position + n) := by
          simp [lt_length_of_join hc]
        have hs' : (hub.seen.set s (some (seen + n)))[s]?.join = some (seen + n) := by
          simp [lt_length_of_join hs]
        have hreceive := hmoved.receive_kept hc' hs' (Nat.le_of_eq hn)
          (show position + n < b.sent by omega)
        have hafter := h.set (s := s) (hlevel.advance (n := n + 1) (by omega))
        rw [receive_of_lagged hlook, hn, hnext]
        rw [show b.moveTo s (position + n) = _ from rfl, moveTo, hreceive]
        refine ⟨rfl, ?_⟩
        simpa only [moveTo, List.set_set, Nat.add_assoc] using hafter
      · have hnext : hub.nextAfter seen = seen + 1 := by
          simp only [Hub.nextAfter]
          omega
        rw [h.receive_kept hc hs hkept hlt, hnext]
        exact ⟨rfl, h.set (hlevel.advance hlt)⟩
    · simp only [if_neg (show ¬ seen < hub.fired by omega)]
      rw [h.receive_passed hc, h.isOpen]
      exact ⟨rfl, h⟩

end Broadcast

/-- What a subscriber gets of a channel is told by what is known of it. -/
theorem Broadcaster.view_receive {σ : Type} (c : Broadcaster σ) (receiver : Nat) (s : σ) :
    Prod.map id c.view (c.receive receiver s) = (c.view s).receive receiver := by
  fun_induction c.receive receiver s with
  | case1 s number t h => rw [Broadcast.receive_of_answer (view_of_look h) rfl]; rfl
  | case2 s missed t h ih => rw [Broadcast.receive_of_lagged (view_of_look h), ih]
  | case3 s t h => rw [Broadcast.receive_of_answer (view_of_look h) rfl]; rfl
  | case4 s t h => rw [Broadcast.receive_of_answer (view_of_look h) rfl]; rfl

end RequestLog
