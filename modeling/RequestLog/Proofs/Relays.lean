import RequestLog.Proofs.Broadcast
import Mathlib.Data.List.Basic

/-! A hub of which there are clones: a counter over a channel, which all of them share. A firing
takes two steps: it is counted, and then its number is sent over the channel. The counter is one
atomic and the channel has a lock, but nothing holds the two together, so that firings in flight at
the same time can be sent in another order than they were counted. Where each one is sent before
another is counted, that is the hub with its plain counter. -/

namespace RequestLog

namespace Hub

/-- A step that no other one interrupts. To count a firing is one, to send it another one; and who
waits for a firing looks until there is an answer. -/
inductive Step where
  | clone
  | dropClone
  | subscribe
  | count
  | send (number : Nat)
  | look (subscription : Subscription)
  | unsubscribe (subscription : Subscription)
deriving DecidableEq, Repr

/-- A call that comes to its end before another one begins. -/
inductive Call where
  | clone
  | dropClone
  | subscribe
  | fire
  | receive (subscription : Subscription)
  | unsubscribe (subscription : Subscription)
deriving DecidableEq, Repr

inductive Answer where
  | nothing
  | subscribed (subscription : Subscription)
  | counted (number : Nat)
  | reached (count : Nat)
  | looked (found : Broadcast.Look)
  | received (found : Received)
deriving DecidableEq, Repr

def answers {σ : Type} (call : σ → Call → Answer × σ) (s : σ) : List Call → List Answer
  | [] => []
  | a :: calls => (call s a).1 :: answers call (call s a).2 calls

/-- A counter of firings over a channel, which its clones share. -/
structure Relay (σ : Type) where
  channel : σ
  /-- Without a bound, as in a hub. -/
  fired : Nat := 0
  clones : Nat := 1
  /-- Numbers that are counted and not yet sent. -/
  inFlight : List Nat := []
deriving DecidableEq

namespace Relay

variable {σ : Type}

def step (c : Broadcaster σ) (r : Relay σ) : Step → Answer × Relay σ
  | .clone => (.nothing, if r.clones = 0 then r else { r with clones := r.clones + 1 })
  | .dropClone =>
    -- a firing in flight borrows a clone, so the last one stays
    if r.clones ≤ 1 ∧ r.inFlight ≠ [] then (.nothing, r)
    else
      (.nothing,
        { r with
          clones := r.clones - 1
          channel := if r.clones ≤ 1 then c.close r.channel else r.channel })
  | .subscribe =>
    if r.clones = 0 then (.nothing, r)
    else (.subscribed (c.subscribe r.channel).1, { r with channel := (c.subscribe r.channel).2 })
  | .count =>
    if r.clones = 0 then (.nothing, r)
    else
      (.counted (r.fired + 1),
        { r with fired := r.fired + 1, inFlight := r.inFlight ++ [r.fired + 1] })
  | .send number =>
    if number ∈ r.inFlight then
      (.reached ((c.send number r.channel).1.getD 0),
        { r with channel := (c.send number r.channel).2, inFlight := r.inFlight.erase number })
    else (.nothing, r)
  | .look s => (.looked (c.look s r.channel).1, { r with channel := (c.look s r.channel).2 })
  | .unsubscribe s => (.nothing, { r with channel := c.unsubscribe s r.channel })

/-- A firing that nothing interrupts is counted and sent, and a reception looks until it is told of
no more misses. -/
def call (c : Broadcaster σ) (r : Relay σ) : Call → Answer × Relay σ
  | .clone => r.step c .clone
  | .dropClone => r.step c .dropClone
  | .subscribe => r.step c .subscribe
  | .fire =>
    match r.step c .count with
    | (.counted number, r) => r.step c (.send number)
    | other => other
  | .receive s =>
    (.received (c.receive s r.channel).1, { r with channel := (c.receive s r.channel).2 })
  | .unsubscribe s => r.step c (.unsubscribe s)

end Relay

structure Shared where
  hub : Hub
  clones : Nat := 1
deriving DecidableEq, Repr

def Shared.call (h : Shared) : Call → Answer × Shared
  | .clone => (.nothing, if h.clones = 0 then h else { h with clones := h.clones + 1 })
  | .dropClone =>
    (.nothing,
      { clones := h.clones - 1, hub := if h.clones ≤ 1 then h.hub.close else h.hub })
  | .subscribe =>
    if h.clones = 0 then (.nothing, h)
    else (.subscribed h.hub.subscribe.1, { h with hub := h.hub.subscribe.2 })
  | .fire =>
    if h.clones = 0 then (.nothing, h) else (.reached h.hub.fire.1, { h with hub := h.hub.fire.2 })
  | .receive s => (.received (h.hub.receive s).1, { h with hub := (h.hub.receive s).2 })
  | .unsubscribe s => (.nothing, { h with hub := h.hub.unsubscribe s })

/-! ### What is to be known of a channel is enough -/

section

variable {σ : Type} (c : Broadcaster σ)

def Relay.view (r : Relay σ) : Relay Broadcast :=
  { channel := c.view r.channel, fired := r.fired, clones := r.clones, inFlight := r.inFlight }

theorem Relay.view_step (r : Relay σ) (a : Step) :
    Prod.map id (view c) (r.step c a) = (r.view c).step Broadcast.broadcaster a := by
  -- an answer of the channel, and what is known of it then
  have hview {α : Type} {x : α × σ} {y : α × Broadcast} (h : Prod.map id c.view x = y) :
      x.1 = y.1 ∧ c.view x.2 = y.2 := Prod.mk.inj h
  cases a with
  | clone =>
    by_cases h : r.clones = 0 <;> simp [step, view, h]
  | dropClone =>
    simp only [step]
    by_cases h : r.clones ≤ 1 ∧ r.inFlight ≠ []
    · rw [if_pos h, if_pos (show (r.view c).clones ≤ 1 ∧ (r.view c).inFlight ≠ [] from h)]
      rfl
    · rw [if_neg h, if_neg (show ¬ ((r.view c).clones ≤ 1 ∧ (r.view c).inFlight ≠ []) from h)]
      simp only [Prod.map_apply, id_eq, view, apply_ite c.view, c.view_close]
      rfl
  | subscribe =>
    obtain ⟨hsame, hnext⟩ := hview (c.view_subscribe r.channel)
    by_cases h : r.clones = 0 <;> simp [step, view, h, hsame, hnext, Broadcast.broadcaster]
  | count =>
    by_cases h : r.clones = 0 <;> simp [step, view, h]
  | send number =>
    obtain ⟨hsame, hnext⟩ := hview (c.view_send number r.channel)
    by_cases h : number ∈ r.inFlight <;> simp [step, view, h, hsame, hnext, Broadcast.broadcaster]
  | look s =>
    obtain ⟨hsame, hnext⟩ := hview (c.view_look s r.channel)
    simp [step, view, hsame, hnext, Broadcast.broadcaster]
  | unsubscribe s =>
    simp [step, view, c.view_unsubscribe, Broadcast.broadcaster]

theorem Relay.view_call (r : Relay σ) (a : Call) :
    Prod.map id (view c) (r.call c a) = (r.view c).call Broadcast.broadcaster a := by
  cases a with
  | clone => exact r.view_step c .clone
  | dropClone => exact r.view_step c .dropClone
  | subscribe => exact r.view_step c .subscribe
  | fire =>
    have hcount := r.view_step c .count
    simp only [call]
    rw [← hcount]
    cases hstep : r.step c .count with
    | mk answer next =>
      cases answer with
      | counted number => exact next.view_step c (.send number)
      | _ => rfl
  | receive s =>
    obtain ⟨hsame, hnext⟩ := Prod.mk.inj (c.view_receive s r.channel)
    exact Prod.ext (congrArg Answer.received hsame) (congrArg (Relay.mk · _ _ _) hnext)
  | unsubscribe s => exact r.view_step c (.unsubscribe s)

theorem Relay.answers_view (r : Relay σ) (calls : List Call) :
    answers (call c) r calls = answers (call Broadcast.broadcaster) (r.view c) calls := by
  induction calls generalizing r with
  | nil => rfl
  | cons a calls ih =>
    have hcall := r.view_call c a
    rw [answers, answers, ih, ← hcall]
    rfl

end

/-! ### One firing after the other -/

section

open Broadcast (broadcaster)

/-- A relay that stands where a hub does. -/
structure Relays (r : Relay Broadcast) (h : Shared) : Prop where
  carries : r.channel.Carries h.hub
  fired : r.fired = h.hub.fired
  clones : r.clones = h.clones
  idle : r.inFlight = []

variable {r : Relay Broadcast} {h : Shared}

theorem Relays.call (hr : Relays r h) (a : Call) :
    (r.call broadcaster a).1 = (h.call a).1 ∧
      Relays (r.call broadcaster a).2 (h.call a).2 := by
  obtain ⟨channel, fired, clones, inFlight⟩ := r
  obtain ⟨hcarries, rfl, rfl, rfl⟩ := hr
  cases a with
  | clone =>
    refine ⟨rfl, ?_⟩
    simp only [Relay.call, Relay.step, Shared.call]
    split <;> exact ⟨hcarries, rfl, rfl, rfl⟩
  | dropClone =>
    simp only [Relay.call, Relay.step, Shared.call, ne_eq, not_true_eq_false, and_false, if_false]
    refine ⟨trivial, ?_⟩
    split
    · exact ⟨hcarries.close, rfl, rfl, rfl⟩
    · exact ⟨hcarries, rfl, rfl, rfl⟩
  | subscribe =>
    obtain ⟨hsame, hnext⟩ := hcarries.subscribe
    simp only [Relay.call, Relay.step, Shared.call]
    split
    · exact ⟨rfl, hcarries, rfl, rfl, rfl⟩
    · exact ⟨congrArg Answer.subscribed hsame, hnext, rfl, rfl, rfl⟩
  | fire =>
    obtain ⟨hsame, hnext⟩ := hcarries.fire
    by_cases hgone : h.clones = 0
    · simp only [Relay.call, Relay.step, Shared.call, if_pos hgone]
      exact ⟨trivial, hcarries, rfl, rfl, rfl⟩
    · simp only [Relay.call, Relay.step, Shared.call, if_neg hgone, List.nil_append,
        List.mem_singleton, if_true, List.erase_cons_head]
      exact ⟨congrArg Answer.reached hsame, hnext, rfl, rfl, rfl⟩
  | receive s =>
    obtain ⟨hsame, hnext⟩ := hcarries.receive s
    have hlast : (h.hub.receive s).2.fired = h.hub.fired := by
      unfold Hub.receive
      split
      · rfl
      · split <;> rfl
    exact ⟨congrArg Answer.received hsame, hnext, hlast.symm, rfl, rfl⟩
  | unsubscribe s => exact ⟨rfl, hcarries.unsubscribe s, rfl, rfl, rfl⟩

theorem Relays.answers_eq (hr : Relays r h) (calls : List Call) :
    answers Shared.call h calls = answers (Relay.call broadcaster) r calls := by
  induction calls generalizing r h with
  | nil => rfl
  | cons a calls ih =>
    obtain ⟨hsame, hnext⟩ := hr.call a
    rw [answers, answers, hsame, ih hnext]

theorem relays_start (name : String) :
    Relays { channel := {} } { hub := { name } } where
  carries := Broadcast.carries_start name
  fired := rfl
  clones := rfl
  idle := rfl

end

end Hub

end RequestLog
