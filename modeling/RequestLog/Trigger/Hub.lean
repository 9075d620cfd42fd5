import RequestLog.Text.Quoted

/-!
A trigger that can be fired and subscribed to. Firings are numbered from 1. A subscription gets the
numbers of the firings after it, but a reader that falls behind only finds the latest ones.
-/

namespace RequestLog

/-- A subscription that has not been dropped, by its place in the hub. -/
abbrev Subscription := Nat

structure Hub where
  name : String
  /-- Without a bound, where the program's word of 64 bits begins again at 0 after `2 ^ 64`
  firings. -/
  fired : Nat := 0
  /-- Whether it can still be fired. -/
  isOpen : Bool := true
  /-- The last number that each subscription has passed. A dropped one keeps its place. -/
  seen : List (Option Nat) := []
deriving DecidableEq, Repr

inductive Received where
  | firing (number : Nat)
  | pending
  | closed
deriving DecidableEq, Repr

namespace Hub

def capacity : Nat := 16

def seen? (hub : Hub) (subscription : Subscription) : Option Nat :=
  hub.seen[subscription]?.join

def subscriberCount (hub : Hub) : Nat := hub.seen.countP Option.isSome

def subscribe (hub : Hub) : Subscription × Hub :=
  (hub.seen.length, { hub with seen := hub.seen ++ [some hub.fired] })

def unsubscribe (hub : Hub) (subscription : Subscription) : Hub :=
  { hub with seen := hub.seen.set subscription none }

/-- Fires once, and tells how many subscriptions it reached. It is a whole firing, counted and sent
with nothing in between; `Hub.Relay` takes the two steps one by one. -/
def fire (hub : Hub) : Nat × Hub := (hub.subscriberCount, { hub with fired := hub.fired + 1 })

def close (hub : Hub) : Hub := { hub with isOpen := false }

/-- The firing that comes next once `seen` is passed: the oldest one that is kept. -/
def nextAfter (hub : Hub) (seen : Nat) : Nat := max (seen + 1) (hub.fired + 1 - capacity)

/-- The next firing of a subscription, if there is one. A dropped one gets nothing any more. -/
def receive (hub : Hub) (subscription : Subscription) : Received × Hub :=
  match hub.seen? subscription with
  | none => (.closed, hub)
  | some seen =>
    if seen < hub.fired then
      (.firing (hub.nextAfter seen),
        { hub with seen := hub.seen.set subscription (some (hub.nextAfter seen)) })
    else (if hub.isOpen then .pending else .closed, hub)

def backlog (hub : Hub) (subscription : Subscription) : Nat :=
  match hub.seen? subscription with
  | some seen => hub.fired - seen
  | none => 0

def toText (hub : Hub) : String :=
  "TriggerHub \x7b name: " ++ Quoted.quote Quoted.plain hub.name
    ++ ", subscribers: " ++ toString hub.subscriberCount
    ++ ", fired: " ++ toString hub.fired ++ " \x7d"

theorem nextAfter_le_fired {hub : Hub} {seen : Nat} (h : seen < hub.fired) :
    hub.nextAfter seen ≤ hub.fired := by
  have : capacity = 16 := rfl
  simp only [nextAfter]
  omega

/-- A firing that is received leaves fewer behind. -/
theorem backlog_receive_lt {hub : Hub} {subscription : Subscription} {number : Nat}
    (h : (hub.receive subscription).1 = .firing number) :
    (hub.receive subscription).2.backlog subscription < hub.backlog subscription := by
  unfold receive at h ⊢
  cases hs : hub.seen? subscription with
  | none => simp [hs] at h
  | some seen =>
    simp only [hs] at h ⊢
    by_cases hlt : seen < hub.fired
    · have hlen : subscription < hub.seen.length := by
        unfold seen? at hs
        cases hg : hub.seen[subscription]? with
        | none => simp [hg] at hs
        | some _ => exact (List.getElem?_eq_some_iff.1 hg).1
      have := hub.nextAfter_le_fired hlt
      have hnext : seen < hub.nextAfter seen := by simp only [nextAfter]; omega
      simp only [if_pos hlt, backlog, hs]
      simp only [seen?, List.getElem?_set_self hlen, Option.join_some]
      omega
    · simp only [if_neg hlt] at h
      split at h <;> simp at h

end Hub

end RequestLog
