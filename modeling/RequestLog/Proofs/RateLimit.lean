import RequestLog.Diagnostics.Limiter
import Mathlib

/-! Limited diagnostics. Of occurrences in a row the first goes out, and after it each one that
comes at least one interval after the last that did, whatever their levels. What goes out tells how
many were held back since, so that no occurrence is left out of the counts. -/

namespace RequestLog

namespace Event

def count? (event : Event) (name : String) : Option Nat :=
  match event.fields.lookup name with
  | some (.count n) => some n
  | _ => none

/-- The occurrences that were held back before the event. Without the field there were none. -/
def heldBack (event : Event) : Nat := (event.count? "suppressed").getD 0

end Event

namespace Limiter

theorem subject_ne (level : Level) {name : String} (h : name = "suppressed" ∨ name = "total") :
    (name == subject level) = false := by
  rcases h with rfl | rfl <;> cases level <;> rfl

theorem count?_total (level : Level) (message detail : String) (suppressed total : Nat) :
    (eventOf level message detail suppressed total).count? "total" = some total := by
  have hsubject := subject_ne level (.inr rfl)
  by_cases h : suppressed = 0 <;>
    simp [Event.count?, eventOf, List.lookup, hsubject, h]

theorem heldBack_eventOf (level : Level) (message detail : String) (suppressed total : Nat) :
    (eventOf level message detail suppressed total).heldBack = suppressed := by
  have hsubject := subject_ne level (.inl rfl)
  by_cases h : suppressed = 0 <;>
    simp [Event.heldBack, Event.count?, eventOf, List.lookup, hsubject, h]

variable {limiter : Limiter} {now : Nat}

theorem report_of_quiet (h : limiter.isQuiet now = true) (level : Level) (message detail : String) :
    limiter.report now level message detail =
      (none, { limiter with pending := limiter.pending + 1, total := limiter.total + 1 }) := by
  simp [report, count, h]

theorem report_of_not_quiet (h : limiter.isQuiet now = false) (level : Level)
    (message detail : String) :
    limiter.report now level message detail =
      (some (eventOf level message detail limiter.pending (limiter.total + 1)),
        { limiter with last := some now, pending := 0, total := limiter.total + 1 }) := by
  simp [report, count, h]

structure Occurrence where
  time : Nat
  level : Level
  message : String
  detail : String
deriving DecidableEq, Repr

/-- A limiter with its answers so far: for each occurrence the event, if one went out. -/
structure Journal where
  limiter : Limiter
  answers : List (Option Event) := []
deriving DecidableEq, Repr

namespace Journal

def add (journal : Journal) (o : Occurrence) : Journal :=
  let (answer, limiter) := journal.limiter.report o.time o.level o.message o.detail
  { limiter, answers := journal.answers ++ [answer] }

/-- The journal of occurrences one after the other, with at most one event per interval. -/
def of (interval : Nat) (occurrences : List Occurrence) : Journal :=
  occurrences.foldl add { limiter := { interval } }

def GoesOut (answers : List (Option Event)) (i : Nat) : Prop :=
  ∃ event, answers[i]? = some (some event)

/-- Of the places before `i` with an event, `j` is the last. -/
structure IsPrevious (answers : List (Option Event)) (i j : Nat) : Prop where
  lt : j < i
  goesOut : GoesOut answers j
  between : ∀ k, j < k → k < i → ¬ GoesOut answers k

def told : Option Event → Nat
  | none => 0
  | some event => event.heldBack + 1

variable {answers more : List (Option Event)} {interval i j : Nat} {o : Occurrence}
  {occurrences : List Occurrence} {journal : Journal}

/-! ### Places in a journal -/

theorem goesOut_append (h : i < answers.length) :
    GoesOut (answers ++ more) i ↔ GoesOut answers i := by
  simp only [GoesOut, List.getElem?_append_left h]

theorem goesOut_length (answer : Option Event) :
    GoesOut (answers ++ [answer]) answers.length ↔ ∃ event, answer = some event := by
  simp [GoesOut]

theorem isPrevious_append (h : i ≤ answers.length) :
    IsPrevious (answers ++ more) i j ↔ IsPrevious answers i j := by
  constructor
  · rintro ⟨hlt, hout, hbetween⟩
    refine ⟨hlt, (goesOut_append (by omega)).1 hout, fun k hjk hki hk => ?_⟩
    exact hbetween k hjk hki ((goesOut_append (by omega)).2 hk)
  · rintro ⟨hlt, hout, hbetween⟩
    refine ⟨hlt, (goesOut_append (by omega)).2 hout, fun k hjk hki hk => ?_⟩
    exact hbetween k hjk hki ((goesOut_append (by omega)).1 hk)

theorem isPrevious_take (h : i ≤ answers.length) :
    IsPrevious (answers.take i) i j ↔ IsPrevious answers i j := by
  have happend :
      IsPrevious (answers.take i ++ answers.drop i) i j ↔ IsPrevious (answers.take i) i j :=
    isPrevious_append (by rw [List.length_take, Nat.min_eq_left h])
  rw [← happend, List.take_append_drop]

theorem IsPrevious.unique {j' : Nat} (h : IsPrevious answers i j) (h' : IsPrevious answers i j') :
    j = j' := by
  apply Nat.le_antisymm
  · apply not_lt.1
    exact fun hlt => h'.between j hlt h.lt h.goesOut
  · apply not_lt.1
    exact fun hlt => h.between j' hlt h'.lt h'.goesOut

/-- Where nothing goes out, the last event before stays the last. -/
theorem IsPrevious.append_none (h : IsPrevious answers answers.length j) :
    IsPrevious (answers ++ [none]) (answers.length + 1) j where
  lt := Nat.lt_succ_of_lt h.lt
  goesOut := (goesOut_append h.lt).2 h.goesOut
  between := by
    intro k hjk hk hout
    rcases Nat.lt_succ_iff_lt_or_eq.1 hk with hk | rfl
    · exact h.between k hjk hk ((goesOut_append hk).1 hout)
    · obtain ⟨event, hevent⟩ := (goesOut_length none).1 hout
      cases hevent

theorem isPrevious_concat (event : Event) :
    IsPrevious (answers ++ [some event]) (answers.length + 1) answers.length where
  lt := Nat.lt_succ_self _
  goesOut := (goesOut_length _).2 ⟨event, rfl⟩
  between := by
    intro k hk hk'
    omega

/-! ### One more occurrence -/

theorem add_of_quiet (h : journal.limiter.isQuiet o.time = true) :
    journal.add o =
      { limiter := { journal.limiter with
          pending := journal.limiter.pending + 1, total := journal.limiter.total + 1 }
        answers := journal.answers ++ [none] } := by
  rw [add, report_of_quiet h]

theorem add_of_not_quiet (h : journal.limiter.isQuiet o.time = false) :
    journal.add o =
      { limiter := { journal.limiter with
          last := some o.time, pending := 0, total := journal.limiter.total + 1 }
        answers := journal.answers ++
          [some (eventOf o.level o.message o.detail journal.limiter.pending
            (journal.limiter.total + 1))] } := by
  rw [add, report_of_not_quiet h]

theorem of_append (interval : Nat) (occurrences : List Occurrence) (o : Occurrence) :
    of interval (occurrences ++ [o]) = (of interval occurrences).add o := by
  simp [of]

theorem answers_add (journal : Journal) (o : Occurrence) :
    (journal.add o).answers = journal.answers
      ++ [(journal.limiter.report o.time o.level o.message o.detail).1] := rfl

theorem answers_prefix (interval : Nat) (occurrences rest : List Occurrence) :
    (of interval occurrences).answers <+: (of interval (occurrences ++ rest)).answers := by
  induction rest using List.reverseRecOn with
  | nil => simp
  | append_singleton rest o ih =>
    apply ih.trans
    rw [← List.append_assoc, of_append, answers_add]
    exact List.prefix_append _ _

/-! ### What a journal knows -/

/-- The limiter's state, said by the occurrences and the answers to them. -/
structure Tells (interval : Nat) (occurrences : List Occurrence) (journal : Journal) : Prop where
  interval : journal.limiter.interval = interval
  length : journal.answers.length = occurrences.length
  total : journal.limiter.total = occurrences.length
  told : (journal.answers.map told).sum + journal.limiter.pending = occurrences.length
  last : occurrences = [] ∧ journal.limiter.last = none ∧ journal.limiter.pending = 0 ∨
    ∃ j earlier, IsPrevious journal.answers occurrences.length j ∧ occurrences[j]? = some earlier ∧
      journal.limiter.last = some earlier.time ∧
      journal.limiter.pending = occurrences.length - j - 1

/-- What the answer to the next occurrence depends on, and what it tells. -/
structure Answers (interval : Nat) (occurrences : List Occurrence) (answers : List (Option Event))
    (o : Occurrence) (answer : Option Event) : Prop where
  goesOut : (∃ event, answer = some event) ↔ occurrences = [] ∨
    ∃ j earlier, IsPrevious answers occurrences.length j ∧ occurrences[j]? = some earlier ∧
      earlier.time + interval ≤ o.time
  event : ∀ event, answer = some event → ∃ held,
    event = eventOf o.level o.message o.detail held (occurrences.length + 1) ∧
      (occurrences = [] → held = 0) ∧
      ∀ j, IsPrevious answers occurrences.length j → held = occurrences.length - j - 1

/-- At a time that is not before the others, quiet is what came too soon after the last event. -/
theorem Tells.quiet_iff (h : Tells interval occurrences journal)
    (ho : ∀ earlier ∈ occurrences, earlier.time ≤ o.time) :
    journal.limiter.isQuiet o.time = false ↔ occurrences = [] ∨
      ∃ j earlier, IsPrevious journal.answers occurrences.length j ∧
        occurrences[j]? = some earlier ∧ earlier.time + interval ≤ o.time := by
  rcases h.last with ⟨rfl, hlast, -⟩ | ⟨j, earlier, hj, hearlier, hlast, -⟩
  · simp [isQuiet, hlast]
  · have hne : occurrences ≠ [] := List.ne_nil_of_mem (List.mem_of_getElem? hearlier)
    have hle := ho earlier (List.mem_of_getElem? hearlier)
    simp only [isQuiet, hlast, h.interval, decide_eq_false_iff_not, hne, false_or]
    constructor
    · intro hlate
      exact ⟨j, earlier, hj, hearlier, by omega⟩
    · rintro ⟨j', earlier', hj', hearlier', hlate⟩
      obtain rfl := hj.unique hj'
      obtain rfl := Option.some.inj (hearlier.symm.trans hearlier')
      omega

theorem Tells.answers_report (h : Tells interval occurrences journal)
    (ho : ∀ earlier ∈ occurrences, earlier.time ≤ o.time) :
    Answers interval occurrences journal.answers o
      (journal.limiter.report o.time o.level o.message o.detail).1 := by
  have hquiet := h.quiet_iff ho
  cases hq : journal.limiter.isQuiet o.time with
  | true =>
    rw [report_of_quiet hq]
    rw [hq] at hquiet
    exact ⟨by simpa using hquiet, nofun⟩
  | false =>
    rw [report_of_not_quiet hq, h.total]
    refine ⟨by simpa using hquiet.1 hq, ?_⟩
    rintro _ ⟨⟩
    refine ⟨_, rfl, ?_⟩
    rcases h.last with ⟨rfl, -, hpending⟩ | ⟨j, earlier, hj, hearlier, -, hpending⟩
    · exact ⟨fun _ => hpending, fun j hj => absurd hj.lt (Nat.not_lt_zero j)⟩
    · refine ⟨?_, fun j' hj' => hj.unique hj' ▸ hpending⟩
      rintro rfl
      simp at hearlier

theorem Tells.add_quiet (h : Tells interval occurrences journal)
    (hq : journal.limiter.isQuiet o.time = true) :
    Tells interval (occurrences ++ [o]) (journal.add o) := by
  have htold := h.told
  rw [add_of_quiet hq]
  refine ⟨h.interval, by simp [h.length], by simp [h.total], ?_, .inr ?_⟩
  · simp only [List.map_append, List.sum_append, List.map_singleton, List.sum_singleton,
      Journal.told, List.length_append, List.length_singleton]
    omega
  · rcases h.last with ⟨-, hlast, -⟩ | ⟨j, earlier, hj, hearlier, hlast, hpending⟩
    · simp [isQuiet, hlast] at hq
    · have hlt := hj.lt
      refine ⟨j, earlier, ?_, ?_, hlast, ?_⟩
      · rw [List.length_append, List.length_singleton, ← h.length]
        exact (h.length ▸ hj).append_none
      · rw [List.getElem?_append_left hlt, hearlier]
      · simp only [List.length_append, List.length_singleton]
        omega

theorem Tells.add_not_quiet (h : Tells interval occurrences journal)
    (hq : journal.limiter.isQuiet o.time = false) :
    Tells interval (occurrences ++ [o]) (journal.add o) := by
  have htold := h.told
  rw [add_of_not_quiet hq]
  refine ⟨h.interval, by simp [h.length], by simp [h.total], ?_, .inr ?_⟩
  · simp only [List.map_append, List.sum_append, List.map_singleton, List.sum_singleton,
      Journal.told, heldBack_eventOf, List.length_append, List.length_singleton]
    omega
  · refine ⟨occurrences.length, o, ?_, by simp, rfl, by simp⟩
    rw [List.length_append, List.length_singleton, ← h.length]
    exact isPrevious_concat _

theorem Tells.add (h : Tells interval occurrences journal) :
    Tells interval (occurrences ++ [o]) (journal.add o) := by
  cases hq : journal.limiter.isQuiet o.time with
  | true => exact h.add_quiet hq
  | false => exact h.add_not_quiet hq

theorem tells (interval : Nat) (occurrences : List Occurrence) :
    Tells interval occurrences (of interval occurrences) := by
  induction occurrences using List.reverseRecOn with
  | nil => exact ⟨rfl, rfl, rfl, rfl, .inl ⟨rfl, rfl, rfl⟩⟩
  | append_singleton occurrences o ih =>
    rw [of_append]
    exact ih.add

/-! ### Any place of a journal -/

/-- What was answered at first stays as it is. -/
theorem answers_take (interval : Nat) (occurrences : List Occurrence) (n : Nat) :
    (of interval (occurrences.take n)).answers = (of interval occurrences).answers.take n := by
  have hprefix := answers_prefix interval (occurrences.take n) (occurrences.drop n)
  rw [List.take_append_drop] at hprefix
  rw [List.prefix_iff_eq_take.1 hprefix, (tells interval _).length, List.length_take,
    ← (tells interval occurrences).length, List.take_eq_take_iff]
  omega

/-- The answer at a place is the one that was given there. -/
theorem answers_at (interval : Nat) (h : occurrences.Pairwise (·.time ≤ ·.time))
    (hi : occurrences[i]? = some o) :
    ∃ answer, (of interval occurrences).answers[i]? = some answer ∧
      Answers interval (occurrences.take i)
        ((of interval occurrences).answers.take i) o answer := by
  obtain ⟨hlt, rfl⟩ := List.getElem?_eq_some_iff.1 hi
  have htells := tells interval (occurrences.take i)
  have ho : ∀ earlier ∈ occurrences.take i, earlier.time ≤ occurrences[i].time := by
    intro earlier hmem
    obtain ⟨j, hj, rfl⟩ := List.mem_iff_getElem.1 hmem
    rw [List.length_take] at hj
    rw [List.getElem_take]
    exact List.pairwise_iff_getElem.1 h j i (by omega) hlt (by omega)
  refine ⟨_, ?_, answers_take interval occurrences i ▸ htells.answers_report ho⟩
  have hlength : (of interval (occurrences.take i)).answers.length = i := by
    rw [htells.length, List.length_take]
    omega
  have htake := answers_take interval occurrences (i + 1)
  rw [List.take_succ_eq_append_getElem hlt, of_append, answers_add] at htake
  rw [← List.getElem?_take_of_lt (Nat.lt_succ_self i), ← htake,
    List.getElem?_append_right hlength.le, hlength, Nat.sub_self]
  rfl

theorem goesOut_iff (h : occurrences.Pairwise (·.time ≤ ·.time)) (hi : occurrences[i]? = some o) :
    GoesOut (of interval occurrences).answers i ↔ i = 0 ∨
      ∃ j earlier, IsPrevious (of interval occurrences).answers i j ∧
        occurrences[j]? = some earlier ∧ earlier.time + interval ≤ o.time := by
  obtain ⟨answer, hanswer, hout, -⟩ := answers_at interval h hi
  have hlt : i < occurrences.length := (List.getElem?_eq_some_iff.1 hi).1
  have hle := hlt.le.trans (tells interval occurrences).length.ge
  have hempty : occurrences.take i = [] ↔ i = 0 := by
    rw [List.take_eq_nil_iff, ← List.length_eq_zero_iff]
    omega
  rw [hempty, List.length_take, Nat.min_eq_left hlt.le] at hout
  simp only [GoesOut, hanswer, Option.some.injEq, hout]
  apply or_congr_right
  apply exists_congr
  intro j
  apply exists_congr
  intro earlier
  rw [isPrevious_take hle]
  apply and_congr_right
  intro hj
  rw [List.getElem?_take_of_lt hj.lt]

theorem event_at (h : occurrences.Pairwise (·.time ≤ ·.time)) (hi : occurrences[i]? = some o)
    {event : Event} (hevent : (of interval occurrences).answers[i]? = some (some event)) :
    ∃ held, event = eventOf o.level o.message o.detail held (i + 1) ∧ (i = 0 → held = 0) ∧
      ∀ j, IsPrevious (of interval occurrences).answers i j → held = i - j - 1 := by
  obtain ⟨answer, hanswer, -, htells⟩ := answers_at interval h hi
  have hlt : i < occurrences.length := (List.getElem?_eq_some_iff.1 hi).1
  have hle := hlt.le.trans (tells interval occurrences).length.ge
  obtain ⟨held, rfl, hfirst, hsince⟩ := htells event (Option.some.inj (hanswer.symm.trans hevent))
  rw [List.length_take, Nat.min_eq_left hlt.le] at hsince ⊢
  refine ⟨held, rfl, ?_, fun j hj => hsince j ((isPrevious_take hle).2 hj)⟩
  rintro rfl
  exact hfirst rfl

/-- No two events are closer than the interval. -/
theorem apart (h : occurrences.Pairwise (·.time ≤ ·.time)) {earlier : Occurrence} (hji : j < i)
    (hj : GoesOut (of interval occurrences).answers j)
    (hi : GoesOut (of interval occurrences).answers i) (he : occurrences[j]? = some earlier)
    (ho : occurrences[i]? = some o) : earlier.time + interval ≤ o.time := by
  rcases (goesOut_iff h ho).1 hi with rfl | ⟨p, before, hp, hbefore, hle⟩
  · exact absurd hji (Nat.not_lt_zero j)
  · -- the last event before is the one at `j` or a later one
    have hjp : j ≤ p := not_lt.1 fun hpj => hp.between j hpj hji hj
    rcases Nat.eq_or_lt_of_le hjp with rfl | hjp
    · obtain rfl := Option.some.inj (he.symm.trans hbefore)
      exact hle
    · obtain ⟨hj', rfl⟩ := List.getElem?_eq_some_iff.1 he
      obtain ⟨hp', rfl⟩ := List.getElem?_eq_some_iff.1 hbefore
      have hmono := List.pairwise_iff_getElem.1 h j p hj' hp' hjp
      exact (Nat.add_le_add_right hmono interval).trans hle

/-- Nothing is lost by the limit. At times in their order, the first occurrence goes out, and then
those that come at least one interval after the last event, so that no two events are closer than
that. An event tells how many occurrences came since the one before it, and how many in all. At
every point the occurrences that were told of, with those that wait to be told of, are all there
were. -/
theorem limits_without_loss (interval : Nat) (h : occurrences.Pairwise (·.time ≤ ·.time)) :
    let answers := (of interval occurrences).answers
    answers.length = occurrences.length ∧
      (∀ i o, occurrences[i]? = some o →
        (GoesOut answers i ↔ i = 0 ∨ ∃ j earlier, IsPrevious answers i j ∧
          occurrences[j]? = some earlier ∧ earlier.time + interval ≤ o.time) ∧
        ∀ event, answers[i]? = some (some event) →
          event.level = o.level ∧ event.message = o.message ∧
            event.count? "total" = some (i + 1) ∧ (i = 0 → event.heldBack = 0) ∧
            ∀ j, IsPrevious answers i j → event.heldBack = i - j - 1) ∧
      (∀ i j o earlier, j < i → GoesOut answers j → GoesOut answers i →
        occurrences[j]? = some earlier → occurrences[i]? = some o →
          earlier.time + interval ≤ o.time) ∧
      ∀ n ≤ occurrences.length,
        let now := of interval (occurrences.take n)
        now.answers = answers.take n ∧ now.limiter.total = n ∧
          (now.answers.map told).sum + now.limiter.pending = now.limiter.total := by
  refine ⟨(tells interval occurrences).length, ?_, ?_, ?_⟩
  · intro i o hi
    refine ⟨goesOut_iff h hi, fun event hevent => ?_⟩
    obtain ⟨held, rfl, hfirst, hsince⟩ := event_at h hi hevent
    rw [heldBack_eventOf]
    exact ⟨rfl, rfl, count?_total .., hfirst, hsince⟩
  · intro i j o earlier hji hj hi he ho
    exact apart h hji hj hi he ho
  · intro n hn
    have htotal := (tells interval (occurrences.take n)).total
    have htold := (tells interval (occurrences.take n)).told
    rw [List.length_take, Nat.min_eq_left hn] at htotal htold
    exact ⟨answers_take interval occurrences n, htotal, htold.trans htotal.symm⟩

/-- Two occurrences too early, one exactly at the end of the interval, and one long after it. -/
def burst : List Occurrence :=
  [ ⟨3, .warn, "slow", "a"⟩, ⟨3, .error, "failed", "b"⟩, ⟨12, .warn, "slow", "c"⟩,
    ⟨13, .error, "failed", "d"⟩, ⟨40, .warn, "slow", "e"⟩ ]

theorem limits_without_loss_burst :
    burst.Pairwise (·.time ≤ ·.time) ∧
      (of 10 burst).answers = [some (eventOf .warn "slow" "a" 0 1), none, none,
        some (eventOf .error "failed" "d" 2 4), some (eventOf .warn "slow" "e" 0 5)] ∧
      (of 10 (burst.take 3)).limiter.total = 3 ∧ GoesOut (of 10 burst).answers 3 := by
  have hordered : burst.Pairwise (·.time ≤ ·.time) := by decide
  have hanswers : (of 10 burst).answers = [some (eventOf .warn "slow" "a" 0 1), none, none,
      some (eventOf .error "failed" "d" 2 4), some (eventOf .warn "slow" "e" 0 5)] := by
    decide
  obtain ⟨-, hplaces, -, hpoints⟩ := limits_without_loss 10 hordered
  refine ⟨hordered, hanswers, (hpoints 3 (by decide)).2.1, (hplaces 3 _ rfl).1.2 (.inr ?_)⟩
  refine ⟨0, _, ⟨by decide, ⟨_, by rw [hanswers]; rfl⟩, ?_⟩, rfl, by decide⟩
  rintro k hk hk' ⟨event, hevent⟩
  rw [hanswers] at hevent
  interval_cases k <;> cases hevent

end Journal

end Limiter

end RequestLog
