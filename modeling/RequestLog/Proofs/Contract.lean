import RequestLog.Output.Outputs
import Mathlib.Data.List.Basic

/-! What outputs promise. A view of their state tells which handles were opened, in their order, and
the bytes that each has taken. A call that takes `n` bytes has taken the first `n` of those offered;
every other call takes none. -/

namespace RequestLog

/-- Handles in the order in which they were opened, each with the bytes that it has taken. -/
abbrev Ledger := List (Handle × Bytes)

namespace Ledger

def handles (l : Ledger) : List Handle := l.map Prod.fst

def bytes (l : Ledger) : Bytes := l.flatMap Prod.snd

def credit (handle : Handle) (more : Bytes) (l : Ledger) : Ledger :=
  l.map fun e => if e.1 = handle then (e.1, e.2 ++ more) else e

@[simp] theorem credit_nil (handle : Handle) (l : Ledger) : l.credit handle [] = l := by
  simp [credit]

@[simp] theorem credit_append (handle : Handle) (more : Bytes) (l l' : Ledger) :
    credit handle more (l ++ l') = l.credit handle more ++ l'.credit handle more :=
  List.map_append

theorem credit_credit (handle : Handle) (a b : Bytes) (l : Ledger) :
    (l.credit handle a).credit handle b = l.credit handle (a ++ b) := by
  simp only [credit, List.map_map]
  congr 1
  funext e
  by_cases h : e.1 = handle <;> simp [h]

theorem credit_of_notMem {handle : Handle} {l : Ledger} (h : handle ∉ l.handles) (more : Bytes) :
    l.credit handle more = l := by
  refine (List.map_congr_left fun e he => ?_).trans (List.map_id l)
  rw [if_neg, id]
  rintro rfl
  exact h (List.mem_map_of_mem he)

@[simp] theorem bytes_append (l l' : Ledger) : bytes (l ++ l') = l.bytes ++ l'.bytes :=
  List.flatMap_append

@[simp] theorem bytes_singleton (e : Handle × Bytes) : bytes [e] = e.2 := by
  simp [bytes]

/-- The handle was opened last, and none before is the same. -/
def IsLast (handle : Handle) (l : Ledger) : Prop :=
  ∃ (earlier : Ledger) (taken : Bytes), l = earlier ++ [(handle, taken)] ∧ handle ∉ earlier.handles

theorem IsLast.credit {handle : Handle} {l : Ledger} (h : l.IsLast handle) (more : Bytes) :
    (l.credit handle more).IsLast handle := by
  obtain ⟨earlier, taken, rfl, hfresh⟩ := h
  refine ⟨earlier, taken ++ more, ?_, hfresh⟩
  rw [credit_append, credit_of_notMem hfresh]
  simp [Ledger.credit]

/-- What the last handle takes goes to the end of all that was taken. -/
theorem IsLast.bytes_credit {handle : Handle} {l : Ledger} (h : l.IsLast handle) (more : Bytes) :
    (l.credit handle more).bytes = l.bytes ++ more := by
  obtain ⟨earlier, taken, rfl, hfresh⟩ := h
  rw [credit_append, credit_of_notMem hfresh]
  simp [Ledger.credit]

theorem isLast_open {handle : Handle} {l : Ledger} (h : handle ∉ l.handles) :
    (l ++ [(handle, [])]).IsLast handle :=
  ⟨l, [], rfl, h⟩

/-- The ledger `l'` follows `l`: since then only the last handle of `l` and handles opened after it
have taken anything. -/
def Follows (l' l : Ledger) : Prop :=
  ∃ earlier handle taken more opened,
    l = earlier ++ [(handle, taken)] ∧ l' = earlier ++ (handle, taken ++ more) :: opened

theorem IsLast.follows_credit {handle : Handle} {l : Ledger} (h : l.IsLast handle) (more : Bytes) :
    (l.credit handle more).Follows l := by
  obtain ⟨earlier, taken, rfl, hfresh⟩ := h
  refine ⟨earlier, handle, taken, more, [], rfl, ?_⟩
  rw [credit_append, credit_of_notMem hfresh]
  simp [Ledger.credit]

theorem follows_append {l : Ledger} (h : l ≠ []) (opened : Ledger) : (l ++ opened).Follows l := by
  obtain ⟨earlier, ⟨handle, taken⟩, rfl⟩ := (List.eq_nil_or_concat' l).resolve_left h
  exact ⟨earlier, handle, taken, [], opened, rfl, by simp⟩

theorem follows_refl {l : Ledger} (h : l ≠ []) : l.Follows l := by
  simpa using follows_append h []

theorem Follows.ne_nil {l l' : Ledger} (h : l'.Follows l) : l' ≠ [] := by
  obtain ⟨_, _, _, _, _, -, rfl⟩ := h
  simp

theorem Follows.trans {l l' l'' : Ledger} (h' : l''.Follows l') (h : l'.Follows l) :
    l''.Follows l := by
  obtain ⟨earlier, handle, taken, more, opened, rfl, rfl⟩ := h
  obtain ⟨earlier', handle', taken', more', opened', heq, rfl⟩ := h'
  -- the last handle of `l'` is either that of `l` or one opened since
  rcases List.eq_nil_or_concat' opened with rfl | ⟨between, last, rfl⟩
  · obtain ⟨rfl, hlast⟩ := List.append_inj' heq rfl
    simp only [List.cons.injEq, Prod.mk.injEq, and_true] at hlast
    obtain ⟨rfl, rfl⟩ := hlast
    exact ⟨earlier, handle, taken, more ++ more', opened', rfl, by simp⟩
  · rw [← List.cons_append, ← List.append_assoc] at heq
    obtain ⟨rfl, hlast⟩ := List.append_inj' heq rfl
    exact ⟨earlier, handle, taken, more, between ++ (handle', taken' ++ more') :: opened', rfl,
      by simp⟩

end Ledger

/-- How the state of outputs is read: the states that occur, and the ledger that each stands for. -/
structure View (σ : Type) where
  valid : σ → Prop
  ledger : σ → Ledger

/-- The outputs do as they say. A handle that is opened is a new one. -/
structure WriteContract {σ : Type} (o : Outputs σ) (v : View σ) : Prop where
  opened : ∀ {path s handle t}, v.valid s → o.openPath path s = (.ok handle, t) →
    v.valid t ∧ handle ∉ (v.ledger s).handles ∧ v.ledger t = v.ledger s ++ [(handle, [])]
  notOpened : ∀ {path s cause t}, v.valid s → o.openPath path s = (.error cause, t) →
    v.valid t ∧ v.ledger t = v.ledger s
  took : ∀ {handle slices s n t}, v.valid s → o.write handle slices s = (.took n, t) →
    v.valid t ∧ n ≤ slices.flatten.length ∧
      v.ledger t = (v.ledger s).credit handle (slices.flatten.take n)
  tookNone : ∀ {handle slices s reply t}, v.valid s → o.write handle slices s = (reply, t) →
    (∀ n, reply ≠ .took n) → v.valid t ∧ v.ledger t = v.ledger s
  flushed : ∀ {handle s reply t}, v.valid s → o.flush handle s = (reply, t) →
    v.valid t ∧ v.ledger t = v.ledger s
  finished : ∀ {handle s reply t}, v.valid s → o.finish handle s = (reply, t) →
    v.valid t ∧ v.ledger t = v.ledger s

end RequestLog
