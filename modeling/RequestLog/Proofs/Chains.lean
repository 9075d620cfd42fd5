import RequestLog.Output.Chain
import RequestLog.Proofs.Devices
import RequestLog.Proofs.Files
import Mathlib

/-! Chains of one output. Whatever the output answers, the count of a chain is the number of bytes
that the output took since the chain was opened, and each answer tells which bytes these were. -/

namespace RequestLog

/-- The causes that say that nothing was taken. -/
def IoError.IsWriteZero (cause : IoError) : Prop := cause = .writeZero ∨ cause = .incompleteWrite

/-- Calls that take nothing say so with a count, and do not fail for it. -/
def Outputs.CountsZero {σ : Type} (o : Outputs σ) : Prop :=
  ∀ handle slices s cause, (o.write handle slices s).1 = .failed cause → ¬ cause.IsWriteZero

namespace Outputs

variable {σ : Type} {o : Outputs σ} {handle : Handle} {s t u : σ} {bytes : Bytes}

inductive Call where
  /-- One call of the output, with one slice or several. -/
  | write (slices : List Bytes)
  | writeAll (bytes : Bytes)
  | flush
deriving DecidableEq, Repr

inductive Answer where
  | wrote (result : Except IoError Nat)
  | ended (result : Except IoError Unit)

def call (o : Outputs σ) (handle : Handle) (c : Call) (s : σ) : Answer × σ :=
  match c with
  | .write slices =>
    let (result, s) := o.writeOnce handle slices s
    (.wrote result, s)
  | .writeAll bytes =>
    let (result, s) := o.writeAll handle bytes s
    (.ended result, s)
  | .flush =>
    let (result, s) := o.flushOnce handle s
    (.ended result, s)

/-- The state after calls one after the other, whatever the answers. -/
def after (o : Outputs σ) (handle : Handle) (calls : List Call) (s : σ) : σ :=
  calls.foldl (fun s c => (o.call handle c s).2) s

/-- What an answer says of the bytes that were taken. -/
inductive Tells : Call → Answer → Bytes → Prop where
  | some {slices : List Bytes} {n : Nat} (h : n ≤ slices.flatten.length) :
    Tells (.write slices) (.wrote (.ok n)) (slices.flatten.take n)
  | none {slices : List Bytes} {cause : IoError} : Tells (.write slices) (.wrote (.error cause)) []
  | all {bytes : Bytes} : Tells (.writeAll bytes) (.ended (.ok ())) bytes
  | part {bytes taken : Bytes} {cause : IoError} (h : taken <+: bytes) (hne : taken ≠ bytes) :
    Tells (.writeAll bytes) (.ended (.error cause)) taken
  | flush {result : Except IoError Unit} : Tells .flush (.ended result) []

/-- On the way to have all bytes taken, the output once gives this reply while some remain. -/
inductive Gets (o : Outputs σ) (handle : Handle) (reply : WriteReply) : Bytes → σ → Prop where
  | now {bytes : Bytes} {s t : σ} (hb : bytes ≠ []) (h : o.write handle [bytes] s = (reply, t)) :
    Gets o handle reply bytes s
  | took {bytes : Bytes} {n : Nat} {s t : σ} (hb : bytes ≠ [])
      (h : o.write handle [bytes] s = (.took (n + 1), t))
      (hrest : Gets o handle reply (bytes.drop (n + 1)) t) : Gets o handle reply bytes s
  | interrupted {bytes : Bytes} {s t : σ} (hb : bytes ≠ [])
      (h : o.write handle [bytes] s = (.interrupted, t)) (hrest : Gets o handle reply bytes t) :
    Gets o handle reply bytes s

/-! ### Writing all bytes -/

/-- What was taken of the rest, after what was taken before it. -/
theorem Tells.append {rest taken : Bytes} {answer : Answer}
    (h : Tells (.writeAll rest) answer taken)
    (front : Bytes) : Tells (.writeAll (front ++ rest)) answer (front ++ taken) := by
  cases h with
  | all => exact .all
  | part h hne =>
    apply Tells.part
    · exact (List.prefix_append_right_inj front).2 h
    · exact fun heq => hne (List.append_cancel_left heq)

theorem gets_cons_iff {b : UInt8} {rest : Bytes} {reply answer : WriteReply}
    (h : o.write handle [b :: rest] s = (answer, t)) :
    Gets o handle reply (b :: rest) s ↔ reply = answer ∨
      (∃ n, answer = .took (n + 1) ∧ Gets o handle reply (rest.drop n) t) ∨
      answer = .interrupted ∧ Gets o handle reply (b :: rest) t := by
  constructor
  · intro hgets
    cases hgets with
    | now hb h' => exact .inl (Prod.mk.inj (h'.symm.trans h)).1
    | took hb h' hrest =>
      obtain ⟨rfl, rfl⟩ := Prod.mk.inj (h'.symm.trans h)
      exact .inr (.inl ⟨_, rfl, hrest⟩)
    | interrupted hb h' hrest =>
      obtain ⟨rfl, rfl⟩ := Prod.mk.inj (h'.symm.trans h)
      exact .inr (.inr ⟨rfl, hrest⟩)
  · rintro (rfl | ⟨n, rfl, hrest⟩ | ⟨rfl, hrest⟩)
    · exact .now (List.cons_ne_nil b rest) h
    · exact .took (List.cons_ne_nil b rest) h hrest
    · exact .interrupted (List.cons_ne_nil b rest) h hrest

theorem not_gets_nil {reply : WriteReply} : ¬ Gets o handle reply [] s := by
  intro h
  cases h with
  | now hb _ => exact hb rfl
  | took hb _ _ => exact hb rfl
  | interrupted hb _ _ => exact hb rfl

/-- Why not all bytes were taken: a call failed, or one took nothing while some remained. -/
theorem writeAll_eq_error_iff {cause : IoError} :
    (o.writeAll handle bytes s).1 = .error cause ↔
      Gets o handle (.failed cause) bytes s ∨
        cause = .incompleteWrite ∧ Gets o handle (.took 0) bytes s := by
  fun_induction Outputs.writeAll o handle bytes s with
  | case1 s => simp [not_gets_nil]
  | case2 s b rest t hw =>
    rw [gets_cons_iff hw, gets_cons_iff hw]
    simp [eq_comm]
  | case3 s b rest n t hw ih =>
    rw [gets_cons_iff hw, gets_cons_iff hw, ih]
    simp
  | case4 s b rest t hw ih =>
    rw [gets_cons_iff hw, gets_cons_iff hw, ih]
    simp
  | case5 s b rest cause' t hw =>
    rw [gets_cons_iff hw, gets_cons_iff hw]
    simp [eq_comm]

theorem Gets.exists_write {reply : WriteReply} (h : Gets o handle reply bytes s) :
    ∃ slices t, (o.write handle slices t).1 = reply := by
  induction h with
  | now hb h => exact ⟨_, _, congrArg Prod.fst h⟩
  | took hb h hrest ih => exact ih
  | interrupted hb h hrest ih => exact ih

/-- To have all bytes taken fails for such a cause exactly when a call took nothing while some
remained. -/
theorem writeAll_writeZero_iff (hzero : o.CountsZero) :
    (∃ cause : IoError, cause.IsWriteZero ∧ (o.writeAll handle bytes s).1 = .error cause) ↔
      Gets o handle (.took 0) bytes s := by
  constructor
  · rintro ⟨cause, hcause, herror⟩
    rcases writeAll_eq_error_iff.1 herror with hfailed | ⟨-, htook⟩
    · obtain ⟨slices, t, hreply⟩ := hfailed.exists_write
      exact absurd hcause (hzero handle slices t cause hreply)
    · exact htook
  · exact fun htook => ⟨.incompleteWrite, .inr rfl, writeAll_eq_error_iff.2 (.inr ⟨rfl, htook⟩)⟩

/-! ### Accounts -/

/-- How a chain is read: the states that occur, what its output holds, unless the output keeps
nothing of what it takes, and what the chain has counted. -/
structure Meter (σ : Type) where
  valid : σ → Prop
  content : σ → Option Bytes
  count : σ → Nat

/-- The output took these bytes, and the chain counted them. -/
structure Meter.Adds (m : Meter σ) (taken : Bytes) (s t : σ) : Prop where
  valid : m.valid t
  content : m.content t = (m.content s).map (· ++ taken)
  count : m.count t = m.count s + taken.length

theorem Meter.Adds.refl {m : Meter σ} (h : m.valid s) : m.Adds [] s s :=
  ⟨h, by simp, rfl⟩

theorem Meter.Adds.trans {m : Meter σ} {taken more : Bytes} (h : m.Adds taken s t)
    (h' : m.Adds more t u) : m.Adds (taken ++ more) s u where
  valid := h'.valid
  content := by simp [h'.content, h.content, Function.comp_def]
  count := by rw [h'.count, h.count, List.length_append, Nat.add_assoc]

/-- Each call adds to the chain what its reply says. -/
structure Metered (o : Outputs σ) (handle : Handle) (m : Meter σ) : Prop where
  took : ∀ {slices s n t}, m.valid s → o.write handle slices s = (.took n, t) →
    n ≤ slices.flatten.length ∧ m.Adds (slices.flatten.take n) s t
  tookNone : ∀ {slices s reply t}, m.valid s → o.write handle slices s = (reply, t) →
    (∀ n, reply ≠ .took n) → m.Adds [] s t
  flushed : ∀ {s reply t}, m.valid s → o.flush handle s = (reply, t) → m.Adds [] s t

namespace Metered

variable {m : Meter σ}

theorem writeOnce (h : Metered o handle m) (hs : m.valid s) (slices : List Bytes) :
    ∃ taken, m.Adds taken s (o.writeOnce handle slices s).2 ∧
      Tells (.write slices) (.wrote (o.writeOnce handle slices s).1) taken := by
  unfold Outputs.writeOnce
  rcases hw : o.write handle slices s with ⟨n | - | cause, t⟩
  · obtain ⟨hn, hadds⟩ := h.took hs hw
    exact ⟨_, hadds, .some hn⟩
  · exact ⟨[], h.tookNone hs hw nofun, .none⟩
  · exact ⟨[], h.tookNone hs hw nofun, .none⟩

theorem writeAll (h : Metered o handle m) (hs : m.valid s) (bytes : Bytes) :
    ∃ taken, m.Adds taken s (o.writeAll handle bytes s).2 ∧
      Tells (.writeAll bytes) (.ended (o.writeAll handle bytes s).1) taken := by
  have hnone {b : UInt8} {rest : Bytes} {cause : IoError} :
      Tells (.writeAll (b :: rest)) (.ended (.error cause)) [] :=
    .part List.nil_prefix nofun
  fun_induction Outputs.writeAll o handle bytes s with
  | case1 s => exact ⟨[], .refl hs, .all⟩
  | case2 s b rest t hw =>
    obtain ⟨-, hadds⟩ := h.took hs hw
    exact ⟨[], by simpa using hadds, hnone⟩
  | case3 s b rest n t hw ih =>
    obtain ⟨-, hadds⟩ := h.took hs hw
    obtain ⟨taken, hrest, htells⟩ := ih hadds.valid
    have hsplit : b :: rest.take n ++ rest.drop n = b :: rest := by simp
    have hall := htells.append (b :: rest.take n)
    rw [hsplit] at hall
    refine ⟨b :: rest.take n ++ taken, ?_, hall⟩
    apply Meter.Adds.trans (t := t)
    · simpa using hadds
    · exact hrest
  | case4 s b rest t hw ih =>
    have hadds := h.tookNone hs hw nofun
    obtain ⟨taken, hrest, htells⟩ := ih hadds.valid
    exact ⟨taken, hadds.trans hrest, htells⟩
  | case5 s b rest cause t hw => exact ⟨[], h.tookNone hs hw nofun, hnone⟩

theorem call (h : Metered o handle m) (hs : m.valid s) (c : Call) :
    ∃ taken, m.Adds taken s (o.call handle c s).2 ∧ Tells c (o.call handle c s).1 taken := by
  cases c with
  | write slices => exact h.writeOnce hs slices
  | writeAll bytes => exact h.writeAll hs bytes
  | flush => exact ⟨[], h.flushed hs rfl, .flush⟩

theorem after (h : Metered o handle m) (hs : m.valid s) (calls : List Call) :
    ∃ taken, m.Adds taken s (o.after handle calls s) := by
  induction calls generalizing s with
  | nil => exact ⟨[], .refl hs⟩
  | cons c calls ih =>
    obtain ⟨taken, hadds, -⟩ := h.call hs c
    obtain ⟨more, hmore⟩ := ih hadds.valid
    exact ⟨taken ++ more, hadds.trans hmore⟩

end Metered

/-- A chain keeps account from its opening on. After any calls it has counted the bytes that its
output took since, which stand at the end of what the output holds; the next call puts there what
its answer tells. Why a call was not to have all bytes taken is told by what the output replied. -/
structure KeepsAccount (o : Outputs σ) (handle : Handle) (content : σ → Option Bytes)
    (count : σ → Nat) (opened : σ) : Prop where
  counted : ∀ calls, ∃ taken,
    content (o.after handle calls opened) = (content opened).map (· ++ taken) ∧
      count (o.after handle calls opened) = taken.length
  told : ∀ calls c, ∃ taken, Tells c (o.call handle c (o.after handle calls opened)).1 taken ∧
    content (o.after handle (calls ++ [c]) opened) =
      (content (o.after handle calls opened)).map (· ++ taken) ∧
    count (o.after handle (calls ++ [c]) opened) =
      count (o.after handle calls opened) + taken.length
  failed : ∀ calls bytes cause,
    (o.writeAll handle bytes (o.after handle calls opened)).1 = .error cause ↔
      Gets o handle (.failed cause) bytes (o.after handle calls opened) ∨
        cause = .incompleteWrite ∧ Gets o handle (.took 0) bytes (o.after handle calls opened)
  stuck : o.CountsZero → ∀ calls bytes,
    (∃ cause : IoError, cause.IsWriteZero ∧
      (o.writeAll handle bytes (o.after handle calls opened)).1 = .error cause) ↔
        Gets o handle (.took 0) bytes (o.after handle calls opened)

theorem Metered.keepsAccount {m : Meter σ} (h : Metered o handle m) (hs : m.valid s)
    (hcount : m.count s = 0) : KeepsAccount o handle m.content m.count s where
  counted := by
    intro calls
    obtain ⟨taken, hadds⟩ := h.after hs calls
    refine ⟨taken, hadds.content, ?_⟩
    rw [hadds.count, hcount, Nat.zero_add]
  told := by
    intro calls c
    obtain ⟨_, hadds⟩ := h.after hs calls
    obtain ⟨taken, hcall, htells⟩ := h.call hadds.valid c
    refine ⟨taken, htells, ?_⟩
    rw [Outputs.after, List.foldl_append]
    exact ⟨hcall.content, hcall.count⟩
  failed := fun calls bytes cause => writeAll_eq_error_iff
  stuck := fun hzero calls bytes => writeAll_writeZero_iff hzero

/-! ### Chains on any outputs -/

structure Counted (σ : Type) where
  inner : σ
  counts : Handle → Nat

def Counted.add (handle : Handle) (n : Nat) (s : Counted σ) : Counted σ :=
  { s with counts := Function.update s.counts handle (s.counts handle + n) }

/-- Chains on the outputs: every call is passed on, and what it takes is counted. -/
def counted (o : Outputs σ) : Outputs (Counted σ) where
  openPath path s :=
    match o.openPath path s.inner with
    | (.ok handle, inner) => (.ok handle, ⟨inner, Function.update s.counts handle 0⟩)
    | (.error cause, inner) => (.error cause, ⟨inner, s.counts⟩)
  write handle slices s :=
    match o.write handle slices s.inner with
    | (.took n, inner) => (.took n, Counted.add handle n ⟨inner, s.counts⟩)
    | (reply, inner) => (reply, ⟨inner, s.counts⟩)
  flush handle s :=
    let (reply, inner) := o.flush handle s.inner
    (reply, ⟨inner, s.counts⟩)
  finish handle s :=
    let (reply, inner) := o.finish handle s.inner
    (reply, ⟨inner, s.counts⟩)
  patience handle s := o.patience handle s.inner
  patience_interrupted := by
    intro handle slices s h
    have hlt := o.patience_interrupted handle slices s.inner
    rcases hw : o.write handle slices s.inner with ⟨n | - | cause, inner⟩
    · simp [hw] at h
    · simpa [hw] using hlt
    · simp [hw] at h

end Outputs

namespace Ledger

variable {handle : Handle} {l : Ledger}

def takenBy (l : Ledger) (handle : Handle) : Bytes := (l.lookup handle).getD []

theorem handles_credit (handle : Handle) (more : Bytes) (l : Ledger) :
    (l.credit handle more).handles = l.handles := by
  simp only [handles, credit, List.map_map]
  apply List.map_congr_left
  intro e _
  by_cases h : e.1 = handle <;> simp [h]

theorem takenBy_credit (h : handle ∈ l.handles) (more : Bytes) :
    (l.credit handle more).takenBy handle = l.takenBy handle ++ more := by
  induction l with
  | nil => cases h
  | cons e l ih =>
    obtain ⟨first, bytes⟩ := e
    by_cases hfirst : first = handle
    · simp [takenBy, credit, hfirst]
    · have hmem : handle ∈ handles l := by simpa [handles, Ne.symm hfirst] using h
      have hne : (handle == first) = false := by simpa using Ne.symm hfirst
      simpa [takenBy, credit, List.lookup_cons, hfirst, hne] using ih hmem

theorem takenBy_opened (h : handle ∉ l.handles) : takenBy (l ++ [(handle, [])]) handle = [] := by
  have hnone : l.lookup handle = none := by
    rw [List.lookup_eq_none_iff]
    intro e he
    have hne : e.1 ≠ handle := fun heq => h (List.mem_map.2 ⟨e, he, heq⟩)
    simpa using hne.symm
  rw [takenBy, List.lookup_append, hnone]
  simp

end Ledger

namespace Outputs

variable {σ : Type} {o : Outputs σ} {v : View σ} {handle : Handle}

def Counted.meter (v : View σ) (handle : Handle) : Meter (Counted σ) where
  valid s := v.valid s.inner ∧ handle ∈ (v.ledger s.inner).handles
  content s := some ((v.ledger s.inner).takenBy handle)
  count s := s.counts handle

/-- With the same ledger and the same counts nothing was added. -/
theorem Counted.meter_adds_nil {s : Counted σ} (hs : (Counted.meter v handle).valid s) {inner : σ}
    (hvalid : v.valid inner) (hledger : v.ledger inner = v.ledger s.inner) :
    (Counted.meter v handle).Adds [] s ⟨inner, s.counts⟩ where
  valid := ⟨hvalid, hledger ▸ hs.2⟩
  content := by
    change some ((v.ledger inner).takenBy handle) = _
    rw [hledger]
    simp [meter]
  count := rfl

/-- Calls are passed on, and so are their replies. -/
theorem counted_write_took {slices : List Bytes} {n : Nat} {s t : Counted σ}
    (h : (counted o).write handle slices s = (.took n, t)) :
    ∃ inner, o.write handle slices s.inner = (.took n, inner) ∧
      t = Counted.add handle n ⟨inner, s.counts⟩ := by
  simp only [counted] at h
  rcases hw : o.write handle slices s.inner with ⟨n' | - | cause, inner⟩
  · simp only [hw, Prod.mk.injEq, WriteReply.took.injEq] at h
    obtain ⟨rfl, rfl⟩ := h
    exact ⟨inner, rfl, rfl⟩
  · simp [hw] at h
  · simp [hw] at h

theorem counted_write_tookNone {slices : List Bytes} {reply : WriteReply} {s t : Counted σ}
    (h : (counted o).write handle slices s = (reply, t)) (hr : ∀ n, reply ≠ .took n) :
    ∃ inner, o.write handle slices s.inner = (reply, inner) ∧ t = ⟨inner, s.counts⟩ := by
  simp only [counted] at h
  rcases hw : o.write handle slices s.inner with ⟨n' | - | cause, inner⟩
  · simp only [hw, Prod.mk.injEq] at h
    exact absurd h.1.symm (hr n')
  · simp only [hw, Prod.mk.injEq] at h
    exact ⟨inner, by rw [h.1], h.2.symm⟩
  · simp only [hw, Prod.mk.injEq] at h
    exact ⟨inner, by rw [h.1], h.2.symm⟩

theorem counted_metered (hc : WriteContract o v) (handle : Handle) :
    Metered (counted o) handle (Counted.meter v handle) where
  took := by
    intro slices s n t hs h
    obtain ⟨inner, hw, rfl⟩ := counted_write_took h
    obtain ⟨hvalid, hn, hledger⟩ := hc.took hs.1 hw
    refine ⟨hn, ⟨hvalid, ?_⟩, ?_, ?_⟩
    · change _ ∈ (v.ledger inner).handles
      rw [hledger, Ledger.handles_credit]
      exact hs.2
    · change some ((v.ledger inner).takenBy handle) = _
      rw [hledger, Ledger.takenBy_credit hs.2]
      rfl
    · change Function.update _ _ _ _ = _
      rw [Function.update_self, List.length_take, Nat.min_eq_left hn]
      rfl
  tookNone := by
    intro slices s reply t hs h hr
    obtain ⟨inner, hw, rfl⟩ := counted_write_tookNone h hr
    obtain ⟨hvalid, hledger⟩ := hc.tookNone hs.1 hw hr
    exact Counted.meter_adds_nil hs hvalid hledger
  flushed := by
    intro s reply t hs h
    rcases hf : o.flush handle s.inner with ⟨reply', inner⟩
    simp only [counted, hf] at h
    obtain ⟨-, rfl⟩ := Prod.mk.inj h
    obtain ⟨hvalid, hledger⟩ := hc.flushed hs.1 hf
    exact Counted.meter_adds_nil hs hvalid hledger

/-- A chain that was just opened has counted nothing, and its output has taken nothing. -/
theorem counted_opened (hc : WriteContract o v) {path : String} {s t : Counted σ}
    (hs : v.valid s.inner) (h : (counted o).openPath path s = (.ok handle, t)) :
    (Counted.meter v handle).valid t ∧ (Counted.meter v handle).count t = 0 ∧
      (v.ledger t.inner).takenBy handle = [] := by
  rcases ho : o.openPath path s.inner with ⟨handle' | cause, inner⟩
  · simp [counted, ho] at h
  · simp only [counted, ho, Prod.mk.injEq, Except.ok.injEq] at h
    obtain ⟨rfl, rfl⟩ := h
    obtain ⟨hvalid, hnew, hledger⟩ := hc.opened hs ho
    refine ⟨⟨hvalid, ?_⟩, Function.update_self .., ?_⟩
    · change _ ∈ (v.ledger inner).handles
      simp [hledger, Ledger.handles]
    · exact hledger ▸ Ledger.takenBy_opened hnew

theorem counted_notOpened (hc : WriteContract o v) {path : String} {cause : IoError}
    {s t : Counted σ} (hs : v.valid s.inner)
    (h : (counted o).openPath path s = (.error cause, t)) :
    v.ledger t.inner = v.ledger s.inner ∧ t.counts = s.counts := by
  rcases ho : o.openPath path s.inner with ⟨cause' | handle', inner⟩
  · simp only [counted, ho, Prod.mk.injEq] at h
    obtain ⟨-, rfl⟩ := h
    exact ⟨(hc.notOpened hs ho).2, rfl⟩
  · simp [counted, ho] at h

end Outputs

/-- A device fails with the texts that were set for it. -/
theorem Device.write_failed {device changed : Device} {slices : List Bytes} {cause : IoError}
    (h : device.write slices = (.failed cause, changed)) : ∃ text, cause = .failed text := by
  unfold Device.write Device.answer at h
  split at h
  · simp at h
  · split at h
    · exact ⟨_, (WriteReply.failed.inj (Prod.mk.inj h).1).symm⟩
    · split at h
      · simp at h
      · split at h
        · exact ⟨_, (WriteReply.failed.inj (Prod.mk.inj h).1).symm⟩
        · simp at h

namespace World

open Outputs

variable {world t : World} {backing : Backing} {handle : Handle} {slices : List Bytes}

/-! ### Chains on files and devices -/

/-- What lies behind a handle. The null device keeps nothing of what it takes. -/
def holds (world : World) : Backing → Option Bytes
  | .file number => some (world.files.content number)
  | .special .null => none
  | .special .full => some []
  | .device index => some (world.heldBy (.device index))

/-- What a handle is open on is there, also when its name is gone. -/
def IsThere (world : World) (backing : Backing) : Prop :=
  ∀ number, backing = .file number → number < world.files.contents.length

/-- A chain is read from what its handle is open on and from the handle's own count. -/
def meter (handle : Handle) (backing : Backing) : Meter World where
  valid world := world.backing? handle = some backing ∧ world.IsThere backing
  content world := world.holds backing
  count world := world.taken handle

structure Effect (backing : Backing) (slices : List Bytes) (world : World) (reply : WriteReply)
    (t : World) : Prop where
  handles : t.handles = world.handles
  contents : t.files.contents.length = world.files.contents.length
  took : ∀ n, reply = .took n → world.IsThere backing → n ≤ slices.flatten.length ∧
    t.holds backing = (world.holds backing).map (· ++ slices.flatten.take n)
  tookNone : (∀ n, reply ≠ .took n) → t.holds backing = world.holds backing
  failed : ∀ cause, reply = .failed cause → ¬ cause.IsWriteZero

/-- To fail leaves all as it is. -/
theorem Effect.of_failed {cause : IoError} (h : ¬ cause.IsWriteZero) :
    Effect backing slices world (.failed cause) world where
  handles := rfl
  contents := rfl
  took := by simp
  tookNone := fun _ => rfl
  failed := by
    intro cause' hcause
    rwa [← WriteReply.failed.inj hcause]

theorem effect_file (number : Nat) (slices : List Bytes) (world : World) :
    Effect (.file number) slices world (.took (totalLength slices))
      { world with files := world.files.appendTo number slices.flatten } where
  handles := rfl
  contents := List.length_modify ..
  took := by
    intro n hn hthere
    obtain rfl : slices.flatten.length = n := WriteReply.took.inj hn
    refine ⟨Nat.le_refl _, ?_⟩
    simp [holds, Files.content_appendTo (hthere number rfl)]
  tookNone := fun hr => absurd rfl (hr _)
  failed := by simp

theorem heldBy_device {index : Nat} {found : Device} (hd : world.devices[index]? = some found) :
    world.heldBy (.device index) = found.content := by
  simp [heldBy, hd]

theorem effect_device {index : Nat} {found : Device} (hd : world.devices[index]? = some found)
    (slices : List Bytes) :
    Effect (.device index) slices world (found.write slices).1
      (world.setDevice index (found.write slices).2) where
  handles := rfl
  contents := rfl
  took := by
    intro n hn _
    obtain ⟨hle, hcontent⟩ := Device.write_took (Prod.ext hn rfl)
    refine ⟨hle, ?_⟩
    simp [holds, heldBy_setDevice hd, heldBy_device hd, hcontent]
  tookNone := by
    intro hr
    have hcontent : (found.write slices).2.content = found.content :=
      Device.write_tookNone rfl hr
    simp [holds, heldBy_setDevice hd, heldBy_device hd, hcontent]
  failed := by
    intro cause hcause
    obtain ⟨text, rfl⟩ := Device.write_failed (Prod.ext hcause rfl)
    simp [IoError.IsWriteZero]

theorem writeTo_effect {reply : WriteReply} (h : world.writeTo backing slices = (reply, t)) :
    Effect backing slices world reply t := by
  cases backing with
  | file number =>
    obtain ⟨rfl, rfl⟩ := Prod.mk.inj h
    exact effect_file number slices world
  | special which =>
    cases which with
    | null =>
      obtain ⟨rfl, rfl⟩ := Prod.mk.inj h
      refine ⟨rfl, rfl, fun n hn _ => ⟨?_, rfl⟩, fun _ => rfl, by simp⟩
      exact (WriteReply.took.inj hn).ge
    | full =>
      simp only [writeTo] at h
      split at h
      · obtain ⟨rfl, rfl⟩ := Prod.mk.inj h
        exact ⟨rfl, rfl, by simp [holds], fun _ => rfl, by simp⟩
      · obtain ⟨rfl, rfl⟩ := Prod.mk.inj h
        exact .of_failed (by simp [IoError.IsWriteZero])
  | device index =>
    cases hd : world.devices[index]? with
    | none =>
      simp only [writeTo, hd] at h
      obtain ⟨rfl, rfl⟩ := Prod.mk.inj h
      exact .of_failed (by simp [IoError.IsWriteZero])
    | some found =>
      simp only [writeTo, hd] at h
      obtain ⟨rfl, rfl⟩ := Prod.mk.inj h
      exact effect_device hd slices

theorem Effect.valid {reply : WriteReply} (h : Effect backing slices world reply t)
    (hs : (meter handle backing).valid world) :
    (meter handle backing).valid t ∧ t.taken handle = world.taken handle := by
  refine ⟨⟨?_, ?_⟩, ?_⟩
  · rw [← hs.1, backing?, backing?, h.handles]
  · intro number hnumber
    rw [h.contents]
    exact hs.2 number hnumber
  · rw [taken, taken, h.handles]

theorem taken_addTaken (hb : world.backing? handle = some backing) (n : Nat) :
    (world.addTaken handle n).taken handle = world.taken handle + n := by
  unfold backing? at hb
  cases ho : world.handles[handle]? with
  | none => simp [ho] at hb
  | some output => simp [taken, addTaken, ho]

/-- A call on a handle is a call on what it is open on, and what is taken is counted. -/
theorem write_effect (hb : world.backing? handle = some backing) {reply : WriteReply}
    (h : world.write handle slices = (reply, t)) :
    ∃ mid, Effect backing slices world reply mid ∧
      (∀ n, reply = .took n → t = mid.addTaken handle n) ∧
      ((∀ n, reply ≠ .took n) → t = mid) := by
  rcases hw : world.writeTo backing slices with ⟨reply', mid⟩
  simp only [write, hb, hw] at h
  cases reply' with
  | took n =>
    obtain ⟨rfl, rfl⟩ := Prod.mk.inj h
    refine ⟨mid, writeTo_effect hw, ?_, fun hr => absurd rfl (hr n)⟩
    intro m hm
    rw [WriteReply.took.inj hm]
  | interrupted =>
    obtain ⟨rfl, rfl⟩ := Prod.mk.inj h
    exact ⟨mid, writeTo_effect hw, by simp, fun _ => rfl⟩
  | failed cause =>
    obtain ⟨rfl, rfl⟩ := Prod.mk.inj h
    exact ⟨mid, writeTo_effect hw, by simp, fun _ => rfl⟩

theorem fileOutputs_metered (handle : Handle) (backing : Backing) :
    Metered fileOutputs handle (meter handle backing) where
  took := by
    intro slices s n t hs h
    obtain ⟨mid, heffect, htook, -⟩ := write_effect hs.1 h
    obtain rfl := htook n rfl
    obtain ⟨hn, hholds⟩ := heffect.took n rfl hs.2
    obtain ⟨hmid, htaken⟩ := heffect.valid hs
    refine ⟨hn, ⟨?_, hmid.2⟩, hholds, ?_⟩
    · exact (backing?_addTaken mid handle n).trans hmid.1
    · change (mid.addTaken handle n).taken handle = _
      rw [taken_addTaken hmid.1, htaken, List.length_take, Nat.min_eq_left hn]
      rfl
  tookNone := by
    intro slices s reply t hs h hr
    obtain ⟨mid, heffect, -, htookNone⟩ := write_effect hs.1 h
    obtain rfl := htookNone hr
    obtain ⟨ht, htaken⟩ := heffect.valid hs
    refine ⟨ht, ?_, htaken⟩
    change t.holds backing = (s.holds backing).map _
    simp [heffect.tookNone hr]
  flushed := by
    intro s reply t hs h
    have ht := flush_snd handle s
    rw [show s.flush handle = _ from h] at ht
    obtain rfl : t = s := ht
    exact .refl hs

theorem fileOutputs_countsZero : fileOutputs.CountsZero := by
  intro handle slices world cause h
  change (world.write handle slices).1 = _ at h
  cases hb : world.backing? handle with
  | none =>
    simp only [write, hb, WriteReply.failed.injEq] at h
    simp [← h, IoError.IsWriteZero]
  | some backing =>
    obtain ⟨mid, heffect, -⟩ := write_effect hb (Prod.ext h rfl)
    exact heffect.failed cause rfl

/-! ### Opening -/

theorem addHandle_opened (world : World) (backing : Backing) :
    (world.addHandle backing).2.backing? (world.addHandle backing).1 = some backing ∧
      (world.addHandle backing).2.taken (world.addHandle backing).1 = 0 := by
  simp [addHandle, backing?, taken]

theorem openFile_opened (hs : world.files.Sound) {path : String}
    (h : world.openFile path = (.ok handle, t)) :
    ∃ backing, (meter handle backing).valid t ∧ t.taken handle = 0 := by
  unfold openFile at h
  split at h
  · simp at h
  · obtain ⟨hhandle, rfl⟩ := Prod.mk.inj h
    obtain rfl := Except.ok.inj hhandle
    obtain ⟨hb, htaken⟩ := addHandle_opened { world with files := _ } _
    exact ⟨_, ⟨hb, nofun⟩, htaken⟩
  · rename_i number files ho
    obtain ⟨hhandle, rfl⟩ := Prod.mk.inj h
    obtain rfl := Except.ok.inj hhandle
    obtain ⟨hb, htaken⟩ := addHandle_opened { world with files := _ } _
    refine ⟨_, ⟨hb, ?_⟩, htaken⟩
    intro number' hnumber
    obtain rfl := Backing.file.inj hnumber
    exact Files.openAppend_lt hs ho

theorem openAppend_error {files files' : Files} {path : String} {cause : IoError}
    (h : files.openAppend path = (.error cause, files')) : files' = files := by
  unfold Files.openAppend at h
  split at h
  · exact (Prod.mk.inj h).2.symm
  · simp at h
  · split at h
    · exact (Prod.mk.inj h).2.symm
    · split at h
      · exact (Prod.mk.inj h).2.symm
      · simp at h
      · simp at h

theorem openFile_error {path : String} {cause : IoError}
    (h : world.openFile path = (.error cause, t)) : t = world := by
  unfold openFile at h
  split at h
  · rename_i cause' files ho
    obtain ⟨-, rfl⟩ := Prod.mk.inj h
    rw [openAppend_error ho]
  · simp at h
  · simp at h

theorem adoptDevice_opened (h : world.adoptDevice = some (handle, t)) :
    (meter handle (.device world.used)).valid t ∧ t.taken handle = 0 := by
  unfold adoptDevice at h
  split at h
  · obtain ⟨rfl, rfl⟩ := Prod.mk.inj (Option.some.inj h)
    obtain ⟨hb, htaken⟩ := addHandle_opened { world with used := world.used + 1 } _
    exact ⟨⟨hb, nofun⟩, htaken⟩
  · simp at h

/-- Every chain keeps account: one on outputs of any kind that take what they say, one on a file and
one on a device. An opening that fails leaves the chains that there are, and their counts, as they
were. -/
theorem chains_keep_account {σ : Type} {o : Outputs σ} {v : View σ} (hc : WriteContract o v)
    (hw : world.files.Sound) (path : String) :
    (∀ handle (s t : Counted σ), v.valid s.inner →
      (counted o).openPath path s = (.ok handle, t) →
        (v.ledger t.inner).takenBy handle = [] ∧
          KeepsAccount (counted o) handle (fun s => some ((v.ledger s.inner).takenBy handle))
            (·.counts handle) t) ∧
    (∀ cause (s t : Counted σ), v.valid s.inner →
      (counted o).openPath path s = (.error cause, t) →
        v.ledger t.inner = v.ledger s.inner ∧ t.counts = s.counts) ∧
    (∀ handle t, world.openFile path = (.ok handle, t) →
      ∃ backing, t.backing? handle = some backing ∧
        KeepsAccount fileOutputs handle (·.holds backing) (·.taken handle) t) ∧
    (∀ cause t, world.openFile path = (.error cause, t) → t = world) ∧
    (∀ handle t, world.adoptDevice = some (handle, t) →
      t.backing? handle = some (.device world.used) ∧
        KeepsAccount fileOutputs handle (·.holds (.device world.used)) (·.taken handle) t) ∧
    fileOutputs.CountsZero := by
  refine ⟨?_, ?_, ?_, fun _ _ => openFile_error, ?_, fileOutputs_countsZero⟩
  · intro handle s t hs h
    obtain ⟨hvalid, hcount, hempty⟩ := counted_opened hc hs h
    exact ⟨hempty, (counted_metered hc handle).keepsAccount hvalid hcount⟩
  · exact fun cause s t hs h => counted_notOpened hc hs h
  · intro handle t h
    obtain ⟨backing, hvalid, hcount⟩ := openFile_opened hw h
    exact ⟨backing, hvalid.1, (fileOutputs_metered handle backing).keepsAccount hvalid hcount⟩
  · intro handle t h
    obtain ⟨hvalid, hcount⟩ := adoptDevice_opened h
    exact ⟨hvalid.1, (fileOutputs_metered handle _).keepsAccount hvalid hcount⟩

/-- A device that is interrupted once, takes two bytes at a time and has room for five. -/
def scanty : World :=
  { devices := [{ budget := some 5, chunk := some 2, interrupts := 1 }] }

/-- A write that runs out of room counts what was taken before it did. -/
theorem chains_keep_account_scanty :
    let text : Bytes := [10, 11, 12, 13, 14, 15, 16, 17]
    ∃ counting onDevice onFile,
      (counted deviceOutputs).openPath "log" ⟨scanty, fun _ => 7⟩ = (.ok 0, counting) ∧
      KeepsAccount (counted deviceOutputs) 0
        (fun s => some ((deviceView.ledger s.inner).takenBy 0)) (·.counts 0) counting ∧
      scanty.adoptDevice = some (0, onDevice) ∧
      KeepsAccount fileOutputs 0 (·.holds (.device 0)) (·.taken 0) onDevice ∧
      (fileOutputs.writeAll 0 text onDevice).1 = .error (.failed "device full") ∧
      (fileOutputs.writeAll 0 text onDevice).2.taken 0 = 5 ∧
      scanty.openFile "log" = (.ok 0, onFile) ∧
      ∃ backing, onFile.backing? 0 = some backing ∧
        KeepsAccount fileOutputs 0 (·.holds backing) (·.taken 0) onFile := by
  intro text
  have hdevices : OnDevices scanty := onDevices_of_unused (by simp)
  obtain ⟨hopened, -, hfile, -, hdevice, -⟩ :=
    chains_keep_account deviceOutputs_contract
      (show scanty.files.Sound from Files.sound_empty) "log"
  refine ⟨_, _, _, rfl, (hopened 0 ⟨scanty, fun _ => 7⟩ _ hdevices rfl).2, rfl, (hdevice 0 _ rfl).2,
    ?_, ?_, rfl, hfile 0 _ rfl⟩
  · cbv
  · cbv

end World

end RequestLog
