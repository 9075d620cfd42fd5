import RequestLog.Proofs.Contract
import RequestLog.Sink.Pending
import Mathlib.Data.List.Basic
import Mathlib.Data.List.Infix

/-! The queue of a sink. A drain, however many calls it makes, takes the first so many bytes of the
queue and no others; a line counts as written once its last byte is taken. -/

namespace RequestLog

namespace Sink

namespace Pending

@[simp] theorem dropBytes_zero (lines : List Bytes) : dropBytes 0 lines = (lines, 0) := by
  cases lines <;> rfl

theorem dropBytes_of_le {n : Nat} {line : Bytes} (h : line.length ≤ n + 1) (lines : List Bytes) :
    dropBytes (n + 1) (line :: lines) =
      ((dropBytes (n + 1 - line.length) lines).1,
        (dropBytes (n + 1 - line.length) lines).2 + 1) := by
  simp [dropBytes, h]

theorem dropBytes_of_lt {n : Nat} {line : Bytes} (h : n + 1 < line.length) (lines : List Bytes) :
    dropBytes (n + 1) (line :: lines) = (line.drop (n + 1) :: lines, 0) := by
  simp [dropBytes, Nat.not_le.2 h]

/-- What is left of the queue are the bytes after those taken. -/
theorem flatten_dropBytes (n : Nat) (lines : List Bytes) :
    (dropBytes n lines).1.flatten = lines.flatten.drop n := by
  induction lines generalizing n with
  | nil => simp [dropBytes]
  | cons line lines ih =>
    cases n with
    | zero => simp
    | succ n =>
      rcases Nat.lt_or_ge (n + 1) line.length with h | h
      · rw [dropBytes_of_lt h, List.flatten_cons, List.flatten_cons,
          List.drop_append_of_le_length (Nat.le_of_lt h)]
      · rw [dropBytes_of_le h, ih, List.flatten_cons, List.drop_append,
          List.drop_of_length_le h, List.nil_append]

/-- Taking bytes twice is taking them at once. -/
theorem dropBytes_dropBytes (n m : Nat) (lines : List Bytes) :
    dropBytes (n + m) lines = ((dropBytes m (dropBytes n lines).1).1,
      (dropBytes n lines).2 + (dropBytes m (dropBytes n lines).1).2) := by
  induction lines generalizing n with
  | nil => simp [dropBytes]
  | cons line lines ih =>
    cases n with
    | zero => simp
    | succ n =>
      rcases Nat.lt_or_ge (n + 1) line.length with h | h
      · -- the first call stops inside the first line
        rw [dropBytes_of_lt h]
        cases m with
        | zero => simp [dropBytes_of_lt h]
        | succ m =>
          have hlen : (line.drop (n + 1)).length = line.length - (n + 1) := List.length_drop
          rcases Nat.lt_or_ge (n + 1 + m + 1) line.length with h' | h'
          · rw [← Nat.add_assoc, dropBytes_of_lt h', dropBytes_of_lt (by omega), List.drop_drop]
            rfl
          · rw [← Nat.add_assoc, dropBytes_of_le h', dropBytes_of_le (by omega), hlen,
              show n + 1 + m + 1 - line.length = m + 1 - (line.length - (n + 1)) by omega]
            simp
      · rw [dropBytes_of_le h, show n + 1 + m = (n + m) + 1 by omega,
          dropBytes_of_le (by omega),
          show n + m + 1 - line.length = n + 1 - line.length + m by omega,
          ih]
        simp only [Prod.mk.injEq, true_and]
        omega

theorem dropBytes_ne_nil {lines : List Bytes} (h : ∀ line ∈ lines, line ≠ []) (n : Nat) :
    ∀ line ∈ (dropBytes n lines).1, line ≠ [] := by
  induction lines generalizing n with
  | nil => simp [dropBytes]
  | cons line lines ih =>
    cases n with
    | zero => simpa using h
    | succ n =>
      have hrest : ∀ l ∈ lines, l ≠ [] := fun l hl => h l (List.mem_cons_of_mem _ hl)
      rcases Nat.lt_or_ge (n + 1) line.length with hn | hn
      · rw [dropBytes_of_lt hn]
        intro l hl
        rcases List.mem_cons.1 hl with rfl | hl
        · simpa [List.drop_eq_nil_iff] using hn
        · exact hrest l hl
      · rw [dropBytes_of_le hn]
        exact ih hrest _

theorem consume_consume (n m : Nat) (pending : Pending) (counters : Counters) :
    (pending.consume n counters).1.consume m (pending.consume n counters).2 =
      pending.consume (n + m) counters := by
  simp [consume, dropBytes_dropBytes n m, Counters.addBytes, Counters.addLines, Nat.sub_sub,
    Nat.add_assoc]

theorem consume_zero (pending : Pending) (counters : Counters) :
    pending.consume 0 counters = (pending, counters) := by
  simp [consume, Counters.addBytes, Counters.addLines]

/-! ### Draining -/

section drain

variable {σ : Type} {o : Outputs σ} {v : View σ}

theorem drain_ok_iff (handle : Handle) (pending : Pending) (counters : Counters) (s : σ) :
    (drain o handle pending counters s).result = .ok () ↔
      (drain o handle pending counters s).pending.lines = [] := by
  fun_induction drain o handle pending counters s with
  | case1 pending counters s he => simp [he]
  | case2 pending counters s he t hw => simp [he]
  | case3 pending counters s he n t hw after ih => exact ih
  | case4 pending counters s he t hw ih => exact ih
  | case5 pending counters s he cause t hw => simp [he]

/-- The bytes that one call takes are the first ones of the whole queue. -/
theorem take_batch {n : Nat} {lines : List Bytes} (h : n ≤ (lines.take batch).flatten.length) :
    n ≤ lines.flatten.length ∧ (lines.take batch).flatten.take n = lines.flatten.take n := by
  have hsplit : lines.flatten = (lines.take batch).flatten ++ (lines.drop batch).flatten := by
    rw [← List.flatten_append, List.take_append_drop]
  rw [hsplit, List.length_append, List.take_append_of_le_length h]
  exact ⟨by omega, rfl⟩

/-- A drain is one take, of so many bytes as its calls took together. -/
theorem drain_eq_consume (hc : WriteContract o v) (handle : Handle) (pending : Pending)
    (counters : Counters) (s : σ) (hv : v.valid s) :
    v.valid (drain o handle pending counters s).outputs ∧
      ∃ n ≤ pending.lines.flatten.length,
        ((drain o handle pending counters s).pending, (drain o handle pending counters s).counters)
          = pending.consume n counters ∧
        v.ledger (drain o handle pending counters s).outputs =
          (v.ledger s).credit handle (pending.lines.flatten.take n) := by
  fun_induction drain o handle pending counters s with
  | case1 pending counters s he => exact ⟨hv, 0, by simp, by simp [consume_zero], by simp⟩
  | case2 pending counters s he t hw =>
    obtain ⟨hv', -, hl⟩ := hc.took hv hw
    exact ⟨hv', 0, by simp, by simp [consume_zero], by simpa using hl⟩
  | case3 pending counters s he n t hw after ih =>
    obtain ⟨hv', hn, hl⟩ := hc.took hv hw
    obtain ⟨hn', hbytes⟩ := take_batch hn
    obtain ⟨hvalid, m, hm, heq, hledger⟩ := ih hv'
    have hrest : after.1.lines.flatten = pending.lines.flatten.drop (n + 1) :=
      flatten_dropBytes (n + 1) pending.lines
    refine ⟨hvalid, n + 1 + m, ?_, ?_, ?_⟩
    · rw [hrest, List.length_drop] at hm
      omega
    · rw [heq, ← consume_consume]
    · rw [hledger, hl, Ledger.credit_credit, hrest, hbytes, ← List.take_add]
  | case4 pending counters s he t hw ih =>
    obtain ⟨hv', hl⟩ := hc.tookNone hv hw (by simp)
    simpa [hl] using ih hv'
  | case5 pending counters s he cause t hw =>
    obtain ⟨hv', hl⟩ := hc.tookNone hv hw (by simp)
    exact ⟨hv', 0, by simp, by simp [consume_zero], by simpa using hl⟩

end drain

/-! ### Lines written and lines left -/

/-- Puts back what the first line has lost. -/
def rejoin (part : Bytes) : List Bytes → List Bytes
  | [] => []
  | line :: lines => (part ++ line) :: lines

@[simp] theorem rejoin_nil (part : Bytes) : rejoin part [] = [] := rfl

@[simp] theorem rejoin_cons (part line : Bytes) (lines : List Bytes) :
    rejoin part (line :: lines) = (part ++ line) :: lines := rfl

@[simp] theorem rejoin_nothing (lines : List Bytes) : rejoin [] lines = lines := by
  cases lines <;> rfl

@[simp] theorem length_rejoin (part : Bytes) (lines : List Bytes) :
    (rejoin part lines).length = lines.length := by
  cases lines <;> rfl

/-- Of these lines so many are written in full. The others are left, the first of them perhaps
without its beginning, which was taken too. -/
def Progress (lines : List Bytes) (taken : Bytes) (written : Nat) (left : List Bytes) : Prop :=
  ∃ whole part, lines = whole ++ rejoin part left ∧ taken = whole.flatten ++ part ∧
    written = whole.length ∧ (left = [] → part = [])

namespace Progress

variable {lines left : List Bytes} {taken : Bytes} {written : Nat}

theorem nil : Progress [] [] 0 [] := ⟨[], [], by simp⟩

theorem push (h : Progress lines taken written left) (line : Bytes) :
    Progress (lines ++ [line]) taken written (left ++ [line]) := by
  obtain ⟨whole, part, rfl, rfl, rfl, hpart⟩ := h
  refine ⟨whole, part, ?_, rfl, rfl, by simp⟩
  cases left with
  | nil => simp [hpart rfl]
  | cons first rest => simp

theorem dropBytes (h : Progress lines taken written left) {n : Nat} (hn : n ≤ left.flatten.length) :
    Progress lines (taken ++ left.flatten.take n) (written + (dropBytes n left).2)
      (dropBytes n left).1 := by
  induction left generalizing n taken written with
  | nil => simpa [Pending.dropBytes] using h
  | cons first rest ih =>
    cases n with
    | zero => simpa using h
    | succ n =>
      obtain ⟨whole, part, rfl, rfl, rfl, -⟩ := h
      rcases Nat.lt_or_ge (n + 1) first.length with hlt | hge
      · rw [dropBytes_of_lt hlt]
        refine ⟨whole, part ++ first.take (n + 1), ?_, ?_, rfl, by simp⟩
        · simp
        · rw [List.flatten_cons, List.take_append_of_le_length (Nat.le_of_lt hlt),
            List.append_assoc]
      · -- the first line is written in full, and the rest goes on with what is left of `n`
        have hstep : Progress (whole ++ rejoin part (first :: rest))
            (whole.flatten ++ part ++ first) (whole.length + 1) rest :=
          ⟨whole ++ [part ++ first], [], by simp, by simp, by simp, fun _ => rfl⟩
        rw [dropBytes_of_le hge, List.flatten_cons, List.take_append, List.take_of_length_le hge]
        rw [List.flatten_cons, List.length_append] at hn
        have := ih hstep (n := n + 1 - first.length) (by omega)
        rwa [List.append_assoc, Nat.add_assoc, Nat.add_comm 1] at this

/-- Lines that are only left, behind the others. -/
theorem append (h : Progress lines taken written left) (more : List Bytes) :
    Progress (lines ++ more) taken written (left ++ more) := by
  induction more generalizing lines left with
  | nil => simpa using h
  | cons line more ih => simpa using ih (h.push line)

theorem append_flatten (h : Progress lines taken written left) :
    taken ++ left.flatten = lines.flatten := by
  obtain ⟨whole, part, rfl, rfl, rfl, hpart⟩ := h
  cases left with
  | nil => simp [hpart]
  | cons first rest => simp

theorem length_eq (h : Progress lines taken written left) :
    lines.length = written + left.length := by
  obtain ⟨whole, part, rfl, rfl, rfl, -⟩ := h
  rw [List.length_append, length_rejoin]

/-- A line is among those written exactly if its last byte was taken. -/
theorem prefix_iff (h : Progress lines taken written left) (hleft : ∀ line ∈ left, line ≠ [])
    {i : Nat} (hi : i < lines.length) :
    (lines.take (i + 1)).flatten <+: taken ↔ i < written := by
  obtain ⟨whole, part, rfl, rfl, rfl, -⟩ := h
  constructor
  · intro hp
    by_contra hge
    cases left with
    | nil =>
      rw [rejoin_nil, List.append_nil] at hi
      exact hge hi
    | cons first rest =>
      have hfirst : 0 < first.length := List.length_pos_iff.2 (hleft first List.mem_cons_self)
      have hlen := hp.length_le
      rw [List.take_append, List.take_of_length_le (by omega),
        show i + 1 - whole.length = (i - whole.length) + 1 by omega, rejoin_cons,
        List.take_succ_cons] at hlen
      simp only [List.flatten_append, List.flatten_cons, List.length_append] at hlen
      omega
  · intro hlt
    rw [List.take_append_of_le_length (by omega)]
    exact (List.take_prefix _ _).flatten.trans (List.prefix_append _ _)

end Progress

/-- How many of the lines have their last byte among those taken. -/
def completed (lines : List Bytes) (taken : Bytes) : Nat :=
  (List.range lines.length).countP fun i => (lines.take (i + 1)).flatten.isPrefixOf taken

theorem Progress.completed_eq {lines left : List Bytes} {taken : Bytes} {written : Nat}
    (h : Progress lines taken written left) (hleft : ∀ line ∈ left, line ≠ []) :
    completed lines taken = written := by
  have hle : written ≤ lines.length := by rw [h.length_eq]; omega
  have hcongr : completed lines taken = (List.range lines.length).countP (· < written) := by
    refine List.countP_congr fun i hi => ?_
    rw [List.isPrefixOf_iff_prefix, h.prefix_iff hleft (List.mem_range.1 hi), decide_eq_true_iff]
  rw [hcongr, ← Nat.add_sub_cancel' hle, List.range_add, List.countP_append,
    List.countP_eq_length.2 (by simp), List.countP_eq_zero.2 (by simp), List.length_range,
    Nat.add_zero]

end Pending

end Sink

end RequestLog
