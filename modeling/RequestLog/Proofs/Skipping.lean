import RequestLog.Proofs.LineEnds
import Mathlib

/-! Reading a value and passing over it. A text that is read as a value is passed over to the same
place, at any nesting: the two readers agree on where a value ends. -/

namespace RequestLog

namespace Json

/-! ### What is read of lists -/

/-- How the items of an array are read: `first` says that none was read yet. -/
inductive ReadsItems (item : Bytes → Read Json) : Bool → Bytes → List Json → Bytes → Prop where
  | close {first : Bool} {s rest : Bytes} (hs : skipSpace s = 0x5D :: rest) :
    ReadsItems item first s [] rest
  | first {s t t' rest : Bytes} {b : UInt8} {value : Json} {values : List Json}
      (hs : skipSpace s = b :: t) (hb : b ≠ 0x5D) (hi : item (b :: t) = .ok (value, t'))
      (h : ReadsItems item false t' values rest) :
    ReadsItems item true s (value :: values) rest
  | next {s r t t' rest : Bytes} {b : UInt8} {value : Json} {values : List Json}
      (hs : skipSpace s = 0x2C :: r) (hr : skipSpace r = b :: t) (hb : b ≠ 0x5D)
      (hi : item (b :: t) = .ok (value, t')) (h : ReadsItems item false t' values rest) :
    ReadsItems item false s (value :: values) rest

inductive ReadsMembers (item : Bytes → Read Json) :
    Bool → Bytes → List (String × Json) → Bytes → Prop where
  | close {first : Bool} {s rest : Bytes} (hs : nextMember first s = .ok (false, rest)) :
    ReadsMembers item first s [] rest
  | member {first : Bool} {s s₁ s₂ s₃ s₄ rest : Bytes} {name : String} {value : Json}
      {pairs : List (String × Json)} (hs : nextMember first s = .ok (true, s₁))
      (hn : readText s₁ = .ok (name, s₂)) (hc : colon s₂ = .ok s₃)
      (hi : item s₃ = .ok (value, s₄)) (h : ReadsMembers item false s₄ pairs rest) :
    ReadsMembers item first s ((name, value) :: pairs) rest

section

variable {item : Bytes → Read Json} {first : Bool} {fuel : Nat} {s rest : Bytes}

theorem readsItems_of_ok {values : List Json}
    (h : readItems item first fuel s = .ok (values, rest)) :
    ReadsItems item first s values rest := by
  induction fuel generalizing first s values with
  | zero => cases h
  | succ fuel ih =>
    unfold readItems at h
    split at h
    · cases h
    rename_i b t hs
    split at h
    · rename_i hb
      obtain ⟨rfl, rfl⟩ := Prod.mk.inj (Except.ok.inj h)
      exact .close (hb ▸ hs)
    rename_i hb
    dsimp only at h
    split at h
    · cases h
    · cases h
    rename_i c u hstart
    split at h
    · cases h
    rename_i hc
    split at h
    · cases h
    rename_i value t' hi
    split at h
    · cases h
    rename_i values' t'' hrest
    obtain ⟨rfl, rfl⟩ := Prod.mk.inj (Except.ok.inj h)
    -- the first item starts at `b`, a later one after the comma there
    cases first with
    | true =>
      obtain ⟨rfl, rfl⟩ := List.cons.inj (Except.ok.inj hstart)
      exact .first hs hb hi (ih hrest)
    | false =>
      rw [if_neg Bool.false_ne_true] at hstart
      split at hstart
      · rename_i hcomma
        exact .next (hcomma ▸ hs) (Except.ok.inj hstart) hc hi (ih hrest)
      · cases hstart

theorem ReadsItems.ok {values : List Json} (h : ReadsItems item first s values rest)
    (hf : values.length < fuel) : readItems item first fuel s = .ok (values, rest) := by
  induction h generalizing fuel with
  | close hs =>
    obtain ⟨fuel, rfl⟩ := Nat.exists_eq_add_one_of_ne_zero (Nat.ne_zero_of_lt hf)
    simp [readItems, hs]
  | first hs hb hi _ ih =>
    obtain ⟨fuel, rfl⟩ := Nat.exists_eq_add_one_of_ne_zero (Nat.ne_zero_of_lt hf)
    simp [readItems, hs, hb, hi, ih (Nat.lt_of_succ_lt_succ hf)]
  | next hs hr hb hi _ ih =>
    obtain ⟨fuel, rfl⟩ := Nat.exists_eq_add_one_of_ne_zero (Nat.ne_zero_of_lt hf)
    simp [readItems, hs, hr, hb, hi, ih (Nat.lt_of_succ_lt_succ hf)]

theorem readsMembers_of_ok {pairs : List (String × Json)}
    (h : readMembers item first fuel s = .ok (pairs, rest)) :
    ReadsMembers item first s pairs rest := by
  induction fuel generalizing first s pairs with
  | zero => cases h
  | succ fuel ih =>
    unfold readMembers at h
    split at h
    · cases h
    · rename_i s₁ hs
      obtain ⟨rfl, rfl⟩ := Prod.mk.inj (Except.ok.inj h)
      exact .close hs
    rename_i s₁ hs
    split at h
    · cases h
    rename_i name s₂ hn
    split at h
    · cases h
    rename_i s₃ hc
    split at h
    · cases h
    rename_i value s₄ hi
    split at h
    · cases h
    rename_i pairs' s₅ hrest
    obtain ⟨rfl, rfl⟩ := Prod.mk.inj (Except.ok.inj h)
    exact .member hs hn hc hi (ih hrest)

theorem ReadsMembers.ok {pairs : List (String × Json)} (h : ReadsMembers item first s pairs rest)
    (hf : pairs.length < fuel) : readMembers item first fuel s = .ok (pairs, rest) := by
  induction h generalizing fuel with
  | close hs =>
    obtain ⟨fuel, rfl⟩ := Nat.exists_eq_add_one_of_ne_zero (Nat.ne_zero_of_lt hf)
    simp [readMembers, hs]
  | member hs hn hc hi _ ih =>
    obtain ⟨fuel, rfl⟩ := Nat.exists_eq_add_one_of_ne_zero (Nat.ne_zero_of_lt hf)
    simp [readMembers, hs, hn, hc, hi, ih (Nat.lt_of_succ_lt_succ hf)]

end

/-! ### What is read of values -/

inductive ReadsScalar : UInt8 → Bytes → Json → Bytes → Prop where
  | null {s rest : Bytes} (h : word [0x75, 0x6C, 0x6C] s = .ok rest) : ReadsScalar 0x6E s .null rest
  | boolTrue {s rest : Bytes} (h : word [0x72, 0x75, 0x65] s = .ok rest) :
    ReadsScalar 0x74 s (.bool true) rest
  | boolFalse {s rest : Bytes} (h : word [0x61, 0x6C, 0x73, 0x65] s = .ok rest) :
    ReadsScalar 0x66 s (.bool false) rest
  | negative {s rest : Bytes} {value : Json}
      (h : readNumber true s = .ok (value, rest)) : ReadsScalar 0x2D s value rest
  | number {b : UInt8} {s rest : Bytes} {value : Json} (hb : isDigit b = true)
      (h : readNumber false (b :: s) = .ok (value, rest)) : ReadsScalar b s value rest
  | string {s rest : Bytes} {text : String} (h : readText s = .ok (text, rest)) :
    ReadsScalar 0x22 s (.string text) rest

theorem ne_of_isDigit {b c : UInt8} (hb : isDigit b = true) (hc : isDigit c = false) : b ≠ c := by
  rintro rfl
  cases hb.symm.trans hc

/-- A value, by its first byte. What is nested in it has a level less. -/
inductive ReadsValue : Nat → Bytes → Json → Bytes → Prop where
  | scalar {depth : Nat} {s t rest : Bytes} {b : UInt8} {value : Json}
      (hs : skipSpace s = b :: t) (h : ReadsScalar b t value rest) : ReadsValue depth s value rest
  | array {depth : Nat} {s t rest : Bytes} {values : List Json} (hs : skipSpace s = 0x5B :: t)
      (h : ReadsItems (readValue depth) true t values rest) :
    ReadsValue (depth + 1) s (.array values) rest
  | object {depth : Nat} {s t rest : Bytes} {pairs : List (String × Json)}
      (hs : skipSpace s = 0x7B :: t) (h : ReadsMembers (readValue depth) true t pairs rest) :
    ReadsValue (depth + 1) s (.object (Members.ofPairs pairs)) rest

theorem readsValue_of_ok {depth : Nat} {s rest : Bytes} {value : Json}
    (h : readValue depth s = .ok (value, rest)) : ReadsValue depth s value rest := by
  have hword {x : Except Fault Bytes} {value' : Json}
      (h : x.map (value', ·) = .ok (value, rest)) : x = .ok rest ∧ value' = value := by
    cases x with
    | error fault => cases h
    | ok t =>
      obtain ⟨hvalue, hrest⟩ := Prod.mk.inj (Except.ok.inj h)
      exact ⟨congrArg Except.ok hrest, hvalue⟩
  have hmap {α : Type} {f : α → Json} {x : Read α}
      (h : x.map (fun read => (f read.1, read.2)) = .ok (value, rest)) :
      ∃ a, x = .ok (a, rest) ∧ f a = value := by
    cases x with
    | error fault => cases h
    | ok read =>
      obtain ⟨ha, hrest⟩ := Prod.mk.inj (Except.ok.inj h)
      exact ⟨read.1, congrArg Except.ok (Prod.ext rfl hrest), ha⟩
  unfold readValue at h
  split at h
  · cases h
  rename_i b t hs
  split at h
  · rename_i hb
    obtain ⟨hnull, rfl⟩ := hword h
    exact .scalar hs (hb ▸ .null hnull)
  split at h
  · rename_i hb
    obtain ⟨htrue, rfl⟩ := hword h
    exact .scalar hs (hb ▸ .boolTrue htrue)
  split at h
  · rename_i hb
    obtain ⟨hfalse, rfl⟩ := hword h
    exact .scalar hs (hb ▸ .boolFalse hfalse)
  split at h
  · rename_i hb
    exact .scalar hs (hb ▸ .negative h)
  split at h
  · rename_i hb
    exact .scalar hs (.number hb h)
  split at h
  · rename_i hb
    obtain ⟨text, htext, rfl⟩ := hmap h
    exact .scalar hs (hb ▸ .string htext)
  split at h
  · rename_i hb
    subst hb
    cases depth with
    | zero => cases h
    | succ depth =>
      obtain ⟨values, hitems, rfl⟩ := hmap h
      exact .array hs (readsItems_of_ok hitems)
  split at h
  · rename_i hb
    subst hb
    cases depth with
    | zero => cases h
    | succ depth =>
      obtain ⟨pairs, hmembers, rfl⟩ := hmap (f := fun pairs => .object (Members.ofPairs pairs)) h
      exact .object hs (readsMembers_of_ok hmembers)
  · cases h

/-! ### Space -/

theorem skipSpace_skipSpace (s : Bytes) : skipSpace (skipSpace s) = skipSpace s :=
  List.dropWhile_idempotent isSpace s

theorem length_skipSpace_le (s : Bytes) : (skipSpace s).length ≤ s.length :=
  (List.dropWhile_suffix isSpace).length_le

/-! ### Scalars -/

/-- Where a text ends too early is no matter for one that does not. -/
theorem digits_missing {missing missing' : Fault} {s rest : Bytes} {ds : List Nat}
    (h : digits missing s = .ok (ds, rest)) : digits missing' s = .ok (ds, rest) := by
  unfold digits at h ⊢
  split at h
  · cases h
  · exact h

theorem wholeDigits_missing {missing missing' : Fault} {s rest : Bytes} {ds : List Nat}
    (h : wholeDigits missing s = .ok (ds, rest)) : wholeDigits missing' s = .ok (ds, rest) := by
  unfold wholeDigits at h ⊢
  split at h
  · cases h
  · rename_i hds
    rw [digits_missing hds]
    exact h

theorem fractionDigits_missing {missing missing' : Fault} {s rest : Bytes}
    {ds : Option (List Nat)} (h : fractionDigits missing s = .ok (ds, rest)) :
    fractionDigits missing' s = .ok (ds, rest) := by
  unfold fractionDigits at h ⊢
  split at h
  · exact h
  split at h
  · rename_i hb
    rw [if_pos hb]
    split at h
    · cases h
    · rename_i hds
      rw [digits_missing hds]
      exact h
  · rename_i hb
    rw [if_neg hb]
    exact h

theorem exponentPart_missing {missing missing' : Fault} {s rest : Bytes} {e : Option Int}
    (h : exponentPart missing s = .ok (e, rest)) : exponentPart missing' s = .ok (e, rest) := by
  unfold exponentPart at h ⊢
  split at h
  · exact h
  split at h
  · rename_i hb
    rw [if_pos hb]
    dsimp only at h ⊢
    split at h
    · cases h
    · rename_i hds
      rw [digits_missing hds]
      exact h
  · rename_i hb
    rw [if_neg hb]
    exact h

theorem numeral_missing {missing missing' : Fault} {negative : Bool} {s rest : Bytes}
    {n : Numeral} (h : numeral missing negative s = .ok (n, rest)) :
    numeral missing' negative s = .ok (n, rest) := by
  unfold numeral at h ⊢
  split at h
  · cases h
  rename_i hwhole
  split at h
  · cases h
  rename_i hfraction
  split at h
  · cases h
  rename_i hexponent
  simp only [wholeDigits_missing hwhole, fractionDigits_missing hfraction,
    exponentPart_missing hexponent]
  exact h

/-! ### Strings -/

theorem hexUnit_ok {s rest : Bytes} {unit : Nat} (h : hexUnit s = .ok (unit, rest)) :
    ∃ a b c d, s = a :: b :: c :: d :: rest ∧ hexUnit? a b c d = some unit := by
  unfold hexUnit at h
  split at h
  · rename_i a b c d t
    split at h
    · rename_i hunit
      obtain ⟨rfl, rfl⟩ := Prod.mk.inj (Except.ok.inj h)
      exact ⟨a, b, c, d, rfl, hunit⟩
    · cases h
  · cases h

theorem lowSurrogate_ok {s rest : Bytes} {low : Nat} (h : lowSurrogate s = .ok (low, rest)) :
    ∃ t, s = 0x5C :: 0x75 :: t ∧ hexUnit t = .ok (low, rest) ∧ isLowSurrogate low = true := by
  match s with
  | [] => cases h
  | [b] =>
    simp only [lowSurrogate] at h
    split at h <;> cases h
  | b :: u :: t =>
    simp only [lowSurrogate] at h
    split at h
    · cases h
    rename_i hb
    split at h
    · cases h
    rename_i hu
    split at h
    · cases h
    rename_i unit t' hunit
    split at h
    · rename_i hlow
      obtain ⟨rfl, rfl⟩ := Prod.mk.inj (Except.ok.inj h)
      exact ⟨t, by rw [not_not.1 hb, not_not.1 hu], hunit, hlow⟩
    · cases h

inductive Escape : Bytes → Bytes → Bytes → Prop where
  | short {b c : UInt8} {rest : Bytes} (h : shortEscape? b = some c) : Escape (b :: rest) [c] rest
  | unit {t rest : Bytes} {unit : Nat} (h : hexUnit t = .ok (unit, rest))
      (hl : isLowSurrogate unit = false) (hh : isHighSurrogate unit = false) :
    Escape (0x75 :: t) (String.utf8EncodeChar (Char.ofNat unit)) rest
  | pair {t t' rest : Bytes} {high low : Nat} (h : hexUnit t = .ok (high, 0x5C :: 0x75 :: t'))
      (hh : isHighSurrogate high = true) (hl : isLowSurrogate high = false)
      (h' : hexUnit t' = .ok (low, rest)) (hl' : isLowSurrogate low = true) :
    Escape (0x75 :: t) (String.utf8EncodeChar (Char.ofNat (pairedScalar high low))) rest

theorem escape_ok {s bytes rest : Bytes} (h : escape s = .ok (bytes, rest)) :
    Escape s bytes rest := by
  cases s with
  | nil => cases h
  | cons b s =>
    simp only [escape] at h
    split at h
    · rename_i c hc
      obtain ⟨rfl, rfl⟩ := Prod.mk.inj (Except.ok.inj h)
      exact .short hc
    split at h
    · rename_i hb
      subst hb
      unfold unicodeEscape at h
      split at h
      · cases h
      rename_i unit t hunit
      split at h
      · cases h
      rename_i hl
      split at h
      · rename_i hh
        split at h
        · cases h
        rename_i low t' hlow
        obtain ⟨rfl, rfl⟩ := Prod.mk.inj (Except.ok.inj h)
        obtain ⟨u, rfl, hu, hl'⟩ := lowSurrogate_ok hlow
        exact .pair hunit hh (by simpa using hl) hu hl'
      · rename_i hh
        obtain ⟨rfl, rfl⟩ := Prod.mk.inj (Except.ok.inj h)
        exact .unit hunit (by simpa using hl) (by simpa using hh)
    · cases h

inductive ReadsString : Bytes → Bytes → Bytes → Prop where
  | close (rest : Bytes) : ReadsString (0x22 :: rest) [] rest
  | escaped {s bytes after more rest : Bytes} (he : Escape s bytes after)
      (h : ReadsString after more rest) : ReadsString (0x5C :: s) (bytes ++ more) rest
  | plain {b : UInt8} {s more rest : Bytes} (hq : b ≠ 0x22) (hb : b ≠ 0x5C) (hc : ¬ b < 0x20)
      (h : ReadsString s more rest) : ReadsString (b :: s) (b :: more) rest

theorem readsString_of_ok {s bytes rest : Bytes} (h : stringBytes s = .ok (bytes, rest)) :
    ReadsString s bytes rest := by
  fun_induction stringBytes s generalizing bytes with
  | case1 => cases h
  | case2 t =>
    obtain ⟨rfl, rfl⟩ := Prod.mk.inj (Except.ok.inj h)
    exact .close t
  | case3 => cases h
  | case4 => cases h
  | case5 t _ _ he _ _ _ hmore _ ih =>
    obtain ⟨rfl, rfl⟩ := Prod.mk.inj (Except.ok.inj h)
    exact .escaped (escape_ok he) (ih hmore)
  | case6 => cases h
  | case7 => cases h
  | case8 => cases h
  | case9 b t hq hb hc more after hmore ih =>
    obtain ⟨rfl, rfl⟩ := Prod.mk.inj (Except.ok.inj h)
    exact .plain hq hb hc (ih hmore)

theorem skipString_unit {a b c d : UInt8} {unit : Nat} (h : hexUnit? a b c d = some unit)
    (s : Bytes) : skipString (0x5C :: 0x75 :: a :: b :: c :: d :: s) = skipString s := by
  have hshort : shortEscape? 0x75 = none := by decide
  conv_lhs => unfold skipString
  simp [hshort, h]

theorem Escape.skipString_eq {s bytes rest : Bytes} (h : Escape s bytes rest) :
    skipString (0x5C :: s) = skipString rest := by
  cases h with
  | short h =>
    conv_lhs => unfold skipString
    simp [h]
  | unit h hl hh =>
    obtain ⟨a, b, c, d, rfl, hunit⟩ := hexUnit_ok h
    exact skipString_unit hunit rest
  | pair h hh hl h' hl' =>
    -- to the skipper a surrogate pair is two escapes
    obtain ⟨a, b, c, d, rfl, hunit⟩ := hexUnit_ok h
    obtain ⟨a', b', c', d', rfl, hunit'⟩ := hexUnit_ok h'
    rw [skipString_unit hunit, skipString_unit hunit']

theorem ReadsString.skip {s bytes rest : Bytes} (h : ReadsString s bytes rest) :
    skipString s = .ok rest := by
  induction h with
  | close rest =>
    unfold skipString
    rfl
  | escaped he _ ih => rw [he.skipString_eq, ih]
  | plain hq hb hc _ ih =>
    unfold skipString
    rw [if_neg hq, if_neg hb, if_neg hc, ih]

theorem readText_ok {s rest : Bytes} {text : String} (h : readText s = .ok (text, rest)) :
    ∃ bytes, ReadsString s bytes rest ∧ Utf8.decode? bytes = some text := by
  unfold readText at h
  split at h
  · cases h
  rename_i bytes t hbytes
  split at h
  · rename_i text' hdecode
    obtain ⟨rfl, rfl⟩ := Prod.mk.inj (Except.ok.inj h)
    exact ⟨bytes, readsString_of_ok hbytes, hdecode⟩
  · cases h

theorem skipString_of_readText {s rest : Bytes} {text : String}
    (h : readText s = .ok (text, rest)) : skipString s = .ok rest := by
  obtain ⟨bytes, hbytes, -⟩ := readText_ok h
  exact hbytes.skip

theorem ReadsScalar.skip {b : UInt8} {s rest : Bytes} {value : Json}
    (h : ReadsScalar b s value rest) : skipScalar b s = .ok rest := by
  have hnumber {negative : Bool} {t : Bytes} (h : readNumber negative t = .ok (value, rest)) :
      (numeral .malformed negative t).map (·.2) = .ok rest := by
    unfold readNumber at h
    split at h
    · cases h
    rename_i n t' hn
    split at h
    · obtain ⟨-, rfl⟩ := Prod.mk.inj (Except.ok.inj h)
      rw [numeral_missing hn]
      rfl
    · cases h
  cases h with
  | null h => exact h
  | boolTrue h => exact h
  | boolFalse h => exact h
  | negative h => exact hnumber h
  | number hb h =>
    rw [skipScalar, if_neg (ne_of_isDigit hb rfl), if_neg (ne_of_isDigit hb rfl),
      if_neg (ne_of_isDigit hb rfl), if_neg (ne_of_isDigit hb rfl), if_pos hb]
    exact hnumber h
  | string h => exact skipString_of_readText h

/-! ### Values -/

/-- A value from here on is passed over, whatever frames are open around it, in no more rounds than
twice its bytes. -/
def Passes (s rest : Bytes) : Prop :=
  ∃ k, k + 2 * rest.length ≤ 2 * s.length ∧
    ∀ n frames, skipFrom (n + k) .before frames s = skipFrom n (.inside true) frames rest

/-- A frame that is open is passed over to its end. Before the first value there is one more
round. -/
def PassesFrame (frame : Frame) (first : Bool) (s rest : Bytes) : Prop :=
  ∃ k, k + 2 * rest.length ≤ 2 * s.length + first.toNat ∧ ∀ n frames,
    skipFrom (n + k) (.inside !first) (frame :: frames) s = skipFrom n (.inside true) frames rest

theorem Passes.of_skipSpace {s rest : Bytes} (h : Passes (skipSpace s) rest) : Passes s rest := by
  obtain ⟨k, hk, hskip⟩ := h
  have hlen := length_skipSpace_le s
  refine ⟨k, by omega, fun n frames => ?_⟩
  rw [← hskip]
  cases hf : n + k with
  | zero => rfl
  | succ fuel => simp only [skipFrom, skipSpace_skipSpace]

theorem nextMember_ok_false {first : Bool} {s rest : Bytes}
    (h : nextMember first s = .ok (false, rest)) : skipSpace s = 0x7D :: rest := by
  unfold nextMember at h
  split at h
  · cases h
  rename_i b t hs
  split at h
  · rename_i hb
    obtain ⟨-, rfl⟩ := Prod.mk.inj (Except.ok.inj h)
    rw [hs, hb]
  · dsimp only at h
    split at h
    · cases h
    · cases h
    · split at h
      · cases (Prod.mk.inj (Except.ok.inj h)).1
      · cases h

/-- A member starts with its name's quote, after a comma unless it is the first. -/
theorem nextMember_ok_true {first : Bool} {s rest : Bytes}
    (h : nextMember first s = .ok (true, rest)) :
    (first = true ∧ skipSpace s = 0x22 :: rest) ∨
      ∃ t, first = false ∧ skipSpace s = 0x2C :: t ∧ skipSpace t = 0x22 :: rest := by
  unfold nextMember at h
  split at h
  · cases h
  rename_i b t hs
  split at h
  · cases (Prod.mk.inj (Except.ok.inj h)).1
  dsimp only at h
  split at h
  · cases h
  · cases h
  rename_i c u hstart
  split at h
  · rename_i hc
    obtain ⟨-, rfl⟩ := Prod.mk.inj (Except.ok.inj h)
    subst hc
    cases first with
    | true => exact .inl ⟨rfl, hs.trans (Except.ok.inj hstart)⟩
    | false =>
      simp only [Bool.false_eq_true, if_false] at hstart
      split at hstart
      · rename_i hb
        exact .inr ⟨t, rfl, hb ▸ hs, Except.ok.inj hstart⟩
      · cases hstart
  · cases h

theorem PassesFrame.close {frame : Frame} {first : Bool} {s rest : Bytes}
    (hs : skipSpace s = frame.close :: rest) : PassesFrame frame first s rest := by
  have hlen := length_skipSpace_le s
  rw [hs, List.length_cons] at hlen
  refine ⟨1, by omega, fun n frames => ?_⟩
  simp [skipFrom, hs]

theorem skipToValue_length_le {frame : Frame} {s u : Bytes} (h : skipToValue frame s = .ok u) :
    u.length ≤ s.length := by
  rcases skipToValue_alike frame s with ⟨_, _, herror, -⟩ | ⟨rest, hok, -, hlt⟩
  · cases h.symm.trans herror
  · obtain rfl := Except.ok.inj (h.symm.trans hok)
    exact Nat.lt_succ_iff.1 hlt

/-- The first value of a frame, and all that follows it. -/
theorem PassesFrame.first {frame : Frame} {s t u v rest : Bytes} {b : UInt8}
    (hs : skipSpace s = b :: t) (hb : b ≠ frame.close) (hto : skipToValue frame (b :: t) = .ok u)
    (hvalue : Passes u v) (h : PassesFrame frame false v rest) : PassesFrame frame true s rest := by
  have hlen := length_skipSpace_le s
  have hu := skipToValue_length_le hto
  obtain ⟨k, hk, hskip⟩ := hvalue
  obtain ⟨k', hk', hskip'⟩ := h
  rw [hs] at hlen
  rw [Bool.toNat_false] at hk'
  refine ⟨k' + k + 1, by rw [Bool.toNat_true]; omega, fun n frames => ?_⟩
  rw [← Nat.add_assoc, ← Nat.add_assoc, ← hskip' n frames, Bool.not_false, ← hskip]
  simp [skipFrom, hs, hb, hto]

/-- A further value of a frame, after its comma. -/
theorem PassesFrame.next {frame : Frame} {s t u v rest : Bytes} (hs : skipSpace s = 0x2C :: t)
    (hto : skipToValue frame t = .ok u) (hvalue : Passes u v) (h : PassesFrame frame false v rest) :
    PassesFrame frame false s rest := by
  have hlen := length_skipSpace_le s
  have hu := skipToValue_length_le hto
  have hclose : (0x2C : UInt8) ≠ frame.close := by cases frame <;> decide
  obtain ⟨k, hk, hskip⟩ := hvalue
  obtain ⟨k', hk', hskip'⟩ := h
  rw [hs, List.length_cons] at hlen
  rw [Bool.toNat_false] at hk'
  refine ⟨k' + k + 1, by rw [Bool.toNat_false]; omega, fun n frames => ?_⟩
  rw [← Nat.add_assoc, ← Nat.add_assoc, ← hskip' n frames, Bool.not_false, ← hskip]
  simp [skipFrom, hs, hclose, hto]

theorem ReadsItems.passes {item : Bytes → Read Json}
    (hitem : ∀ {s value rest}, item s = .ok (value, rest) → Passes s rest)
    {first : Bool} {s rest : Bytes} {values : List Json} (h : ReadsItems item first s values rest) :
    PassesFrame .array first s rest := by
  induction h with
  | close hs => exact .close hs
  | first hs hb hi _ ih => exact .first hs hb rfl (hitem hi) ih
  | next hs hr hb hi _ ih => exact .next hs rfl (.of_skipSpace (hr ▸ hitem hi)) ih

theorem ReadsMembers.passes {item : Bytes → Read Json}
    (hitem : ∀ {s value rest}, item s = .ok (value, rest) → Passes s rest)
    {first : Bool} {s rest : Bytes} {pairs : List (String × Json)}
    (h : ReadsMembers item first s pairs rest) : PassesFrame .object first s rest := by
  induction h with
  | close hs => exact .close (nextMember_ok_false hs)
  | @member first s s₁ s₂ s₃ s₄ rest name value pairs hs hn hc hi _ ih =>
    have hname {t : Bytes} (ht : skipSpace t = 0x22 :: s₁) : skipToValue .object t = .ok s₃ := by
      simp [skipToValue, skipName, ht, skipString_of_readText hn, hc]
    rcases nextMember_ok_true hs with ⟨rfl, hquote⟩ | ⟨t, rfl, hcomma, hquote⟩
    · exact .first hquote (by decide) (hname rfl) (hitem hi) ih
    · exact .next hcomma (hname hquote) (hitem hi) ih

theorem Passes.scalar {s t rest : Bytes} {b : UInt8} {value : Json} (hs : skipSpace s = b :: t)
    (h : ReadsScalar b t value rest) : Passes s rest := by
  have hlen := length_skipSpace_le s
  rw [hs, List.length_cons] at hlen
  have hlt : rest.length < t.length + 1 := by
    rcases skipScalar_alike b t with ⟨_, _, herror, -⟩ | ⟨rest', hok, -, hlt⟩
    · cases h.skip.symm.trans herror
    · obtain rfl := Except.ok.inj (h.skip.symm.trans hok)
      exact hlt
  have harray : b ≠ 0x5B := by
    rintro rfl
    cases h.skip
  have hobject : b ≠ 0x7B := by
    rintro rfl
    cases h.skip
  refine ⟨1, by omega, fun n frames => ?_⟩
  simp [skipFrom, hs, harray, hobject, h.skip]

/-- An opening bracket, and the frame that it opens. -/
theorem Passes.frame {frame : Frame} {s t rest : Bytes} {b : UInt8} (hs : skipSpace s = b :: t)
    (hb : b = 0x5B ∧ frame = .array ∨ b = 0x7B ∧ frame = .object)
    (h : PassesFrame frame true t rest) : Passes s rest := by
  have hlen := length_skipSpace_le s
  obtain ⟨k, hk, hskip⟩ := h
  rw [hs, List.length_cons] at hlen
  rw [Bool.toNat_true] at hk
  refine ⟨k + 1, by omega, fun n frames => ?_⟩
  rw [← Nat.add_assoc, ← hskip]
  rcases hb with ⟨rfl, rfl⟩ | ⟨rfl, rfl⟩ <;> simp [skipFrom, hs]

theorem readValue_passes {depth : Nat} {s rest : Bytes} {value : Json}
    (h : readValue depth s = .ok (value, rest)) : Passes s rest := by
  induction depth generalizing s rest value with
  | zero =>
    cases readsValue_of_ok h with
    | scalar hs hscalar => exact .scalar hs hscalar
  | succ depth ih =>
    cases readsValue_of_ok h with
    | scalar hs hscalar => exact .scalar hs hscalar
    | array hs hitems => exact .frame hs (.inl ⟨rfl, rfl⟩) (hitems.passes ih)
    | object hs hmembers => exact .frame hs (.inr ⟨rfl, rfl⟩) (hmembers.passes ih)

/-- What is read as a value is skipped to the same place. -/
theorem skip_of_readValue {depth : Nat} {s rest : Bytes} {value : Json}
    (h : readValue depth s = .ok (value, rest)) : skip s = .ok rest := by
  obtain ⟨k, hk, hskip⟩ := readValue_passes h
  obtain ⟨n, hn⟩ : ∃ n, 2 * s.length + 2 = n + 1 + k := ⟨2 * s.length + 1 - k, by omega⟩
  rw [skip, hn, hskip]
  rfl

end Json

end RequestLog
