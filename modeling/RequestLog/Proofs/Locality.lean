import RequestLog.Proofs.Skipping

/-! What is read of a text depends on the bytes that are read, not on what follows them, as long as
what follows does not go on with a number. -/

namespace RequestLog

namespace Json

def Avoids (goes : UInt8 → Bool) (x : Bytes) : Prop := ∀ b ∈ x.head?, goes b = false

def goesOn (b : UInt8) : Bool := isDigit b || b == 0x2E || b == 0x65 || b == 0x45

def AllSpace (s : Bytes) : Prop := ∀ b ∈ s, isSpace b = true

section

variable {goes goes' : UInt8 → Bool} {b : UInt8} {p s t w x rest : Bytes}

theorem Avoids.nil : Avoids goes [] := nofun

theorem avoids_cons : Avoids goes (b :: x) ↔ goes b = false := by simp [Avoids]

theorem Avoids.mono (h : Avoids goes x) (hg : ∀ b, goes' b = true → goes b = true) :
    Avoids goes' x := by
  intro b hb
  have := h b hb
  have := hg b
  cases hgoes : goes' b <;> simp_all

theorem Avoids.append (hp : Avoids goes p) (hx : Avoids goes x) : Avoids goes (p ++ x) := by
  cases p with
  | nil => exact hx
  | cons b p => exact avoids_cons.2 (avoids_cons.1 hp)

theorem AllSpace.avoids (h : AllSpace w) : Avoids goesOn w := by
  cases w with
  | nil => exact .nil
  | cons b w =>
    have hb := h b List.mem_cons_self
    rw [avoids_cons]
    unfold isSpace at hb
    unfold goesOn isDigit
    simp only [Bool.or_eq_true, beq_iff_eq] at hb
    rcases hb with ((rfl | rfl) | rfl) | rfl <;> rfl

/-! ### Space -/

theorem skipSpace_append (h : AllSpace w) (s : Bytes) : skipSpace (w ++ s) = skipSpace s :=
  List.dropWhile_append_of_pos h

theorem skipSpace_of_allSpace (h : AllSpace w) : skipSpace w = [] := by
  rw [← List.append_nil w, skipSpace_append h]
  rfl

theorem allSpace_of_skipSpace (h : skipSpace w = []) : AllSpace w :=
  List.dropWhile_eq_nil_iff.1 h

theorem skipSpace_cons_of_not (h : isSpace b = false) (s : Bytes) : skipSpace (b :: s) = b :: s :=
  List.dropWhile_cons_of_neg (by simp [h])

/-- The space before the first byte that is none. -/
theorem skipSpace_split (h : skipSpace s = b :: t) :
    ∃ w, AllSpace w ∧ s = w ++ b :: t ∧ isSpace b = false := by
  refine ⟨s.takeWhile isSpace, fun c hc => List.mem_takeWhile_imp hc, ?_, ?_⟩
  · rw [← h]
    exact List.takeWhile_append_dropWhile.symm
  · have hnot := List.head?_dropWhile_not isSpace s
    rwa [show s.dropWhile isSpace = b :: t from h] at hnot

theorem skipSpace_of_split (hw : AllSpace w) (hb : isSpace b = false) (t : Bytes) :
    skipSpace (w ++ b :: t) = b :: t := by
  rw [skipSpace_append hw, skipSpace_cons_of_not hb]

end

/-! ### Strings -/

theorem hexUnit_append {s rest : Bytes} {unit : Nat} (h : hexUnit s = .ok (unit, rest)) :
    ∃ p, s = p ++ rest ∧ ∀ x, hexUnit (p ++ x) = .ok (unit, x) := by
  obtain ⟨a, b, c, d, rfl, hunit⟩ := hexUnit_ok h
  exact ⟨[a, b, c, d], rfl, fun x => by simp [hexUnit, hunit]⟩

theorem Escape.append {s bytes rest : Bytes} (h : Escape s bytes rest) :
    ∃ p, s = p ++ rest ∧ ∀ x, Escape (p ++ x) bytes x := by
  cases h with
  | @short b c rest h => exact ⟨[b], rfl, fun x => .short h⟩
  | unit h hl hh =>
    obtain ⟨p, rfl, hp⟩ := hexUnit_append h
    exact ⟨0x75 :: p, rfl, fun x => .unit (hp x) hl hh⟩
  | pair h hh hl h' hl' =>
    obtain ⟨p, rfl, hp⟩ := hexUnit_append h
    obtain ⟨p', rfl, hp'⟩ := hexUnit_append h'
    refine ⟨0x75 :: (p ++ 0x5C :: 0x75 :: p'), by simp, fun x => ?_⟩
    have hsplit : 0x75 :: (p ++ 0x5C :: 0x75 :: p') ++ x
        = 0x75 :: (p ++ 0x5C :: 0x75 :: (p' ++ x)) := by simp
    rw [hsplit]
    exact .pair (hp _) hh hl (hp' x) hl'

theorem Escape.ok {s bytes rest : Bytes} (h : Escape s bytes rest) :
    escape s = .ok (bytes, rest) := by
  have hshort : shortEscape? 0x75 = none := by decide
  cases h with
  | short h => simp [escape, h]
  | unit h hl hh => simp [escape, hshort, unicodeEscape, h, hl, hh]
  | pair h hh hl h' hl' =>
    simp [escape, hshort, unicodeEscape, h, hl, hh, lowSurrogate, h', hl']

theorem ReadsString.append {s bytes rest : Bytes} (h : ReadsString s bytes rest) :
    ∃ p, s = p ++ rest ∧ ∀ x, ReadsString (p ++ x) bytes x := by
  induction h with
  | close rest => exact ⟨[0x22], rfl, fun x => .close x⟩
  | escaped he _ ih =>
    obtain ⟨p, rfl, hp⟩ := he.append
    obtain ⟨q, rfl, hq⟩ := ih
    refine ⟨0x5C :: (p ++ q), by simp, fun x => ?_⟩
    rw [List.cons_append, List.append_assoc]
    exact .escaped (hp _) (hq x)
  | plain hq hb hc _ ih =>
    obtain ⟨p, rfl, hp⟩ := ih
    exact ⟨_ :: p, rfl, fun x => .plain hq hb hc (hp x)⟩

theorem ReadsString.ok {s bytes rest : Bytes} (h : ReadsString s bytes rest) :
    stringBytes s = .ok (bytes, rest) := by
  induction h with
  | close rest =>
    unfold stringBytes
    rfl
  | @escaped s bytes after more rest he _ ih =>
    obtain ⟨p, rfl, -⟩ := he.append
    unfold stringBytes
    simp [he.ok, ih]
  | plain hq hb hc _ ih =>
    unfold stringBytes
    rw [if_neg hq, if_neg hb, if_neg hc, ih]

theorem readText_append {s rest : Bytes} {text : String} (h : readText s = .ok (text, rest)) :
    ∃ p, s = p ++ rest ∧ ∀ x, readText (p ++ x) = .ok (text, x) := by
  obtain ⟨bytes, hbytes, hdecode⟩ := readText_ok h
  obtain ⟨p, hp, hx⟩ := hbytes.append
  exact ⟨p, hp, fun x => by simp [readText, (hx x).ok, hdecode]⟩

/-! ### Numbers -/

/-- The bytes that can stand after the digits before the point. -/
def goesOnWhole (b : UInt8) : Bool := isDigit b || b == 0x2E

theorem digits_local {missing : Fault} {s rest : Bytes} {ds : List Nat}
    (h : digits missing s = .ok (ds, rest)) :
    ∃ b p, isDigit b = true ∧ s = b :: p ++ rest ∧
      ∀ x, Avoids isDigit x → digits missing (b :: p ++ x) = .ok (ds, x) := by
  unfold digits at h
  split at h
  · cases h
  rename_i hne
  obtain ⟨b, p, hdigits⟩ := List.exists_cons_of_ne_nil hne
  rw [hdigits] at h
  obtain ⟨rfl, rfl⟩ := Prod.mk.inj (Except.ok.inj h)
  have hall (c : UInt8) (hc : c ∈ b :: p) : isDigit c = true :=
    List.mem_takeWhile_imp (hdigits.symm ▸ hc)
  refine ⟨b, p, hall b List.mem_cons_self, ?_, fun x hx => ?_⟩
  · rw [← hdigits]
    exact List.takeWhile_append_dropWhile.symm
  · have htake : (b :: p ++ x).takeWhile isDigit = b :: p := by
      rw [List.takeWhile_append_of_pos hall]
      cases x with
      | nil => simp
      | cons c x => simp [avoids_cons.1 hx]
    have hdrop : (b :: p ++ x).dropWhile isDigit = x := by
      rw [List.dropWhile_append_of_pos hall]
      cases x with
      | nil => rfl
      | cons c x => exact List.dropWhile_cons_of_neg (by simp [avoids_cons.1 hx])
    simp only [digits, htake, hdrop]

theorem wholeDigits_local {missing : Fault} {s rest : Bytes} {ds : List Nat}
    (h : wholeDigits missing s = .ok (ds, rest)) :
    ∃ b p, s = b :: p ++ rest ∧
      ∀ x, Avoids isDigit x → wholeDigits missing (b :: p ++ x) = .ok (ds, x) := by
  unfold wholeDigits at h
  split at h
  · cases h
  rename_i ds' t hds
  split at h
  · cases h
  rename_i hzero
  obtain ⟨rfl, rfl⟩ := Prod.mk.inj (Except.ok.inj h)
  obtain ⟨b, p, -, hs, hp⟩ := digits_local hds
  exact ⟨b, p, hs, fun x hx => by simp only [wholeDigits, hp x hx, if_neg hzero]⟩

/-- A fraction is absent or starts with its point. -/
theorem fractionDigits_local {missing : Fault} {s rest : Bytes} {ds : Option (List Nat)}
    (h : fractionDigits missing s = .ok (ds, rest)) :
    ∃ p, s = p ++ rest ∧ Avoids isDigit p ∧
      ∀ x, Avoids goesOnWhole x → fractionDigits missing (p ++ x) = .ok (ds, x) := by
  have hnone (x : Bytes) (hx : Avoids goesOnWhole x) :
      fractionDigits missing x = .ok (none, x) := by
    cases x with
    | nil => rfl
    | cons c x =>
      have hc : c ≠ 0x2E := by
        rintro rfl
        cases avoids_cons.1 hx
      simp [fractionDigits, hc]
  unfold fractionDigits at h
  split at h
  · obtain ⟨rfl, rfl⟩ := Prod.mk.inj (Except.ok.inj h)
    exact ⟨[], rfl, .nil, hnone⟩
  rename_i b t
  split at h
  · rename_i hb
    subst hb
    split at h
    · cases h
    rename_i ds' u hds
    obtain ⟨rfl, rfl⟩ := Prod.mk.inj (Except.ok.inj h)
    obtain ⟨c, p, -, rfl, hp⟩ := digits_local hds
    refine ⟨0x2E :: c :: p, rfl, avoids_cons.2 rfl, fun x hx => ?_⟩
    have hdigits := hp x (hx.mono fun b hb => by simp [goesOnWhole, hb])
    rw [List.cons_append] at hdigits
    simp [fractionDigits, hdigits]
  · obtain ⟨rfl, rfl⟩ := Prod.mk.inj (Except.ok.inj h)
    exact ⟨[], rfl, .nil, hnone⟩

theorem exponentSign_local {s t : Bytes} {b : UInt8} {negative : Bool} (hb : isDigit b = true)
    (h : exponentSign s = (negative, b :: t)) :
    ∃ p, s = p ++ b :: t ∧ ∀ x, exponentSign (p ++ b :: x) = (negative, b :: x) := by
  have hminus : b ≠ 0x2D := by
    rintro rfl
    cases hb
  have hplus : b ≠ 0x2B := by
    rintro rfl
    cases hb
  unfold exponentSign at h
  split at h
  · cases h
  rename_i c u
  split at h
  · rename_i hc
    obtain ⟨rfl, rfl⟩ := Prod.mk.inj h
    exact ⟨[c], rfl, fun x => by simp [exponentSign, hc]⟩
  rename_i hcm
  split at h
  · rename_i hc
    obtain ⟨rfl, rfl⟩ := Prod.mk.inj h
    exact ⟨[c], rfl, fun x => by simp [exponentSign, hc]⟩
  · obtain ⟨rfl, hcons⟩ := Prod.mk.inj h
    obtain ⟨rfl, rfl⟩ := List.cons.inj hcons
    exact ⟨[], rfl, fun x => by simp [exponentSign, hminus, hplus]⟩

/-- An exponent is absent or starts with its letter. -/
theorem exponentPart_local {missing : Fault} {s rest : Bytes} {e : Option Int}
    (h : exponentPart missing s = .ok (e, rest)) :
    ∃ p, s = p ++ rest ∧ Avoids goesOnWhole p ∧
      ∀ x, Avoids goesOn x → exponentPart missing (p ++ x) = .ok (e, x) := by
  have hnone (x : Bytes) (hx : Avoids goesOn x) : exponentPart missing x = .ok (none, x) := by
    cases x with
    | nil => rfl
    | cons c x =>
      have hc : ¬ (c = 0x65 ∨ c = 0x45) := by
        rintro (rfl | rfl) <;> cases avoids_cons.1 hx
      simp only [exponentPart, if_neg hc]
  unfold exponentPart at h
  split at h
  · obtain ⟨rfl, rfl⟩ := Prod.mk.inj (Except.ok.inj h)
    exact ⟨[], rfl, .nil, hnone⟩
  rename_i b t
  split at h
  · rename_i hb
    rcases hsign : exponentSign t with ⟨negative, v⟩
    simp only [hsign] at h
    split at h
    · cases h
    rename_i ds u hds
    obtain ⟨rfl, rfl⟩ := Prod.mk.inj (Except.ok.inj h)
    obtain ⟨c, p, hc, rfl, hp⟩ := digits_local hds
    obtain ⟨q, rfl, hq⟩ := exponentSign_local hc hsign
    refine ⟨b :: (q ++ c :: p), by simp, ?_, fun x hx => ?_⟩
    · rcases hb with rfl | rfl <;> exact avoids_cons.2 rfl
    · have hdigits := hp x (hx.mono fun b hb => by simp [goesOn, hb])
      rw [List.cons_append] at hdigits
      rw [List.cons_append, List.append_assoc, List.cons_append]
      simp only [exponentPart, if_pos hb, hq, hdigits]
  · obtain ⟨rfl, rfl⟩ := Prod.mk.inj (Except.ok.inj h)
    exact ⟨[], rfl, .nil, hnone⟩

theorem numeral_local {missing : Fault} {negative : Bool} {s rest : Bytes} {n : Numeral}
    (h : numeral missing negative s = .ok (n, rest)) :
    ∃ b p, s = b :: p ++ rest ∧
      ∀ x, Avoids goesOn x → numeral missing negative (b :: p ++ x) = .ok (n, x) := by
  unfold numeral at h
  split at h
  · cases h
  rename_i whole s₁ hwhole
  split at h
  · cases h
  rename_i fraction s₂ hfraction
  split at h
  · cases h
  rename_i exponent s₃ hexponent
  obtain ⟨rfl, rfl⟩ := Prod.mk.inj (Except.ok.inj h)
  obtain ⟨b, p, rfl, hp⟩ := wholeDigits_local hwhole
  obtain ⟨q, rfl, hqd, hq⟩ := fractionDigits_local hfraction
  obtain ⟨r, rfl, hrd, hr⟩ := exponentPart_local hexponent
  refine ⟨b, p ++ q ++ r, by simp, fun x hx => ?_⟩
  have hx' : Avoids goesOnWhole x := hx.mono fun b hb => by
    simp only [goesOnWhole, Bool.or_eq_true] at hb
    rcases hb with hb | hb <;> simp [goesOn, hb]
  have hrx : Avoids goesOnWhole (r ++ x) := hrd.append hx'
  have hqrx : Avoids isDigit (q ++ (r ++ x)) :=
    hqd.append (hrx.mono fun b hb => by simp [goesOnWhole, hb])
  have hsplit : b :: (p ++ q ++ r) ++ x = b :: p ++ (q ++ (r ++ x)) := by simp
  simp only [numeral, hsplit, hp _ hqrx, hq _ hrx, hr x hx]

theorem readNumber_local {negative : Bool} {s rest : Bytes} {value : Json}
    (h : readNumber negative s = .ok (value, rest)) :
    ∃ b p, s = b :: p ++ rest ∧
      ∀ x, Avoids goesOn x → readNumber negative (b :: p ++ x) = .ok (value, x) := by
  unfold readNumber at h
  split at h
  · cases h
  rename_i n t hn
  split at h
  · rename_i number hvalue
    obtain ⟨rfl, rfl⟩ := Prod.mk.inj (Except.ok.inj h)
    obtain ⟨b, p, hs, hp⟩ := numeral_local hn
    exact ⟨b, p, hs, fun x hx => by simp only [readNumber, hp x hx, hvalue]⟩
  · cases h

/-! ### Scalars -/

theorem word_append {ws s rest : Bytes} (h : word ws s = .ok rest) :
    s = ws ++ rest ∧ ∀ x, word ws (ws ++ x) = .ok x := by
  induction ws generalizing s with
  | nil =>
    obtain rfl := Except.ok.inj h
    exact ⟨rfl, fun x => rfl⟩
  | cons w ws ih =>
    cases s with
    | nil => cases h
    | cons b s =>
      simp only [word] at h
      split at h
      · rename_i hb
        obtain ⟨rfl, hx⟩ := ih h
        exact ⟨by rw [hb]; rfl, fun x => by simp [word, hx x]⟩
      · cases h

theorem ReadsScalar.local {b : UInt8} {s rest : Bytes} {value : Json}
    (h : ReadsScalar b s value rest) :
    ∃ p, s = p ++ rest ∧ ∀ x, Avoids goesOn x → ReadsScalar b (p ++ x) value x := by
  cases h with
  | null h =>
    obtain ⟨rfl, hx⟩ := word_append h
    exact ⟨_, rfl, fun x _ => .null (hx x)⟩
  | boolTrue h =>
    obtain ⟨rfl, hx⟩ := word_append h
    exact ⟨_, rfl, fun x _ => .boolTrue (hx x)⟩
  | boolFalse h =>
    obtain ⟨rfl, hx⟩ := word_append h
    exact ⟨_, rfl, fun x _ => .boolFalse (hx x)⟩
  | negative h =>
    obtain ⟨c, p, hs, hp⟩ := readNumber_local h
    exact ⟨c :: p, hs, fun x hx => .negative (hp x hx)⟩
  | number hb h =>
    obtain ⟨c, p, hs, hp⟩ := readNumber_local h
    obtain ⟨rfl, rfl⟩ := List.cons.inj hs
    exact ⟨p, rfl, fun x hx => .number hb (hp x hx)⟩
  | string h =>
    obtain ⟨p, hs, hp⟩ := readText_append h
    exact ⟨p, hs, fun x _ => .string (hp x)⟩

theorem ReadsScalar.ok {depth : Nat} {b : UInt8} {s t rest : Bytes} {value : Json}
    (hs : skipSpace s = b :: t) (h : ReadsScalar b t value rest) :
    readValue depth s = .ok (value, rest) := by
  unfold readValue
  rw [hs]
  cases h with
  | null h => simp [h, Except.map]
  | boolTrue h => simp [h, Except.map]
  | boolFalse h => simp [h, Except.map]
  | negative h => exact h
  | number hb h =>
    dsimp only
    rw [if_neg (ne_of_isDigit hb rfl), if_neg (ne_of_isDigit hb rfl),
      if_neg (ne_of_isDigit hb rfl), if_neg (ne_of_isDigit hb rfl), if_pos hb]
    exact h
  | string h =>
    have hdigit : isDigit 0x22 = false := rfl
    simp [h, Except.map, hdigit]

/-! ### Values -/

/-- A reader of values that takes at least one byte and looks at nothing beyond. -/
def IsLocal (item : Bytes → Read Json) : Prop :=
  ∀ {s value rest}, item s = .ok (value, rest) →
    ∃ p, p ≠ [] ∧ s = p ++ rest ∧ ∀ x, Avoids goesOn x → item (p ++ x) = .ok (value, x)

section

variable {item : Bytes → Read Json} {first : Bool} {s rest : Bytes}

/-- The items are fewer than the bytes, and once one was read the text goes on with a comma or with
the bracket. -/
theorem ReadsItems.append (hitem : IsLocal item) {values : List Json}
    (h : ReadsItems item first s values rest) :
    ∃ p, s = p ++ rest ∧ values.length < p.length ∧ (first = false → Avoids goesOn p) ∧
      ∀ x, ReadsItems item first (p ++ x) values x := by
  -- an item, and the text that follows it
  have hnext {b : UInt8} {t t' q rest : Bytes} {value : Json} (hi : item (b :: t) = .ok (value, t'))
      (ht : t' = q ++ rest) (hq : Avoids goesOn q) (hlen : 0 < q.length) :
      ∃ p, t = p ++ q ++ rest ∧
        ∀ x, item (b :: (p ++ q ++ x)) = .ok (value, q ++ x) := by
    obtain ⟨p, hne, hp, hx⟩ := hitem hi
    obtain ⟨c, p, rfl⟩ := List.exists_cons_of_ne_nil hne
    rw [List.cons_append] at hp
    obtain ⟨rfl, rfl⟩ := List.cons.inj hp
    refine ⟨p, by rw [ht, List.append_assoc], fun x => ?_⟩
    have hqx : Avoids goesOn (q ++ x) := by
      obtain ⟨d, q, rfl⟩ := List.exists_cons_of_ne_nil (List.length_pos_iff.1 hlen)
      exact avoids_cons.2 (avoids_cons.1 hq)
    rw [List.append_assoc]
    exact hx _ hqx
  induction h with
  | close hs =>
    obtain ⟨w, hw, rfl, -⟩ := skipSpace_split hs
    refine ⟨w ++ [0x5D], by simp, by simp, fun _ => hw.avoids.append (avoids_cons.2 rfl),
      fun x => ?_⟩
    rw [List.append_assoc]
    exact .close (skipSpace_of_split hw rfl x)
  | @first s t t' rest b value values hs hb hi _ ih =>
    obtain ⟨w, hw, rfl, hsp⟩ := skipSpace_split hs
    obtain ⟨q, hq, hlen, hav, hqx⟩ := ih
    obtain ⟨p, rfl, hx⟩ := hnext hi hq (hav rfl) (by omega)
    refine ⟨w ++ b :: (p ++ q), by simp, ?_, nofun, fun x => ?_⟩
    · simp only [List.length_cons, List.length_append]
      omega
    · rw [List.append_assoc, List.cons_append]
      exact .first (skipSpace_of_split hw hsp _) hb (hx x) (hqx x)
  | @next s r t t' rest b value values hs hr hb hi _ ih =>
    obtain ⟨w, hw, rfl, -⟩ := skipSpace_split hs
    obtain ⟨w', hw', rfl, hsp⟩ := skipSpace_split hr
    obtain ⟨q, hq, hlen, hav, hqx⟩ := ih
    obtain ⟨p, rfl, hx⟩ := hnext hi hq (hav rfl) (by omega)
    refine ⟨w ++ 0x2C :: (w' ++ b :: (p ++ q)), by simp, ?_,
      fun _ => hw.avoids.append (avoids_cons.2 rfl), fun x => ?_⟩
    · simp only [List.length_cons, List.length_append]
      omega
    · rw [List.append_assoc, List.cons_append, List.append_assoc, List.cons_append]
      exact .next (skipSpace_of_split hw rfl _) (skipSpace_of_split hw' hsp _) hb (hx x) (hqx x)

/-! ### Members -/

/-- One member: its name after a quote up to the closing one, a colon and its value, with space
around them. -/
inductive MemberText (item : Bytes → Read Json) : String × Json → Bytes → Prop where
  | intro {before label between value : Bytes} {name : String} {json : Json}
      (hb : AllSpace before) (hl : readText label = .ok (name, [])) (hs : AllSpace between)
      (hv : finish (item value) = .ok json) :
    MemberText item (name, json) (before ++ 0x22 :: label ++ (between ++ 0x3A :: value))

inductive MembersText (item : Bytes → Read Json) : List (String × Json) → Bytes → Prop where
  | none {space : Bytes} (h : AllSpace space) : MembersText item [] space
  | some {pair : String × Json} {text : Bytes} {pairs : List (String × Json)} {texts : List Bytes}
      (hp : MemberText item pair text) (h : List.Forall₂ (MemberText item) pairs texts) :
    MembersText item (pair :: pairs) (text ++ texts.flatMap (0x2C :: ·))

theorem finish_ok {α : Type} {read : Read α} {a : α} :
    finish read = .ok a ↔ ∃ rest, read = .ok (a, rest) ∧ AllSpace rest := by
  cases read with
  | error fault => simp [finish]
  | ok read =>
    obtain ⟨b, rest⟩ := read
    simp only [finish]
    split
    · rename_i hempty
      have hrest := allSpace_of_skipSpace (List.isEmpty_iff.1 hempty)
      constructor
      · rintro h
        obtain rfl := Except.ok.inj h
        exact ⟨rest, rfl, hrest⟩
      · rintro ⟨_, h, -⟩
        exact congrArg Except.ok (Prod.mk.inj (Except.ok.inj h)).1
    · rename_i hempty
      refine iff_of_false nofun ?_
      rintro ⟨_, h, hspace⟩
      obtain ⟨rfl, rfl⟩ := Prod.mk.inj (Except.ok.inj h)
      exact hempty (List.isEmpty_iff.2 (skipSpace_of_allSpace hspace))

theorem colon_split {t : Bytes} (h : colon s = .ok t) :
    ∃ w, AllSpace w ∧ s = w ++ 0x3A :: t := by
  unfold colon at h
  split at h
  · cases h
  rename_i b u hs
  split at h
  · rename_i hb
    obtain rfl := Except.ok.inj h
    obtain ⟨w, hw, rfl, -⟩ := skipSpace_split hs
    exact ⟨w, hw, by rw [hb]⟩
  · cases h

theorem colon_of_split {w : Bytes} (hw : AllSpace w) (t : Bytes) :
    colon (w ++ 0x3A :: t) = .ok t := by
  simp [colon, skipSpace_of_split hw (b := 0x3A) rfl t]

/-- A text that is read as members is made of them. -/
theorem ReadsMembers.text (hitem : IsLocal item) {pairs : List (String × Json)}
    (h : ReadsMembers item first s pairs rest) :
    if first then ∃ body, MembersText item pairs body ∧ s = body ++ 0x7D :: rest
    else ∃ space texts, AllSpace space ∧ List.Forall₂ (MemberText item) pairs texts ∧
      s = space ++ (texts.flatMap (0x2C :: ·) ++ 0x7D :: rest) := by
  induction h with
  | @close first s rest hs =>
    obtain ⟨w, hw, rfl, -⟩ := skipSpace_split (nextMember_ok_false hs)
    cases first with
    | true => exact ⟨w, .none hw, rfl⟩
    | false => exact ⟨w, [], hw, .nil, rfl⟩
  | @member first s s₁ s₂ s₃ s₄ rest name value pairs hs hn hc hi _ ih =>
    obtain ⟨space, texts, hspace, htexts, rfl⟩ := ih
    obtain ⟨label, rfl, hlabel⟩ := readText_append hn
    obtain ⟨between, hbetween, rfl⟩ := colon_split hc
    obtain ⟨p, -, rfl, hp⟩ := hitem hi
    have hlabel' : readText label = .ok (name, []) := by
      have := hlabel []
      rwa [List.append_nil] at this
    have hvalue : finish (item (p ++ space)) = .ok value :=
      finish_ok.2 ⟨space, hp space hspace.avoids, hspace⟩
    have htext {before : Bytes} (hb : AllSpace before) :=
      MemberText.intro hb hlabel' hbetween hvalue
    rcases nextMember_ok_true hs with ⟨rfl, hquote⟩ | ⟨t, rfl, hcomma, hquote⟩
    · obtain ⟨before, hb, rfl, -⟩ := skipSpace_split hquote
      exact ⟨_, .some (htext hb) htexts, by simp⟩
    · obtain ⟨w, hw, rfl, -⟩ := skipSpace_split hcomma
      obtain ⟨before, hb, rfl, -⟩ := skipSpace_split hquote
      exact ⟨w, _ :: texts, hw, .cons (htext hb) htexts, by simp⟩

theorem nextMember_close {t : Bytes} (first : Bool) (hs : skipSpace s = 0x7D :: t) :
    nextMember first s = .ok (false, t) := by
  simp [nextMember, hs]

theorem nextMember_first {t : Bytes} (hs : skipSpace s = 0x22 :: t) :
    nextMember true s = .ok (true, t) := by
  simp [nextMember, hs]

theorem nextMember_next {t u : Bytes} (hs : skipSpace s = 0x2C :: t)
    (ht : skipSpace t = 0x22 :: u) :
    nextMember false s = .ok (true, u) := by
  simp [nextMember, hs, ht]

/-- What is read of a member's text after its quote, whatever follows that does not go on. -/
theorem MemberText.reads (hitem : IsLocal item) {pair : String × Json} {text : Bytes}
    (h : MemberText item pair text) :
    ∃ before u after, AllSpace before ∧ AllSpace after ∧ text = before ++ 0x22 :: u ∧
      ∀ {first s y rest pairs}, Avoids goesOn y → nextMember first s = .ok (true, u ++ y) →
        ReadsMembers item false (after ++ y) pairs rest →
        ReadsMembers item first s (pair :: pairs) rest := by
  obtain ⟨hb, hl, hs, hv⟩ := h
  rename_i before label between value name json
  obtain ⟨after, hvalue, hafter⟩ := finish_ok.1 hv
  obtain ⟨p, -, rfl, hp⟩ := hitem hvalue
  obtain ⟨q, hq, hlabel⟩ := readText_append hl
  rw [List.append_nil] at hq
  subst hq
  refine ⟨before, label ++ (between ++ 0x3A :: (p ++ after)), after, hb, hafter, by simp, ?_⟩
  intro first s y rest pairs hy hnext hrest
  have hsplit : label ++ (between ++ 0x3A :: (p ++ after)) ++ y
      = label ++ (between ++ 0x3A :: (p ++ (after ++ y))) := by simp
  rw [hsplit] at hnext
  exact .member hnext (hlabel _) (colon_of_split hs _) (hp _ (hafter.avoids.append hy)) hrest

theorem avoids_closing (texts : List Bytes) (x : Bytes) :
    Avoids goesOn (texts.flatMap (0x2C :: ·) ++ 0x7D :: x) := by
  cases texts with
  | nil => exact avoids_cons.2 rfl
  | cons text texts => exact avoids_cons.2 rfl

theorem readsMembers_of_texts (hitem : IsLocal item) {pairs : List (String × Json)}
    {texts : List Bytes} (h : List.Forall₂ (MemberText item) pairs texts) {space : Bytes}
    (hspace : AllSpace space) (x : Bytes) :
    ReadsMembers item false (space ++ (texts.flatMap (0x2C :: ·) ++ 0x7D :: x)) pairs x := by
  induction h generalizing space with
  | nil => exact .close (nextMember_close false (skipSpace_of_split hspace rfl x))
  | @cons pair text pairs texts hp _ ih =>
    obtain ⟨before, u, after, hb, ha, rfl, hreads⟩ := hp.reads hitem
    refine hreads (avoids_closing texts x) ?_ (ih ha)
    have hsplit : space ++ (((before ++ 0x22 :: u) :: texts).flatMap (0x2C :: ·) ++ 0x7D :: x)
        = space ++ 0x2C :: (before ++ 0x22 :: (u ++ (texts.flatMap (0x2C :: ·) ++ 0x7D :: x))) := by
      simp
    rw [hsplit]
    exact nextMember_next (skipSpace_of_split hspace rfl _) (skipSpace_of_split hb rfl _)

theorem MembersText.reads (hitem : IsLocal item) {pairs : List (String × Json)} {body : Bytes}
    (h : MembersText item pairs body) (x : Bytes) :
    ReadsMembers item true (body ++ 0x7D :: x) pairs x := by
  cases h with
  | none h => exact .close (nextMember_close true (skipSpace_of_split h rfl x))
  | @some pair text pairs texts hp h =>
    obtain ⟨before, u, after, hb, ha, rfl, hreads⟩ := hp.reads hitem
    refine hreads (avoids_closing texts x) ?_ (readsMembers_of_texts hitem h ha x)
    have hsplit : before ++ 0x22 :: u ++ texts.flatMap (0x2C :: ·) ++ 0x7D :: x
        = before ++ 0x22 :: (u ++ (texts.flatMap (0x2C :: ·) ++ 0x7D :: x)) := by simp
    rw [hsplit]
    exact nextMember_first (skipSpace_of_split hb rfl _)

theorem MembersText.length_le {pairs : List (String × Json)} {body : Bytes}
    (h : MembersText item pairs body) : pairs.length ≤ body.length := by
  have hflat (texts : List Bytes) : texts.length ≤ (texts.flatMap (0x2C :: ·)).length := by
    induction texts with
    | nil => simp
    | cons text texts ih =>
      simp only [List.flatMap_cons, List.length_append, List.length_cons]
      omega
  cases h with
  | none => simp
  | @some pair text pairs texts hp h =>
    have htext : 0 < text.length := by
      cases hp
      simp only [List.length_append, List.length_cons]
      omega
    have := hflat texts
    rw [List.length_append, List.length_cons, h.length_eq]
    omega

end

/-! ### Values -/

theorem readValue_array {depth : Nat} {s t rest : Bytes} {values : List Json}
    (hs : skipSpace s = 0x5B :: t) (h : ReadsItems (readValue depth) true t values rest)
    (hlen : values.length ≤ t.length) : readValue (depth + 1) s = .ok (.array values, rest) := by
  have hitems := h.ok (Nat.lt_succ_of_le hlen)
  have hdigit : isDigit 0x5B = false := rfl
  simp [readValue, hs, hdigit, hitems, Except.map]

theorem readValue_object {depth : Nat} {s t rest : Bytes} {pairs : List (String × Json)}
    (hs : skipSpace s = 0x7B :: t) (h : ReadsMembers (readValue depth) true t pairs rest)
    (hlen : pairs.length ≤ t.length) :
    readValue (depth + 1) s = .ok (.object (Members.ofPairs pairs), rest) := by
  have hmembers := h.ok (Nat.lt_succ_of_le hlen)
  have hdigit : isDigit 0x7B = false := rfl
  simp [readValue, hs, hdigit, hmembers, Except.map]

theorem readValue_local (depth : Nat) : IsLocal (readValue depth) := by
  have hscalar {depth : Nat} {s t rest : Bytes} {b : UInt8} {value : Json}
      (hs : skipSpace s = b :: t) (h : ReadsScalar b t value rest) :
      ∃ p, p ≠ [] ∧ s = p ++ rest ∧
        ∀ x, Avoids goesOn x → readValue depth (p ++ x) = .ok (value, x) := by
    obtain ⟨w, hw, rfl, hsp⟩ := skipSpace_split hs
    obtain ⟨p, rfl, hp⟩ := h.local
    refine ⟨w ++ b :: p, by simp, by simp, fun x hx => ?_⟩
    rw [List.append_assoc, List.cons_append]
    exact (hp x hx).ok (skipSpace_of_split hw hsp _)
  induction depth with
  | zero =>
    intro s value rest h
    cases readsValue_of_ok h with
    | scalar hs hr => exact hscalar hs hr
  | succ depth ih =>
    intro s value rest h
    cases readsValue_of_ok h with
    | scalar hs hr => exact hscalar hs hr
    | array hs hr =>
      obtain ⟨w, hw, rfl, -⟩ := skipSpace_split hs
      obtain ⟨p, rfl, hlen, -, hp⟩ := hr.append ih
      refine ⟨w ++ 0x5B :: p, by simp, by simp, fun x _ => ?_⟩
      rw [List.append_assoc, List.cons_append]
      exact readValue_array (skipSpace_of_split hw rfl _) (hp x) (by rw [List.length_append]; omega)
    | object hs hr =>
      obtain ⟨w, hw, rfl, -⟩ := skipSpace_split hs
      obtain ⟨body, hbody, rfl⟩ := hr.text ih
      have hlen := hbody.length_le
      refine ⟨w ++ 0x7B :: (body ++ [0x7D]), by simp, by simp, fun x _ => ?_⟩
      have hsplit : w ++ 0x7B :: (body ++ [0x7D]) ++ x = w ++ 0x7B :: (body ++ 0x7D :: x) := by simp
      rw [hsplit]
      exact readValue_object (skipSpace_of_split hw rfl _) (hbody.reads ih x)
        (by rw [List.length_append]; omega)

end Json

end RequestLog
