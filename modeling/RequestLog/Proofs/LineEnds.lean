import RequestLog.Pipeline.Source

/-! The end of a line does not matter to its reading. A text and the same text with a newline after
it are read alike by every reader: both fail, or both give the same and leave rests that differ by
that newline. -/

namespace RequestLog

namespace Json

def ended (s : Bytes) : Bytes := s ++ [Source.newline]

@[simp] theorem ended_nil : ended [] = [Source.newline] := rfl

@[simp] theorem ended_cons (b : UInt8) (s : Bytes) : ended (b :: s) = b :: ended s := rfl

@[simp] theorem length_ended (s : Bytes) : (ended s).length = s.length + 1 := by simp [ended]

/-! ### Being read alike -/

section

variable {α β ε : Type} {n m : Nat}

/-- Two readings that fail, or that give the same and leave rests below `n` bytes. -/
def Alike (n : Nat) (x x' : Except ε (α × Bytes)) : Prop :=
  (∃ f f', x = .error f ∧ x' = .error f') ∨
    ∃ a rest, x = .ok (a, rest) ∧ x' = .ok (a, ended rest) ∧ rest.length < n

/-- The same of readings that give nothing but the rest. -/
def AlikeRest (n : Nat) (x x' : Except ε Bytes) : Prop :=
  (∃ f f', x = .error f ∧ x' = .error f') ∨
    ∃ rest, x = .ok rest ∧ x' = .ok (ended rest) ∧ rest.length < n

theorem Alike.error (f f' : ε) : Alike n (.error f : Except ε (α × Bytes)) (.error f') :=
  .inl ⟨f, f', rfl, rfl⟩

theorem Alike.ok {rest : Bytes} (h : rest.length < n) (a : α) :
    Alike n (.ok (a, rest) : Except ε (α × Bytes)) (.ok (a, ended rest)) :=
  .inr ⟨a, rest, rfl, rfl, h⟩

theorem AlikeRest.error (f f' : ε) : AlikeRest n (.error f : Except ε Bytes) (.error f') :=
  .inl ⟨f, f', rfl, rfl⟩

theorem AlikeRest.ok {rest : Bytes} (h : rest.length < n) :
    AlikeRest n (.ok rest : Except ε Bytes) (.ok (ended rest)) :=
  .inr ⟨rest, rfl, rfl, h⟩

/-- What follows a reading: if the texts cannot be read, nothing is known of either. -/
@[elab_as_elim]
theorem Alike.next {x x' : Except ε (α × Bytes)}
    {motive : Except ε (α × Bytes) → Except ε (α × Bytes) → Prop} (h : Alike n x x')
    (error : ∀ f f', motive (.error f) (.error f'))
    (ok : ∀ a rest, rest.length < n → motive (.ok (a, rest)) (.ok (a, ended rest))) :
    motive x x' := by
  rcases h with ⟨f, f', rfl, rfl⟩ | ⟨a, rest, rfl, rfl, hlt⟩
  · exact error f f'
  · exact ok a rest hlt

@[elab_as_elim]
theorem AlikeRest.next {x x' : Except ε Bytes} {motive : Except ε Bytes → Except ε Bytes → Prop}
    (h : AlikeRest n x x') (error : ∀ f f', motive (.error f) (.error f'))
    (ok : ∀ rest, rest.length < n → motive (.ok rest) (.ok (ended rest))) : motive x x' := by
  rcases h with ⟨f, f', rfl, rfl⟩ | ⟨rest, rfl, rfl, hlt⟩
  · exact error f f'
  · exact ok rest hlt

theorem Alike.mono {x x' : Except ε (α × Bytes)} (h : Alike n x x') (hn : n ≤ m) :
    Alike m x x' := by
  rcases h with ⟨f, f', rfl, rfl⟩ | ⟨a, rest, rfl, rfl, hlt⟩
  · exact .error f f'
  · exact .ok (Nat.lt_of_lt_of_le hlt hn) a

theorem AlikeRest.mono {x x' : Except ε Bytes} (h : AlikeRest n x x') (hn : n ≤ m) :
    AlikeRest m x x' := by
  rcases h with ⟨f, f', rfl, rfl⟩ | ⟨rest, rfl, rfl, hlt⟩
  · exact .error f f'
  · exact .ok (Nat.lt_of_lt_of_le hlt hn)

theorem Alike.map {x x' : Except ε (α × Bytes)} (h : Alike n x x') (g : α → β) :
    Alike n (x.map fun (a, s) => (g a, s)) (x'.map fun (a, s) => (g a, s)) := by
  rcases h with ⟨f, f', rfl, rfl⟩ | ⟨a, rest, rfl, rfl, hlt⟩
  · exact .error f f'
  · exact .ok hlt (g a)

theorem Alike.rest {x x' : Except ε (α × Bytes)} (h : Alike n x x') :
    AlikeRest n (x.map (·.2)) (x'.map (·.2)) := by
  rcases h with ⟨f, f', rfl, rfl⟩ | ⟨a, rest, rfl, rfl, hlt⟩
  · exact .error f f'
  · exact .ok hlt

theorem AlikeRest.giving {x x' : Except ε Bytes} (h : AlikeRest n x x') (a : α) :
    Alike n (x.map (a, ·)) (x'.map (a, ·)) := by
  rcases h with ⟨f, f', rfl, rfl⟩ | ⟨rest, rfl, rfl, hlt⟩
  · exact .error f f'
  · exact .ok hlt a

end

/-! ### Space and words -/

/-- After the space there is nothing in either text, or the same byte first. -/
theorem dropWhile_ended {space : UInt8 → Bool} (hspace : space Source.newline = true) (s : Bytes) :
    (s.dropWhile space = [] ∧ (ended s).dropWhile space = []) ∨
      ∃ b rest, s.dropWhile space = b :: rest ∧ (ended s).dropWhile space = b :: ended rest ∧
        rest.length < s.length := by
  induction s with
  | nil => exact .inl ⟨rfl, List.dropWhile_cons_of_pos hspace⟩
  | cons b s ih =>
    by_cases hb : space b = true
    · rw [ended_cons, List.dropWhile_cons_of_pos hb, List.dropWhile_cons_of_pos hb]
      rcases ih with h | ⟨c, rest, h, h', hlt⟩
      · exact .inl h
      · exact .inr ⟨c, rest, h, h', Nat.lt_succ_of_lt hlt⟩
    · rw [ended_cons, List.dropWhile_cons_of_neg hb, List.dropWhile_cons_of_neg hb]
      exact .inr ⟨b, s, rfl, rfl, Nat.lt_succ_self _⟩

theorem skipSpace_ended (s : Bytes) :
    (skipSpace s = [] ∧ skipSpace (ended s) = []) ∨
      ∃ b rest, skipSpace s = b :: rest ∧ skipSpace (ended s) = b :: ended rest ∧
        rest.length < s.length :=
  dropWhile_ended rfl s

theorem word_alike {ws : Bytes} (hws : Source.newline ∉ ws) (s : Bytes) :
    AlikeRest (s.length + 1) (word ws s) (word ws (ended s)) := by
  induction ws generalizing s with
  | nil => exact .ok (Nat.lt_succ_self _)
  | cons w ws ih =>
    obtain ⟨hw, hrest⟩ : Source.newline ≠ w ∧ Source.newline ∉ ws := by simpa using hws
    cases s with
    | nil =>
      rw [ended_nil, word, word, if_neg hw]
      exact .error _ _
    | cons b s =>
      rw [ended_cons, word, word]
      split
      · exact (ih hrest s).mono (Nat.le_succ _)
      · exact .error _ _

/-! ### Strings -/

theorem hexUnit?_newline (a b c : UInt8) : hexUnit? a b c Source.newline = none := by
  have h : hexValue? Source.newline = none := by decide
  simp [hexUnit?, h]

theorem hexUnit_alike (s : Bytes) : Alike s.length (hexUnit s) (hexUnit (ended s)) := by
  match s with
  | [] => exact .error _ _
  | [_] => exact .error _ _
  | [_, _] => exact .error _ _
  | [a, b, c] =>
    simp only [ended_cons, ended_nil, hexUnit, hexUnit?_newline]
    exact .error _ _
  | a :: b :: c :: d :: s =>
    simp only [ended_cons, hexUnit]
    split
    · exact .ok (by simp only [List.length_cons]; omega) _
    · exact .error _ _

theorem lowSurrogate_alike (s : Bytes) :
    Alike s.length (lowSurrogate s) (lowSurrogate (ended s)) := by
  match s with
  | [] => exact .error _ _
  | [b] =>
    simp only [ended_cons, ended_nil, lowSurrogate]
    split
    · exact .error _ _
    · exact .error _ _
  | b :: c :: s =>
    simp only [ended_cons, lowSurrogate]
    split
    · exact .error _ _
    · split
      · exact .error _ _
      · refine (hexUnit_alike s).next (fun _ _ => .error _ _) ?_
        intro unit rest hlt
        dsimp only
        split
        · exact .ok (by simp only [List.length_cons]; omega) _
        · exact .error _ _

theorem unicodeEscape_alike (s : Bytes) :
    Alike s.length (unicodeEscape s) (unicodeEscape (ended s)) := by
  unfold unicodeEscape
  refine (hexUnit_alike s).next (fun _ _ => .error _ _) ?_
  intro unit rest hlt
  dsimp only
  split
  · exact .error _ _
  · split
    · refine (lowSurrogate_alike rest).next (fun _ _ => .error _ _) ?_
      intro low rest' hlt'
      exact .ok (Nat.lt_trans hlt' hlt) _
    · exact .ok hlt _

theorem escape_alike (s : Bytes) : Alike s.length (escape s) (escape (ended s)) := by
  cases s with
  | nil => exact .error _ _
  | cons b s =>
    simp only [ended_cons, escape]
    split
    · exact .ok (Nat.lt_succ_self _) _
    · split
      · exact (unicodeEscape_alike s).mono (Nat.le_succ _)
      · exact .error _ _

theorem stringBytes_alike (s : Bytes) :
    Alike s.length (stringBytes s) (stringBytes (ended s)) := by
  induction hn : s.length using Nat.strongRecOn generalizing s with
  | ind n ih =>
    subst hn
    cases s with
    | nil =>
      simp only [ended_nil, stringBytes]
      exact .error _ _
    | cons b s =>
      have hs := ih s.length (Nat.lt_succ_self _) s rfl
      simp only [ended_cons]
      unfold stringBytes
      split
      · exact .ok (Nat.lt_succ_self _) _
      · split
        · refine (escape_alike s).next (fun _ _ => .error _ _) ?_
          intro bytes after hlt
          simp only [length_ended, Nat.add_le_add_iff_right, Nat.le_of_lt hlt]
          have hafter := ih after.length (Nat.lt_succ_of_lt hlt) after rfl
          refine hafter.next (fun _ _ => .error _ _) ?_
          intro more rest hlt'
          exact .ok (Nat.lt_succ_of_lt (Nat.lt_trans hlt' hlt)) _
        · split
          · exact .error _ _
          · refine hs.next (fun _ _ => .error _ _) ?_
            intro more rest hlt
            exact .ok (Nat.lt_succ_of_lt hlt) _

theorem readText_alike (s : Bytes) : Alike s.length (readText s) (readText (ended s)) := by
  unfold readText
  refine (stringBytes_alike s).next (fun _ _ => .error _ _) ?_
  intro bytes rest hlt
  dsimp only
  split
  · exact .ok hlt _
  · exact .error _ _

/-! ### Numbers -/

theorem takeWhile_isDigit_ended (s : Bytes) :
    (ended s).takeWhile isDigit = s.takeWhile isDigit := by
  induction s with
  | nil => rfl
  | cons b s ih => simp only [ended_cons, List.takeWhile_cons, ih]

theorem dropWhile_isDigit_ended (s : Bytes) :
    (ended s).dropWhile isDigit = ended (s.dropWhile isDigit) := by
  induction s with
  | nil => rfl
  | cons b s ih =>
    simp only [ended_cons, List.dropWhile_cons, ih]
    split <;> rfl

theorem digits_alike (missing : Fault) (s : Bytes) :
    Alike s.length (digits missing s) (digits missing (ended s)) := by
  unfold digits
  rw [takeWhile_isDigit_ended, dropWhile_isDigit_ended]
  have hlen := congrArg List.length (List.takeWhile_append_dropWhile (p := isDigit) (l := s))
  rw [List.length_append] at hlen
  cases hd : s.takeWhile isDigit with
  | nil => exact .error _ _
  | cons d ds =>
    rw [hd, List.length_cons] at hlen
    exact .ok (by omega) _

theorem wholeDigits_alike (missing : Fault) (s : Bytes) :
    Alike s.length (wholeDigits missing s) (wholeDigits missing (ended s)) := by
  unfold wholeDigits
  refine (digits_alike missing s).next (fun _ _ => .error _ _) ?_
  intro ds rest hlt
  dsimp only
  split
  · exact .error _ _
  · exact .ok hlt _

theorem fractionDigits_alike (missing : Fault) (s : Bytes) :
    Alike (s.length + 1) (fractionDigits missing s) (fractionDigits missing (ended s)) := by
  cases s with
  | nil => exact .ok (Nat.lt_succ_self _) _
  | cons b s =>
    simp only [ended_cons, fractionDigits]
    split
    · refine (digits_alike missing s).next (fun _ _ => .error _ _) ?_
      intro ds rest hlt
      exact .ok (Nat.lt_succ_of_lt (Nat.lt_succ_of_lt hlt)) _
    · exact .ok (Nat.lt_succ_self (b :: s).length) none

theorem exponentSign_ended (s : Bytes) : exponentSign (ended s) =
    ((exponentSign s).1, ended (exponentSign s).2) ∧ (exponentSign s).2.length ≤ s.length := by
  cases s with
  | nil => exact ⟨rfl, Nat.le_refl _⟩
  | cons b s =>
    simp only [ended_cons, exponentSign]
    split
    · exact ⟨rfl, Nat.le_succ _⟩
    · split
      · exact ⟨rfl, Nat.le_succ _⟩
      · exact ⟨rfl, Nat.le_refl _⟩

theorem exponentPart_alike (missing : Fault) (s : Bytes) :
    Alike (s.length + 1) (exponentPart missing s) (exponentPart missing (ended s)) := by
  cases s with
  | nil => exact .ok (Nat.lt_succ_self _) _
  | cons b s =>
    obtain ⟨hsign, hle⟩ := exponentSign_ended s
    simp only [ended_cons, exponentPart, hsign]
    split
    · have hdigits := digits_alike missing (exponentSign s).2
      refine hdigits.next (fun _ _ => .error _ _) ?_
      intro ds rest hlt
      exact .ok (by simp only [List.length_cons]; omega) _
    · exact .ok (Nat.lt_succ_self (b :: s).length) none

theorem numeral_alike (missing : Fault) (negative : Bool) (s : Bytes) :
    Alike s.length (numeral missing negative s) (numeral missing negative (ended s)) := by
  unfold numeral
  refine (wholeDigits_alike missing s).next (fun _ _ => .error _ _) ?_
  intro whole s₁ h₁
  dsimp only
  refine (fractionDigits_alike missing s₁).next (fun _ _ => .error _ _) ?_
  intro fraction s₂ h₂
  dsimp only
  refine (exponentPart_alike missing s₂).next (fun _ _ => .error _ _) ?_
  intro exponent s₃ h₃
  exact .ok (by omega) _

theorem readNumber_alike (negative : Bool) (s : Bytes) :
    Alike s.length (readNumber negative s) (readNumber negative (ended s)) := by
  unfold readNumber
  refine (numeral_alike .endOfText negative s).next (fun _ _ => .error _ _) ?_
  intro n rest hlt
  dsimp only
  split
  · exact .ok hlt _
  · exact .error _ _

/-! ### Values -/

/-- Where the next item of a list stands: nothing comes, or the same byte in both texts. -/
theorem nextStart_ended (first : Bool) (b : UInt8) (rest : Bytes) :
    let start (rest : Bytes) : Except Fault Bytes :=
      if first then .ok (b :: rest)
      else if b = 0x2C then .ok (skipSpace rest)
      else .error .malformed
    (∃ f, start rest = .error f ∧ start (ended rest) = .error f) ∨
      (start rest = .ok [] ∧ start (ended rest) = .ok []) ∨
      ∃ c after, start rest = .ok (c :: after) ∧ start (ended rest) = .ok (c :: ended after) ∧
        after.length ≤ rest.length := by
  intro start
  cases first with
  | true => exact .inr (.inr ⟨b, rest, rfl, rfl, Nat.le_refl _⟩)
  | false =>
    by_cases hb : b = 0x2C
    · have hstart (t : Bytes) : start t = .ok (skipSpace t) := by simp [start, hb]
      rw [hstart, hstart]
      rcases skipSpace_ended rest with ⟨h, h'⟩ | ⟨c, after, h, h', hlt⟩
      · exact .inr (.inl ⟨congrArg _ h, congrArg _ h'⟩)
      · exact .inr (.inr ⟨c, after, congrArg _ h, congrArg _ h', Nat.le_of_lt hlt⟩)
    · have hstart (t : Bytes) : start t = .error .malformed := by simp [start, hb]
      exact .inl ⟨_, hstart rest, hstart (ended rest)⟩

theorem readItems_alike {item : Bytes → Read Json}
    (hitem : ∀ s, Alike s.length (item s) (item (ended s))) (first : Bool) {fuel fuel' : Nat}
    {s : Bytes} (hf : s.length < fuel) (hf' : s.length < fuel') :
    Alike s.length (readItems item first fuel s) (readItems item first fuel' (ended s)) := by
  induction fuel generalizing first fuel' s with
  | zero => exact absurd hf (Nat.not_lt_zero _)
  | succ fuel ih =>
    obtain ⟨fuel', rfl⟩ := Nat.exists_eq_add_one_of_ne_zero (Nat.ne_zero_of_lt hf')
    unfold readItems
    rcases skipSpace_ended s with ⟨h, h'⟩ | ⟨b, rest, h, h', hlt⟩
    · simp only [h, h']
      exact .error _ _
    · simp only [h, h']
      split
      · exact .ok hlt _
      · rcases nextStart_ended first b rest with ⟨f, h, h'⟩ | ⟨h, h'⟩ | ⟨c, after, h, h', hle⟩
        · simp only [h, h']
          exact .error _ _
        · simp only [h, h']
          exact .error _ _
        · simp only [h, h']
          split
          · exact .error _ _
          · have hvalue := hitem (c :: after)
            rw [ended_cons, List.length_cons] at hvalue
            refine hvalue.next (fun _ _ => .error _ _) ?_
            intro value t ht
            dsimp only
            have hvalues : Alike t.length (readItems item false fuel t)
                (readItems item false fuel' (ended t)) := ih false (by omega) (by omega)
            refine hvalues.next (fun _ _ => .error _ _) ?_
            intro values u hu
            exact .ok (by omega) _

theorem colon_alike (s : Bytes) : AlikeRest s.length (colon s) (colon (ended s)) := by
  unfold colon
  rcases skipSpace_ended s with ⟨h, h'⟩ | ⟨b, rest, h, h', hlt⟩
  · simp only [h, h']
    exact .error _ _
  · simp only [h, h']
    split
    · exact .ok hlt
    · exact .error _ _

theorem nextMember_alike (first : Bool) (s : Bytes) :
    Alike s.length (nextMember first s) (nextMember first (ended s)) := by
  unfold nextMember
  rcases skipSpace_ended s with ⟨h, h'⟩ | ⟨b, rest, h, h', hlt⟩
  · simp only [h, h']
    exact .error _ _
  · simp only [h, h']
    split
    · exact .ok hlt _
    · rcases nextStart_ended first b rest with ⟨f, h, h'⟩ | ⟨h, h'⟩ | ⟨c, after, h, h', hle⟩
      · simp only [h, h']
        exact .error _ _
      · simp only [h, h']
        exact .error _ _
      · simp only [h, h']
        split
        · exact .ok (by omega) _
        · exact .error _ _

theorem readMembers_alike {item : Bytes → Read Json}
    (hitem : ∀ s, Alike s.length (item s) (item (ended s))) (first : Bool) {fuel fuel' : Nat}
    {s : Bytes} (hf : s.length < fuel) (hf' : s.length < fuel') :
    Alike s.length (readMembers item first fuel s) (readMembers item first fuel' (ended s)) := by
  induction fuel generalizing first fuel' s with
  | zero => exact absurd hf (Nat.not_lt_zero _)
  | succ fuel ih =>
    obtain ⟨fuel', rfl⟩ := Nat.exists_eq_add_one_of_ne_zero (Nat.ne_zero_of_lt hf')
    unfold readMembers
    refine (nextMember_alike first s).next (fun _ _ => .error _ _) ?_
    intro more s₁ h₁
    cases more with
    | false => exact .ok h₁ _
    | true =>
      dsimp only
      refine (readText_alike s₁).next (fun _ _ => .error _ _) ?_
      intro name s₂ h₂
      dsimp only
      refine (colon_alike s₂).next (fun _ _ => .error _ _) ?_
      intro s₃ h₃
      dsimp only
      refine (hitem s₃).next (fun _ _ => .error _ _) ?_
      intro value s₄ h₄
      dsimp only
      have hpairs : Alike s₄.length (readMembers item false fuel s₄)
          (readMembers item false fuel' (ended s₄)) := ih false (by omega) (by omega)
      refine hpairs.next (fun _ _ => .error _ _) ?_
      intro pairs s₅ h₅
      exact .ok (by omega) _

/-- A value's first byte decides how it is read; what is nested in it has a level less. -/
theorem readValue_alike (depth : Nat) (s : Bytes) :
    Alike s.length (readValue depth s) (readValue depth (ended s)) := by
  unfold readValue
  rcases skipSpace_ended s with ⟨h, h'⟩ | ⟨b, rest, h, h', hlt⟩
  · simp only [h, h']
    exact .error _ _
  · simp only [h, h']
    have hword {ws : Bytes} (hws : Source.newline ∉ ws) (value : Json) :
        Alike s.length ((word ws rest).map (value, ·)) ((word ws (ended rest)).map (value, ·)) :=
      ((word_alike hws rest).giving value).mono hlt
    have hle : rest.length ≤ s.length := Nat.le_of_lt hlt
    have hfuel : rest.length < (ended rest).length + 1 := by simp only [length_ended]; omega
    split
    · exact hword (by decide) _
    split
    · exact hword (by decide) _
    split
    · exact hword (by decide) _
    split
    · exact (readNumber_alike true rest).mono hle
    split
    · exact (readNumber_alike false (b :: rest)).mono hlt
    split
    · exact ((readText_alike rest).map _).mono hle
    split
    · cases depth with
      | zero => exact .error _ _
      | succ depth =>
        have hitems := readItems_alike (readValue_alike depth) true (Nat.lt_succ_self _) hfuel
        exact (hitems.map _).mono hle
    split
    · cases depth with
      | zero => exact .error _ _
      | succ depth =>
        have hmembers := readMembers_alike (readValue_alike depth) true (Nat.lt_succ_self _) hfuel
        exact (hmembers.map fun pairs => object (Members.ofPairs pairs)).mono hle
    · exact .error _ _

/-! ### Skipping -/

theorem skipString_alike (s : Bytes) :
    AlikeRest s.length (skipString s) (skipString (ended s)) := by
  induction hn : s.length using Nat.strongRecOn generalizing s with
  | ind n ih =>
    subst hn
    cases s with
    | nil =>
      simp only [ended_nil, skipString]
      exact .error _ _
    | cons b s =>
      have hs := ih s.length (Nat.lt_succ_self _) s rfl
      simp only [ended_cons]
      unfold skipString
      split
      · exact .ok (Nat.lt_succ_self _)
      split
      · match s with
        | [] => exact .error _ _
        | e :: s =>
          have hs := ih s.length (by simp only [List.length_cons]; omega) s rfl
          simp only [ended_cons]
          split
          · exact hs.mono (by simp only [List.length_cons]; omega)
          split
          · match s with
            | [] => exact .error _ _
            | [_] => exact .error _ _
            | [_, _] => exact .error _ _
            | [a, b, c] =>
              simp only [ended_cons, ended_nil, hexUnit?_newline]
              exact .error _ _
            | a :: b :: c :: d :: s =>
              have hs := ih s.length (by simp only [List.length_cons]; omega) s rfl
              simp only [ended_cons]
              split
              · exact hs.mono (by simp only [List.length_cons]; omega)
              · exact .error _ _
          · exact .error _ _
      split
      · exact .error _ _
      · exact hs.mono (Nat.le_succ _)

theorem skipScalar_alike (b : UInt8) (rest : Bytes) :
    AlikeRest (rest.length + 1) (skipScalar b rest) (skipScalar b (ended rest)) := by
  unfold skipScalar
  have hle : rest.length ≤ rest.length + 1 := Nat.le_succ _
  split
  · exact word_alike (by decide) rest
  split
  · exact word_alike (by decide) rest
  split
  · exact word_alike (by decide) rest
  split
  · exact (numeral_alike .malformed true rest).rest.mono hle
  split
  · exact (numeral_alike .malformed false (b :: rest)).rest
  split
  · exact (skipString_alike rest).mono hle
  · exact .error _ _

theorem skipName_alike (s : Bytes) : AlikeRest s.length (skipName s) (skipName (ended s)) := by
  unfold skipName
  rcases skipSpace_ended s with ⟨h, h'⟩ | ⟨b, rest, h, h', hlt⟩
  · simp only [h, h']
    exact .error _ _
  · simp only [h, h']
    split
    · refine (skipString_alike rest).next (fun _ _ => .error _ _) ?_
      intro t ht
      exact (colon_alike t).mono (by omega)
    · exact .error _ _

theorem skipToValue_alike (frame : Frame) (s : Bytes) :
    AlikeRest (s.length + 1) (skipToValue frame s) (skipToValue frame (ended s)) := by
  cases frame with
  | array => exact .ok (Nat.lt_succ_self _)
  | object => exact (skipName_alike s).mono (Nat.le_succ _)

/-- More rounds than a skip from a place takes: each reads a byte or turns to the next value. -/
def rounds (place : Place) (s : Bytes) : Nat :=
  match place with
  | .before => 2 * s.length
  | .inside _ => 2 * s.length + 1

theorem skipFrom_alike (place : Place) (frames : List Frame) {fuel fuel' : Nat} {s : Bytes}
    (hf : rounds place s < fuel) (hf' : rounds place s < fuel') :
    AlikeRest (s.length + 1) (skipFrom fuel place frames s)
      (skipFrom fuel' place frames (ended s)) := by
  induction fuel generalizing place frames fuel' s with
  | zero => exact absurd hf (Nat.not_lt_zero _)
  | succ fuel ih =>
    obtain ⟨fuel', rfl⟩ := Nat.exists_eq_add_one_of_ne_zero (Nat.ne_zero_of_lt hf')
    have hgo (place' : Place) (frames : List Frame) {t : Bytes}
        (ht : rounds place' t < rounds place s) (hlen : t.length ≤ s.length) :
        AlikeRest (s.length + 1) (skipFrom fuel place' frames t)
          (skipFrom fuel' place' frames (ended t)) :=
      (ih place' frames (by omega) (by omega)).mono (Nat.succ_le_succ hlen)
    cases place with
    | before =>
      unfold skipFrom
      rcases skipSpace_ended s with ⟨h, h'⟩ | ⟨b, rest, h, h', hlt⟩
      · simp only [h, h']
        exact .error _ _
      · simp only [h, h']
        have hle : rest.length ≤ s.length := Nat.le_of_lt hlt
        split
        · exact hgo _ _ (by simp only [rounds]; omega) hle
        split
        · exact hgo _ _ (by simp only [rounds]; omega) hle
        · refine (skipScalar_alike b rest).next (fun _ _ => .error _ _) ?_
          intro t ht
          exact hgo _ _ (by simp only [rounds]; omega) (by omega)
    | inside afterValue =>
      cases frames with
      | nil => exact .ok (Nat.lt_succ_self _)
      | cons frame frames =>
        unfold skipFrom
        rcases skipSpace_ended s with ⟨h, h'⟩ | ⟨b, rest, h, h', hlt⟩
        · simp only [h, h']
          exact .error _ _
        · simp only [h, h']
          have hvalue {t : Bytes} (ht : t.length ≤ s.length) (u : Bytes)
              (hu : u.length < t.length + 1) :
              AlikeRest (s.length + 1) (skipFrom fuel .before (frame :: frames) u)
                (skipFrom fuel' .before (frame :: frames) (ended u)) :=
            hgo _ _ (by simp only [rounds]; omega) (by omega)
          split
          · exact hgo _ _ (by simp only [rounds]; omega) (Nat.le_of_lt hlt)
          · cases afterValue with
            | false =>
              simp only [Bool.not_false, if_true]
              exact (skipToValue_alike frame (b :: rest)).next (fun _ _ => .error _ _)
                (hvalue (t := b :: rest) hlt)
            | true =>
              simp only [Bool.not_true, Bool.false_eq_true, if_false]
              by_cases hb : b = 0x2C
              · simp only [hb, if_true]
                exact (skipToValue_alike frame rest).next (fun _ _ => .error _ _)
                  (hvalue (Nat.le_of_lt hlt))
              · simp only [hb, if_false]
                exact .error _ _

theorem skip_alike (s : Bytes) : AlikeRest (s.length + 1) (skip s) (skip (ended s)) :=
  skipFrom_alike .before [] (by simp only [rounds]; omega)
    (by simp only [rounds, length_ended]; omega)

end Json

namespace Record

open Json (Alike AlikeRest ended)

section

variable {α : Type} {n : Nat}

theorem lift_alike {x x' : Except Json.Fault (α × Bytes)} (h : Alike n x x') :
    Alike n (lift x) (lift x') := by
  rcases h with ⟨f, f', rfl, rfl⟩ | ⟨a, rest, rfl, rfl, hlt⟩
  · exact .error _ _
  · exact .ok hlt a

theorem lift_alikeRest {x x' : Except Json.Fault Bytes} (h : AlikeRest n x x') :
    AlikeRest n (lift x) (lift x') := by
  rcases h with ⟨f, f', rfl, rfl⟩ | ⟨rest, rfl, rfl, hlt⟩
  · exact .error _ _
  · exact .ok hlt

end

theorem readValue_alike (s : Bytes) : Alike s.length (readValue s) (readValue (ended s)) := by
  unfold readValue
  apply lift_alike
  refine (Json.colon_alike s).next (fun _ _ => .error _ _) ?_
  intro t ht
  exact (Json.readValue_alike _ t).mono (Nat.le_of_lt ht)

theorem skipValue_alike (s : Bytes) :
    AlikeRest s.length (skipValue s) (skipValue (ended s)) := by
  unfold skipValue
  apply lift_alikeRest
  refine (Json.colon_alike s).next (fun _ _ => .error _ _) ?_
  intro t ht
  exact (Json.skip_alike t).mono ht

theorem readFields_alike (seen : List Field) (first : Bool) {fuel fuel' : Nat} {s : Bytes}
    (hf : s.length < fuel) (hf' : s.length < fuel') :
    Alike s.length (readFields seen first fuel s) (readFields seen first fuel' (ended s)) := by
  induction fuel generalizing seen first fuel' s with
  | zero => exact absurd hf (Nat.not_lt_zero _)
  | succ fuel ih =>
    obtain ⟨fuel', rfl⟩ := Nat.exists_eq_add_one_of_ne_zero (Nat.ne_zero_of_lt hf')
    unfold readFields
    simp only [bind, Except.bind, pure, Except.pure, throw, throwThe, MonadExceptOf.throw]
    have hmember := lift_alike (Json.nextMember_alike first s)
    refine hmember.next (fun _ _ => .error _ _) ?_
    intro more s₁ h₁
    cases more with
    | false => exact .ok h₁ _
    | true =>
      simp only [Bool.not_true, Bool.false_eq_true, if_false]
      have hname := lift_alike (Json.readText_alike s₁)
      refine hname.next (fun _ _ => .error _ _) ?_
      intro name s₂ h₂
      dsimp only
      cases Field.ofName? name with
      | some field =>
        dsimp only
        split
        · exact .error _ _
        · refine (readValue_alike s₂).next (fun _ _ => .error _ _) ?_
          intro value s₃ h₃
          dsimp only
          have hfields : Alike s₃.length (readFields (field :: seen) false fuel s₃)
              (readFields (field :: seen) false fuel' (ended s₃)) :=
            ih _ _ (by omega) (by omega)
          refine hfields.next (fun _ _ => .error _ _) ?_
          intro fields s₄ h₄
          dsimp only
          exact .ok (by omega) _
      | none =>
        dsimp only
        refine (skipValue_alike s₂).next (fun _ _ => .error _ _) ?_
        intro s₃ h₃
        exact (ih _ _ (by omega) (by omega)).mono (by omega)

/-- What is read of an object, if it is one. -/
theorem readObject_ended (s : Bytes) :
    (readObject (ended s)).toOption = (readObject s).toOption := by
  unfold readObject
  rcases Json.skipSpace_ended s with ⟨h, h'⟩ | ⟨b, rest, h, h', -⟩
  · rw [h, h']
  · simp only [h, h', bind, Except.bind, pure, Except.pure, throw, throwThe, MonadExceptOf.throw]
    split
    · rfl
    · have hfields : Alike rest.length (readFields [] true (rest.length + 1) rest)
          (readFields [] true ((ended rest).length + 1) (ended rest)) :=
        readFields_alike [] true (Nat.lt_succ_self _) (by simp only [Json.length_ended]; omega)
      refine hfields.next (fun _ _ => rfl) ?_
      intro fields t _
      dsimp only
      rcases Json.skipSpace_ended t with ⟨h, h'⟩ | ⟨c, after, h, h', -⟩
      · rw [h, h']
      · simp only [h, h']
        rfl

/-- The record in a line is the same whether the line is read with its end or without it. -/
theorem ofBytes_ended (s : Bytes) : (ofBytes (ended s)).toOption = (ofBytes s).toOption := by
  have hobject (t : Bytes) :
      ((readObject t).map ofFields).toOption = (readObject t).toOption.map ofFields := by
    cases readObject t <;> rfl
  have hblank : Blank.isAsciiBlank Source.newline = true := rfl
  unfold ofBytes
  rcases Json.dropWhile_ended hblank s with ⟨h, h'⟩ | ⟨b, rest, h, h', -⟩
  · rw [h, h']
  · rw [h, h']
    dsimp only
    split
    · rw [hobject, hobject, readObject_ended]
    · rfl

end Record

end RequestLog
