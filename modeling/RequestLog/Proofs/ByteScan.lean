import RequestLog.Proofs.CharacterBytes
import RequestLog.Proofs.Grammar

/-! Patterns read by their bytes. A reader that steps through the bytes of a source, and cuts them
at offsets, cuts only in front of characters and at the end, and finds the tokens that a reader of
the characters finds. -/

namespace RequestLog

inductive OffsetError where
  | outOfRange (offset : Nat)
  | insideCharacter (offset : Nat)
  | illFormed
deriving DecidableEq, Repr

namespace Utf8

/-- An offset at an end of the bytes, or in front of a byte that does not continue a character. -/
def isBoundary (text : Bytes) (offset : Nat) : Bool :=
  match text[offset]? with
  | some b => offset = 0 || (continuation? b).isNone
  | none => offset = text.length

def slice (text : Bytes) (start stop : Nat) : Except OffsetError String :=
  if stop < start ∨ text.length < stop then .error (.outOfRange stop)
  else if isBoundary text start = false then .error (.insideCharacter start)
  else if isBoundary text stop = false then .error (.insideCharacter stop)
  else
    match decode? ((text.take stop).drop start) with
    | some s => .ok s
    | none => .error .illFormed

end Utf8

namespace Pattern

/-! ### Stepping through bytes -/

/-- The brace that ends a parameter, or a line break. -/
def isStopByte (b : UInt8) : Bool := b = 0x7D || b = 0x0A || b = 0x0D

def isLastByte (b : UInt8) : Bool :=
  (0x61 ≤ b && b ≤ 0x7A) || (0x41 ≤ b && b ≤ 0x5A) || b = 0x25

/-- The end of a code whose last byte can only be the one at this offset. -/
def lastEnd? (text : Bytes) (offset : Nat) : Option Nat :=
  match text[offset]? with
  | some b => if isLastByte b then some (offset + 1) else none
  | none => none

/-- The offset behind the brace that ends a parameter, whose name begins at this offset. -/
def parameterEnd (text : Bytes) (offset : Nat) : Except OffsetError (Option Nat) :=
  if text.length < offset then .error (.outOfRange offset)
  else
    match (text.drop offset).findIdx? isStopByte with
    | none => .ok none
    | some length =>
      match text[offset + length]? with
      | none => .error (.outOfRange (offset + length))
      | some stop => .ok (if stop = 0x7D then some (offset + length + 1) else none)

/-- The end of the code whose percent sign is at this offset, if it begins one. -/
def codeEnd (text : Bytes) (start : Nat) : Except OffsetError (Option Nat) :=
  match text[start + 1]? with
  | none => .ok none
  | some first =>
    if first = 0x7B then (parameterEnd text (start + 2)).map (·.bind (lastEnd? text))
    else .ok (lastEnd? text (if first = 0x3E then start + 2 else start + 1))

theorem lastEnd?_gt {text : Bytes} {offset stop : Nat} (h : lastEnd? text offset = some stop) :
    offset < stop := by
  unfold lastEnd? at h
  split at h
  · split at h
    · exact Option.some.inj h ▸ Nat.lt_succ_self offset
    · cases h
  · cases h

theorem parameterEnd_gt {text : Bytes} {offset stop : Nat}
    (h : parameterEnd text offset = .ok (some stop)) : offset < stop := by
  unfold parameterEnd at h
  split at h
  · cases h
  · split at h
    · cases h
    · split at h
      · cases h
      · split at h
        · obtain rfl := Option.some.inj (Except.ok.inj h)
          omega
        · cases h

theorem codeEnd_gt {text : Bytes} {start stop : Nat} (h : codeEnd text start = .ok (some stop)) :
    start < stop := by
  unfold codeEnd at h
  split at h
  · cases h
  · split at h
    · rcases hp : parameterEnd text (start + 2) with error | _ | behind <;> rw [hp] at h
      · cases h
      · cases h
      · have hbehind := parameterEnd_gt hp
        have hstop := lastEnd?_gt (Except.ok.inj h)
        omega
    · have hstop := lastEnd?_gt (Except.ok.inj h)
      split at hstop <;> omega

/-- A stretch of the source that becomes one token. -/
structure Segment where
  isCode : Bool
  start : Nat
  stop : Nat
deriving DecidableEq, Repr

def literal? (start stop : Nat) : List Segment :=
  if start < stop then [⟨false, start, stop⟩] else []

/-- Where the source is cut from an offset on, with a literal that began at another before it. -/
def segments (text : Bytes) (literalStart offset : Nat) : Except OffsetError (List Segment) :=
  if _h : offset < text.length then
    if text[offset] = 0x25 then
      match _hend : codeEnd text offset with
      | .error error => .error error
      | .ok (some stop) =>
        (segments text stop stop).map (literal? literalStart offset ++ ⟨true, offset, stop⟩ :: ·)
      | .ok none => segments text literalStart (offset + 1)
    else segments text literalStart (offset + 1)
  else .ok (literal? literalStart text.length)
termination_by text.length - offset
decreasing_by
  · have := codeEnd_gt _hend
    omega
  · omega
  · omega

def Segment.token (text : Bytes) (segment : Segment) : Except OffsetError Token :=
  (Utf8.slice text segment.start segment.stop).map fun s =>
    if segment.isCode then .directive s.toList (Directive.ofCode s.toList) else .literal s.toList

def scanBytes (text : Bytes) : Except OffsetError (List Token) :=
  (segments text 0 0).bind (·.mapM (Segment.token text))

end Pattern

/-! ### Bytes and characters -/

namespace Utf8

theorem getElem?_behind (p front back : Bytes) :
    (p ++ (front ++ back))[p.length + front.length]? = back.head? := by
  rw [← List.append_assoc, ← List.length_append, List.getElem?_append_right (Nat.le_refl _),
    Nat.sub_self, List.head?_eq_getElem?]

end Utf8

namespace Pattern

open Utf8

/-! ### Bytes that are found are characters -/

/-- The bytes that end a parameter, or its search, are characters. -/
theorem marks_stop : Marks isStopByte (!isInside ·) where
  bytes := by decide +kernel
  chars := by
    intro c hc
    simp only [isInside, Bool.not_eq_true', Bool.and_eq_false_iff, decide_eq_false_iff_not, ne_eq,
      not_not] at hc
    rcases hc with (rfl | rfl) | rfl <;> decide

theorem marks_last : Marks isLastByte (fun c => isLetter c || c = '%') where
  bytes := by decide +kernel
  chars := by
    intro c hc
    simp only [isLetter, Bool.or_eq_true, Bool.and_eq_true, decide_eq_true_eq] at hc
    rcases hc with (⟨-, h⟩ | ⟨-, h⟩) | rfl
    · exact Nat.lt_of_le_of_lt h (by decide)
    · exact Nat.lt_of_le_of_lt h (by decide)
    · decide

/-- Behind the first characters of a code the same last one is found. -/
theorem lastEnd?_eq (p : Bytes) (start cs : List Char) :
    lastEnd? (p ++ encodeChars (start ++ cs)) (p.length + (encodeChars start).length) =
      (terminator? start cs).map fun r => p.length + (encodeChars r.1).length := by
  unfold lastEnd?
  rw [encodeChars_append, getElem?_behind]
  cases cs with
  | nil => rfl
  | cons c rest =>
    obtain ⟨b, bs, hb⟩ := encodeChar_eq_cons c
    have hlast : isLastByte b = (isLetter c || c = '%') := marks_last.head hb
    rw [encodeChars_cons, hb, terminator?, ← hlast]
    cases hfound : isLastByte b with
    | false => simp [hfound]
    | true =>
      obtain ⟨b', hb'⟩ := marks_last.exists_byte (c := c) (hlast.symm.trans hfound)
      simp [hfound, encodeChars_append, encodeChars_cons, hb', Nat.add_assoc]

/-- The search for the end of a parameter stops at the character that ends it. -/
theorem findIdx?_isStopByte (cs : List Char) :
    (encodeChars cs).findIdx? isStopByte =
      (cs.dropWhile isInside).head?.map fun _ => (encodeChars (cs.takeWhile isInside)).length := by
  induction cs with
  | nil => rfl
  | cons c rest ih =>
    rw [encodeChars_cons, List.findIdx?_append]
    rcases marks_stop.char_cases c with ⟨hc, b, hb, hbytes⟩ | ⟨hc, hbytes⟩
    · have hc' : isInside c = false := by simpa using hc
      rw [hbytes, List.findIdx?_cons, if_pos hb, List.dropWhile_cons_of_neg (by simp [hc']),
        List.takeWhile_cons_of_neg (by simp [hc'])]
      rfl
    · have hc' : isInside c = true := by simpa using hc
      rw [List.findIdx?_eq_none_iff.2 hbytes, ih, List.dropWhile_cons_of_pos hc',
        List.takeWhile_cons_of_pos hc', encodeChars_cons, List.length_append, Option.none_or,
        Option.map_map]
      congr 1
      funext _
      exact Nat.add_comm _ _

/-- A parameter ends behind a brace that no line break precedes. -/
theorem parameterEnd_eq (p : Bytes) (start cs : List Char) :
    parameterEnd (p ++ encodeChars (start ++ cs)) (p.length + (encodeChars start).length) =
      .ok (match cs.dropWhile isInside with
        | '\x7d' :: _ =>
          some (p.length + (encodeChars (start ++ cs.takeWhile isInside ++ ['\x7d'])).length)
        | _ => none) := by
  unfold parameterEnd
  rw [encodeChars_append, ← List.append_assoc, ← List.length_append, if_neg (by simp),
    List.drop_left, findIdx?_isStopByte]
  cases hdrop : cs.dropWhile isInside with
  | nil => rfl
  | cons c after =>
    have hc : isInside c = false := by
      have := List.head_dropWhile_not (p := isInside) (l := cs) (by simp [hdrop])
      simpa [hdrop] using this
    obtain ⟨b, hb⟩ := marks_stop.exists_byte (c := c) (by simp [hc])
    have hcs : encodeChars cs = encodeChars (cs.takeWhile isInside) ++ b :: encodeChars after := by
      conv_lhs => rw [← List.takeWhile_append_dropWhile (p := isInside) (l := cs), hdrop]
      rw [encodeChars_append, encodeChars_cons, hb]
      rfl
    simp only [List.head?_cons, Option.map_some, hcs, getElem?_behind, List.head?_cons]
    have hbrace : b = 0x7D ↔ c = '\x7d' := head_eq_iff (n := 0x7D) (by decide) hb
    by_cases h : c = '\x7d'
    · obtain rfl := hbrace.2 h
      subst h
      simp [encodeChars_append, encodeChars_cons, hb, Nat.add_assoc]
    · have hne := mt hbrace.1 h
      simp [h, hne]

/-- The code that begins at a percent sign ends at the same place for bytes and for characters. -/
theorem codeEnd_eq (p : Bytes) (cs : List Char) :
    codeEnd (p ++ encodeChars ('%' :: cs)) p.length =
      .ok ((afterPercent? cs).map fun r => p.length + (encodeChars r.1).length) := by
  have hfirst : (p ++ encodeChars ('%' :: cs))[p.length + 1]? = (encodeChars cs).head? :=
    getElem?_behind p (encodeChars ['%']) (encodeChars cs)
  rw [codeEnd, hfirst]
  cases cs with
  | nil => rfl
  | cons c rest =>
    obtain ⟨b, bs, hb⟩ := encodeChar_eq_cons c
    have hopen : b = 0x7B ↔ c = '\x7b' := head_eq_iff (n := 0x7B) (by decide) hb
    have harrow : b = 0x3E ↔ c = '>' := head_eq_iff (n := 0x3E) (by decide) hb
    have hhead : (encodeChars (c :: rest)).head? = some b := by rw [encodeChars_cons, hb]; rfl
    simp only [hhead, hopen, harrow]
    by_cases hc : c = '\x7b'
    · subst hc
      have hend : parameterEnd (p ++ encodeChars ('%' :: '\x7b' :: rest)) (p.length + 2) = _ :=
        parameterEnd_eq p ['%', '\x7b'] rest
      rw [if_pos rfl, hend, afterPercent?.eq_1]
      cases hdrop : rest.dropWhile isInside with
      | nil => rfl
      | cons d after =>
        by_cases hd : d = '\x7d'
        · subst hd
          have hrest : '%' :: '\x7b' :: rest =
              '%' :: '\x7b' :: rest.takeWhile isInside ++ ['\x7d'] ++ after := by
            conv_lhs => rw [← List.takeWhile_append_dropWhile (p := isInside) (l := rest), hdrop]
            simp
          have hlast := lastEnd?_eq p ('%' :: '\x7b' :: rest.takeWhile isInside ++ ['\x7d']) after
          rw [← hrest] at hlast
          exact congrArg Except.ok hlast
        · simp [hd, Except.map]
    by_cases hc' : c = '>'
    · subst hc'
      rw [if_neg hc, if_pos rfl, afterPercent?.eq_2]
      exact congrArg Except.ok (lastEnd?_eq p ['%', '>'] rest)
    · rw [if_neg hc, if_neg hc', afterPercent?.eq_3 _ (by simp [hc]) (by simp [hc'])]
      exact congrArg Except.ok (lastEnd?_eq p ['%'] (c :: rest))

/-! ### Cutting in front of characters -/

/-- The bytes of some of the characters end where a character begins, or at the end. -/
theorem isBoundary_append (left right : List Char) :
    isBoundary (encodeChars (left ++ right)) (encodeChars left).length = true := by
  unfold isBoundary
  rw [encodeChars_append, List.getElem?_append_right (Nat.le_refl _), Nat.sub_self]
  cases right with
  | nil => simp
  | cons c right =>
    obtain ⟨b, bs, hb⟩ := encodeChar_eq_cons c
    rw [encodeChars_cons, hb]
    simp [continuation?_head hb]

theorem isValid_append (left right : List Char) :
    (String.Pos.Raw.mk (encodeChars left).length).IsValid (String.ofList (left ++ right)) := by
  rw [String.Pos.Raw.isValid_iff_exists_append]
  refine ⟨String.ofList left, String.ofList right, String.ofList_append, ?_⟩
  rw [length_encodeChars]
  rfl

theorem slice_append (left text right : List Char) :
    slice (encodeChars (left ++ text ++ right)) (encodeChars left).length
      (encodeChars (left ++ text)).length = .ok (String.ofList text) := by
  have hstart :
      isBoundary (encodeChars (left ++ text ++ right)) (encodeChars left).length = true := by
    rw [List.append_assoc]
    exact isBoundary_append left (text ++ right)
  have hbytes :
      ((encodeChars (left ++ text ++ right)).take (encodeChars (left ++ text)).length).drop
      (encodeChars left).length = encodeChars text := by
    rw [encodeChars_append (left ++ text), List.take_left, encodeChars_append, List.drop_left]
  unfold slice
  rw [if_neg (by simp [encodeChars_append]), hstart, isBoundary_append, hbytes, decode?,
    decodeChars?_encodeChars]
  rfl

/-- A segment that has the bytes of a token's characters. -/
inductive Places (source : List Char) : Segment → Token → Prop where
  | literal {left text right : List Char} (h : source = left ++ text ++ right) :
    Places source ⟨false, (encodeChars left).length, (encodeChars (left ++ text)).length⟩
      (.literal text)
  | code {left code right : List Char} (h : source = left ++ code ++ right) :
    Places source ⟨true, (encodeChars left).length, (encodeChars (left ++ code)).length⟩
      (.directive code (Directive.ofCode code))

theorem Places.slice_eq {source : List Char} {segment : Segment} {token : Token}
    (h : Places source segment token) :
    slice (encodeChars source) segment.start segment.stop = .ok (String.ofList token.text) := by
  cases h with
  | literal h => rw [h, slice_append]; rfl
  | code h => rw [h, slice_append]; rfl

theorem Places.token_eq {source : List Char} {segment : Segment} {token : Token}
    (h : Places source segment token) : segment.token (encodeChars source) = .ok token := by
  rw [Segment.token, h.slice_eq]
  cases h <;> simp [Except.map, Token.text]

theorem Places.isValid {source : List Char} {segment : Segment} {token : Token}
    (h : Places source segment token) :
    (String.Pos.Raw.mk segment.start).IsValid (String.ofList source) ∧
      (String.Pos.Raw.mk segment.stop).IsValid (String.ofList source) := by
  have hboth {left text right : List Char} (h : source = left ++ text ++ right) :
      (String.Pos.Raw.mk (encodeChars left).length).IsValid (String.ofList source) ∧
        (String.Pos.Raw.mk (encodeChars (left ++ text)).length).IsValid (String.ofList source) := by
    refine ⟨?_, h ▸ isValid_append _ right⟩
    rw [h, List.append_assoc]
    exact isValid_append left _
  cases h with
  | literal h => exact hboth h
  | code h => exact hboth h

/-! ### The run over the bytes -/

/-- One step, at a byte that is there. -/
theorem segments_step {text : Bytes} {literalStart offset : Nat} {b : UInt8}
    (hb : text[offset]? = some b) :
    segments text literalStart offset =
      if b = 0x25 then
        match codeEnd text offset with
        | .error error => .error error
        | .ok (some stop) =>
          (segments text stop stop).map (literal? literalStart offset ++ ⟨true, offset, stop⟩ :: ·)
        | .ok none => segments text literalStart (offset + 1)
      else segments text literalStart (offset + 1) := by
  obtain ⟨h, rfl⟩ := List.getElem?_eq_some_iff.1 hb
  rw [segments, dif_pos h]
  split
  · split <;> simp [*]
  · rfl

/-- Bytes that are no percent sign are passed. -/
theorem segments_skip {p bytes after : Bytes} (h : ∀ b ∈ bytes, b ≠ 0x25) (literalStart : Nat) :
    segments (p ++ (bytes ++ after)) literalStart p.length =
      segments (p ++ (bytes ++ after)) literalStart (p.length + bytes.length) := by
  induction bytes generalizing p with
  | nil => rfl
  | cons b bytes ih =>
    have hb : (p ++ (b :: bytes ++ after))[p.length]? = some b := by simp
    rw [segments_step hb, if_neg (h b List.mem_cons_self)]
    have hrest := ih (p := p ++ [b]) fun b' hb' => h b' (List.mem_cons_of_mem _ hb')
    simpa [Nat.add_assoc, Nat.add_comm, Nat.add_left_comm] using hrest

/-- At a percent sign the bytes are cut where the characters are. -/
theorem segments_percent (p : Bytes) (cs : List Char) (literalStart : Nat) :
    let text := p ++ encodeChars ('%' :: cs)
    segments text literalStart p.length =
      match (afterPercent? cs).map fun r => p.length + (encodeChars r.1).length with
      | some stop =>
        (segments text stop stop).map
          (literal? literalStart p.length ++ ⟨true, p.length, stop⟩ :: ·)
      | none => segments text literalStart (p.length + 1) := by
  intro text
  have hpercent : text[p.length]? = some 0x25 := getElem?_behind p [] _
  rw [segments_step hpercent, if_pos rfl, codeEnd_eq]
  cases afterPercent? cs <;> rfl

/-- A character that begins no code is passed, with all its bytes. -/
theorem segments_char (p : Bytes) {c : Char} {cs : List Char} (h : code? (c :: cs) = none)
    (literalStart : Nat) :
    segments (p ++ encodeChars (c :: cs)) literalStart p.length =
      segments (p ++ encodeChars (c :: cs)) literalStart
        (p.length + (String.utf8EncodeChar c).length) := by
  rcases (marks_ascii (n := 0x25) (by decide)).char_cases c with ⟨hc, -⟩ | ⟨-, hbytes⟩
  · obtain rfl : c = '%' := of_decide_eq_true hc
    rw [segments_percent, show afterPercent? cs = none from h]
    rfl
  · exact segments_skip (fun b hb => of_decide_eq_false (hbytes b hb)) literalStart

/-- A code is cut out of the bytes, with the literal in front of it. -/
theorem segments_code {p : Bytes} {cs code after : List Char} (h : code? cs = some (code, after))
    {stop : Nat} (hstop : stop = p.length + (encodeChars code).length) (literalStart : Nat) :
    segments (p ++ encodeChars cs) literalStart p.length =
      (segments (p ++ encodeChars cs) stop stop).map
        (literal? literalStart p.length ++ ⟨true, p.length, stop⟩ :: ·) := by
  unfold code? at h
  split at h
  · rw [segments_percent, h, hstop]
    rfl
  · cases h

theorem addPiece_code (code : List Char) (tokens : List Token) :
    addPiece (.code code) tokens = .directive code (Directive.ofCode code) :: tokens := rfl

/-- The characters since the last code become the literal in front of the next one. -/
theorem forall₂_literal {source left text right : List Char}
    (hsource : source = left ++ text ++ right)
    {cuts : List Segment} {tokens : List Token} (h : List.Forall₂ (Places source) cuts tokens)
    (hfirst : ∀ first ∈ tokens.head?, ¬ first.IsLiteral) :
    List.Forall₂ (Places source)
      (literal? (encodeChars left).length (encodeChars (left ++ text)).length ++ cuts)
      ((text.map Piece.char).foldr addPiece tokens) := by
  cases text with
  | nil => simpa [literal?] using h
  | cons c text =>
    have hlength : (encodeChars left).length < (encodeChars (left ++ c :: text)).length := by
      have := List.length_pos_of_ne_nil (String.utf8EncodeChar_ne_nil (c := c))
      rw [encodeChars_append, encodeChars_cons, List.length_append, List.length_append]
      omega
    rw [foldr_addPiece_chars (List.cons_ne_nil c text) hfirst, literal?, if_pos hlength]
    exact .cons (.literal hsource) h

/-- From the end of a code on, with the characters that are literal since then: the bytes are cut
without an error, and into the tokens that the characters become. -/
theorem segments_eq {source right : List Char} (left text : List Char)
    (hsource : source = left ++ text ++ right) :
    ∃ cuts, segments (encodeChars source) (encodeChars left).length
        (encodeChars (left ++ text)).length = .ok cuts ∧
      List.Forall₂ (Places source) cuts
        ((text.map Piece.char ++ pieces right).foldr addPiece []) := by
  fun_induction pieces right generalizing left text with
  | case1 =>
    have hplaces := forall₂_literal hsource .nil (by simp)
    rw [List.append_nil] at hplaces ⊢
    rw [List.append_nil] at hsource
    refine ⟨_, ?_, hplaces⟩
    rw [hsource, segments, dif_neg (Nat.lt_irrefl _)]
  | case2 c rest code after h ih =>
    have hcut : source = left ++ text ++ code ++ after := by
      rw [hsource, (code?_eq_some_iff.1 h).2, List.append_assoc _ code]
    obtain ⟨cuts, hcuts, hplaces⟩ := ih (left ++ text ++ code) [] (by rw [hcut, List.append_nil])
    have hstop := congrArg List.length (encodeChars_append (left ++ text) code)
    rw [List.length_append] at hstop
    have hstep := segments_code h hstop (encodeChars left).length
    rw [← encodeChars_append, ← hsource] at hstep
    rw [List.append_nil] at hcuts
    rw [hcuts] at hstep
    refine ⟨_, hstep, ?_⟩
    rw [List.foldr_append, List.foldr_cons, addPiece_code]
    exact forall₂_literal hsource (.cons (.code hcut) hplaces) (by simp [Token.IsLiteral])
  | case3 c rest h ih =>
    obtain ⟨cuts, hcuts, hplaces⟩ := ih left (text ++ [c]) (by rw [hsource]; simp)
    refine ⟨cuts, ?_, by simpa using hplaces⟩
    have hstep := segments_char (encodeChars (left ++ text)) h (encodeChars left).length
    rw [← encodeChars_append, ← hsource] at hstep
    rw [hstep, ← hcuts, ← List.append_assoc, encodeChars_append (left ++ text), List.length_append,
      encodeChars_cons, encodeChars_nil, List.append_nil]

theorem mapM_token {source : List Char} {cuts : List Segment} {tokens : List Token}
    (h : List.Forall₂ (Places source) cuts tokens) :
    cuts.mapM (Segment.token (encodeChars source)) = .ok tokens := by
  induction h with
  | nil => rfl
  | cons hplace _ ih =>
    rw [List.mapM_cons, hplace.token_eq, ih]
    rfl

/-- The bytes of every source are cut without an error, at offsets in front of characters and at the
ends, into texts that are well formed; their tokens are those of the characters, also where the
source is what a format stands for. -/
theorem scanBytes_eq (source : String) :
    let text := Utf8.encode source
    ∃ cuts, segments text 0 0 = .ok cuts ∧
      (∀ cut ∈ cuts,
        (String.Pos.Raw.mk cut.start).IsValid source ∧ (String.Pos.Raw.mk cut.stop).IsValid source ∧
          ∃ s, Utf8.slice text cut.start cut.stop = .ok s) ∧
      scanBytes text = .ok (tokenize source.toList) ∧
      ∀ format, expand format = source → scanBytes text = .ok (compile format).tokens := by
  intro text
  obtain ⟨cuts, hcuts, hplaces⟩ := segments_eq [] [] (rfl : source.toList = _)
  have htokens : scanBytes text = .ok (tokenize source.toList) := by
    rw [scanBytes, show segments text 0 0 = .ok cuts from hcuts]
    exact mapM_token hplaces
  refine ⟨cuts, hcuts, ?_, htokens, ?_⟩
  · have hplaced : ∀ cut ∈ cuts, ∃ token, Places source.toList cut token :=
      ((List.forall₂_and_left _ _).1 (hplaces.imp fun cut token h => ⟨⟨token, h⟩, h⟩)).1
    intro cut hcut
    obtain ⟨token, hplace⟩ := hplaced cut hcut
    have hvalid := hplace.isValid
    rw [String.ofList_toList] at hvalid
    exact ⟨hvalid.1, hvalid.2, _, hplace.slice_eq⟩
  · rintro format rfl
    exact htokens

/-- Characters of several bytes in literals and in a parameter, whose name is not a known header. -/
theorem scanBytes_eq_multibyte :
    let format := "→ %\x7bé\x7di %h✓"
    expand format = format ∧
      segments (Utf8.encode format) 0 0 = .ok [⟨false, 0, 4⟩, ⟨true, 4, 10⟩, ⟨false, 10, 11⟩,
        ⟨true, 11, 13⟩, ⟨false, 13, 16⟩] ∧
      (String.Pos.Raw.mk 4).IsValid format ∧ (String.Pos.Raw.mk 10).IsValid format ∧
      scanBytes (Utf8.encode format) = .ok (compile format).tokens ∧
      (compile format).tokens =
        [ .literal ['→', ' '], .directive ['%', '\x7b', 'é', '\x7d', 'i'] .unknown, .literal [' '],
          .directive ['%', 'h'] .remoteHost, .literal ['✓'] ] := by
  intro format
  have hexpand : expand format = format := by cbv
  have hsegments : segments (Utf8.encode format) 0 0 = .ok [⟨false, 0, 4⟩, ⟨true, 4, 10⟩,
      ⟨false, 10, 11⟩, ⟨true, 11, 13⟩, ⟨false, 13, 16⟩] := by cbv
  obtain ⟨cuts, hcuts, hvalid, -, htokens⟩ := scanBytes_eq format
  obtain rfl := Except.ok.inj (hcuts.symm.trans hsegments)
  obtain ⟨hstart, hstop, -⟩ := hvalid ⟨true, 4, 10⟩ (by simp)
  exact ⟨hexpand, hsegments, hstart, hstop, htokens format hexpand, by cbv⟩

end Pattern

end RequestLog
