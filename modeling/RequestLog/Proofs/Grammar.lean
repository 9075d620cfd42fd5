import RequestLog.Proofs.Rendering

/-! Patterns are read by their grammar. From left to right a code is taken wherever one begins, and
one literal character everywhere else; a pattern compiles to the tokens of this reading and to no
others. -/

namespace RequestLog

namespace Pattern

/-! ### The grammar of codes -/

/-- What may stand between the percent sign of a code and its last character. -/
inductive IsModifier : List Char → Prop where
  | nothing : IsModifier []
  | arrow : IsModifier ['>']
  | parameter {name : List Char} (h : ∀ c ∈ name, c ≠ '\x7d' ∧ c ≠ '\n' ∧ c ≠ '\r') :
    IsModifier ('\x7b' :: name ++ ['\x7d'])

def IsLast (c : Char) : Prop := c.isAlpha ∨ c = '%'

inductive IsCode : List Char → Prop where
  | intro {modifier : List Char} {last : Char} (hm : IsModifier modifier) (hl : IsLast last) :
    IsCode ('%' :: modifier ++ [last])

theorem isLetter_eq_isAlpha (c : Char) : isLetter c = c.isAlpha := by
  simp only [isLetter, Char.isAlpha, Char.isUpper, Char.isLower, Bool.decide_and]
  exact Bool.or_comm _ _

theorem isInside_iff (c : Char) : isInside c = true ↔ c ≠ '\x7d' ∧ c ≠ '\n' ∧ c ≠ '\r' := by
  simp [isInside, and_assoc]

theorem terminator?_eq_some_iff {start cs code after : List Char} :
    terminator? start cs = some (code, after) ↔
      ∃ last, IsLast last ∧ code = start ++ [last] ∧ cs = last :: after := by
  cases cs with
  | nil => simp [terminator?]
  | cons c rest =>
    simp only [terminator?, isLetter_eq_isAlpha, Bool.or_eq_true, decide_eq_true_eq]
    constructor
    · intro h
      split at h
      · rename_i hlast
        obtain ⟨rfl, rfl⟩ : start ++ [c] = code ∧ rest = after := by simpa using h
        exact ⟨c, hlast, rfl, rfl⟩
      · simp at h
    · rintro ⟨last, hlast, rfl, hcs⟩
      obtain ⟨rfl, rfl⟩ : c = last ∧ rest = after := by simpa using hcs
      exact if_pos hlast

/-- A parameter is read up to its brace, which no character of its name is. -/
theorem takeWhile_dropWhile_parameter {name : List Char}
    (h : ∀ c ∈ name, c ≠ '\x7d' ∧ c ≠ '\n' ∧ c ≠ '\r') (rest : List Char) :
    (name ++ '\x7d' :: rest).takeWhile isInside = name ∧
      (name ++ '\x7d' :: rest).dropWhile isInside = '\x7d' :: rest := by
  have hinside : ∀ c ∈ name, isInside c = true := fun c hc => (isInside_iff c).2 (h c hc)
  have hbrace : isInside '\x7d' = false := by decide
  constructor
  · rw [List.takeWhile_append_of_pos hinside, List.takeWhile_cons_of_neg (by simp [hbrace]),
      List.append_nil]
  · rw [List.dropWhile_append_of_pos hinside, List.dropWhile_cons_of_neg (by simp [hbrace])]

theorem afterPercent?_append {modifier : List Char} (hm : IsModifier modifier) {last : Char}
    (hl : IsLast last) (after : List Char) :
    afterPercent? (modifier ++ last :: after) = some ('%' :: modifier ++ [last], after) := by
  have hterminator (start : List Char) :
      terminator? start (last :: after) = some (start ++ [last], after) :=
    terminator?_eq_some_iff.2 ⟨last, hl, rfl, rfl⟩
  cases hm with
  | nothing =>
    -- the last character does not begin a modifier
    have hbrace : last ≠ '\x7b' := by rintro rfl; revert hl; unfold IsLast; decide
    have harrow : last ≠ '>' := by rintro rfl; revert hl; unfold IsLast; decide
    rw [List.nil_append, afterPercent?.eq_3 _ (by simp [hbrace]) (by simp [harrow]), hterminator]
  | arrow => exact hterminator ['%', '>']
  | @parameter name h =>
    obtain ⟨htake, hdrop⟩ := takeWhile_dropWhile_parameter h (last :: after)
    rw [show '\x7b' :: name ++ ['\x7d'] ++ last :: after
        = '\x7b' :: (name ++ '\x7d' :: last :: after) by simp]
    simp only [afterPercent?, htake, hdrop, hterminator]
    rfl

theorem afterPercent?_eq_some {cs code after : List Char}
    (h : afterPercent? cs = some (code, after)) :
    ∃ modifier last, IsModifier modifier ∧ IsLast last ∧ code = '%' :: modifier ++ [last] ∧
      cs = modifier ++ last :: after := by
  unfold afterPercent? at h
  split at h
  · rename_i rest
    split at h
    · rename_i closed hdrop
      obtain ⟨last, hl, rfl, rfl⟩ := terminator?_eq_some_iff.1 h
      have hsplit := List.takeWhile_append_dropWhile (p := isInside) (l := rest)
      rw [hdrop] at hsplit
      refine ⟨'\x7b' :: rest.takeWhile isInside ++ ['\x7d'], last, .parameter ?_, hl, by simp, ?_⟩
      · intro c hc
        exact (isInside_iff c).1 (List.mem_takeWhile_imp hc)
      · conv_lhs => rw [← hsplit]
        simp
    · simp at h
  · obtain ⟨last, hl, rfl, rfl⟩ := terminator?_eq_some_iff.1 h
    exact ⟨['>'], last, .arrow, hl, rfl, rfl⟩
  · obtain ⟨last, hl, rfl, rfl⟩ := terminator?_eq_some_iff.1 h
    exact ⟨[], last, .nothing, hl, rfl, rfl⟩

/-- A code is found exactly where one begins, and there is only one that begins there. -/
theorem code?_eq_some_iff {cs code after : List Char} :
    code? cs = some (code, after) ↔ IsCode code ∧ cs = code ++ after := by
  constructor
  · intro h
    unfold code? at h
    split at h
    · obtain ⟨modifier, last, hm, hl, rfl, rfl⟩ := afterPercent?_eq_some h
      exact ⟨.intro hm hl, by simp⟩
    · simp at h
  · rintro ⟨⟨hm, hl⟩, rfl⟩
    simpa [code?] using afterPercent?_append hm hl after

theorem code?_eq_none_iff {cs : List Char} :
    code? cs = none ↔ ∀ code, IsCode code → ¬ code <+: cs := by
  constructor
  · rintro h code hc ⟨after, rfl⟩
    rw [code?_eq_some_iff.2 ⟨hc, rfl⟩] at h
    simp at h
  · intro h
    rw [Option.eq_none_iff_forall_ne_some]
    rintro ⟨code, after⟩ hsome
    obtain ⟨hc, rfl⟩ := code?_eq_some_iff.1 hsome
    exact h code hc (List.prefix_append code after)

/-! ### Reading from left to right -/

/-- The reading of a text: a code where one begins, and one character where none does. -/
inductive Scan : List Char → List Piece → Prop where
  | done : Scan [] []
  | code {code after : List Char} {rest : List Piece} (hc : IsCode code) (h : Scan after rest) :
    Scan (code ++ after) (.code code :: rest)
  | char {c : Char} {after : List Char} {rest : List Piece}
    (hc : ∀ code, IsCode code → ¬ code <+: c :: after) (h : Scan after rest) :
    Scan (c :: after) (.char c :: rest)

theorem scan_pieces (cs : List Char) : Scan cs (pieces cs) := by
  fun_induction pieces cs with
  | case1 => exact .done
  | case2 c rest code after h ih =>
    obtain ⟨hc, hcs⟩ := code?_eq_some_iff.1 h
    rw [hcs]
    exact .code hc ih
  | case3 c rest h ih => exact .char (code?_eq_none_iff.1 h) ih

theorem Scan.eq_pieces {cs : List Char} {ps : List Piece} (h : Scan cs ps) : ps = pieces cs := by
  induction h with
  | done => rw [pieces]
  | @code code after rest hc _ ih =>
    have hfound : code? (code ++ after) = some (code, after) := code?_eq_some_iff.2 ⟨hc, rfl⟩
    cases hcs : code ++ after with
    | nil => simp [hcs, code?] at hfound
    | cons c cs =>
      rw [hcs] at hfound
      rw [pieces, ih]
      split
      · rename_i code' after' hfound'
        obtain ⟨rfl, rfl⟩ : code = code' ∧ after = after' := by simpa [hfound] using hfound'
        rfl
      · rename_i hnone
        simp [hfound] at hnone
  | @char c after rest hc _ ih =>
    have hnone := code?_eq_none_iff.2 hc
    rw [pieces, ih]
    split
    · rename_i hfound
      simp [hnone] at hfound
    · rfl

end Pattern

/-! ### Pieces and tokens -/

def Piece.text : Piece → List Char
  | .char c => [c]
  | .code chars => chars

namespace Token

def text : Token → List Char
  | .literal text => text
  | .directive code _ => code

def pieces : Token → List Piece
  | .literal text => text.map .char
  | .directive code _ => [.code code]

def IsLiteral : Token → Prop
  | .literal _ => True
  | .directive _ _ => False

theorem flatMap_text_pieces (token : Token) : token.pieces.flatMap Piece.text = token.text := by
  cases token with
  | literal _ => simp [pieces, Token.text, Piece.text, List.flatMap_map]
  | directive _ _ => simp [pieces, Token.text, Piece.text]

end Token

namespace Pattern

theorem flatMap_text (tokens : List Token) :
    (tokens.flatMap Token.pieces).flatMap Piece.text = tokens.flatMap Token.text := by
  rw [List.flatMap_assoc]
  exact List.flatMap_congr fun token _ => token.flatMap_text_pieces

/-- What is read of a text spells it again. -/
theorem Scan.text_eq {cs : List Char} {ps : List Piece} (h : Scan cs ps) :
    ps.flatMap Piece.text = cs := by
  induction h with
  | done => rfl
  | code _ _ ih => simp [ih, Piece.text]
  | char _ _ ih => simp [ih, Piece.text]

theorem Scan.no_code {cs : List Char} {c : Char} {ps : List Piece} (h : Scan cs (.char c :: ps))
    {code : List Char} (hc : IsCode code) : ¬ code <+: cs := by
  cases h with
  | char hnone _ => exact hnone code hc

/-- A reading goes on from every place that it passes. -/
theorem Scan.of_append {cs : List Char} {ps qs : List Piece} (h : Scan cs (ps ++ qs)) :
    Scan (qs.flatMap Piece.text) qs := by
  induction ps generalizing cs with
  | nil =>
    rw [List.nil_append] at h
    rwa [h.text_eq]
  | cons p ps ih =>
    cases h with
    | code _ h => exact ih h
    | char _ h => exact ih h

/-- The tokens into which a text is cut. -/
structure Cut (source : List Char) (tokens : List Token) : Prop where
  scan : Scan source (tokens.flatMap Token.pieces)
  solid : ∀ token ∈ tokens, token.IsSolid
  resolved : ∀ code rule, .directive code rule ∈ tokens → rule = Directive.ofCode code
  apart : tokens.IsChain fun a b => ¬ (a.IsLiteral ∧ b.IsLiteral)

theorem pieces_addPiece (piece : Piece) (tokens : List Token) :
    (addPiece piece tokens).flatMap Token.pieces = piece :: tokens.flatMap Token.pieces := by
  unfold addPiece
  split <;> simp [Token.pieces]

theorem pieces_tokenize (cs : List Char) : (tokenize cs).flatMap Token.pieces = pieces cs := by
  unfold tokenize
  induction pieces cs with
  | nil => rfl
  | cons piece rest ih => rw [List.foldr_cons, pieces_addPiece, ih]

theorem addPiece_resolved (piece : Piece) {tokens : List Token}
    (h : ∀ code rule, .directive code rule ∈ tokens → rule = Directive.ofCode code) :
    ∀ code rule, .directive code rule ∈ addPiece piece tokens → rule = Directive.ofCode code := by
  intro code rule hmem
  unfold addPiece at hmem
  split at hmem
  · exact h code rule (List.mem_cons_of_mem _ (by simpa using hmem))
  · exact h code rule (by simpa using hmem)
  · rcases List.mem_cons.1 hmem with heq | hmem
    · obtain ⟨rfl, rfl⟩ := Token.directive.inj heq
      rfl
    · exact h code rule hmem

theorem tokenize_resolved (cs : List Char) :
    ∀ code rule, .directive code rule ∈ tokenize cs → rule = Directive.ofCode code := by
  unfold tokenize
  induction pieces cs with
  | nil => simp
  | cons piece rest ih => exact addPiece_resolved piece ih

theorem addPiece_apart (piece : Piece) {tokens : List Token}
    (h : tokens.IsChain fun a b => ¬ (a.IsLiteral ∧ b.IsLiteral)) :
    (addPiece piece tokens).IsChain fun a b => ¬ (a.IsLiteral ∧ b.IsLiteral) := by
  cases piece with
  | code code => cases tokens <;> simp_all [addPiece, Token.IsLiteral]
  | char c =>
    cases tokens with
    | nil => simp [addPiece]
    | cons first rest =>
      cases first with
      | directive code rule => simpa [addPiece, Token.IsLiteral] using h
      | literal text =>
        -- the literal grows, and what follows it is still no literal
        cases rest <;> simp_all [addPiece, Token.IsLiteral]

theorem tokenize_apart (cs : List Char) :
    (tokenize cs).IsChain fun a b => ¬ (a.IsLiteral ∧ b.IsLiteral) := by
  unfold tokenize
  induction pieces cs with
  | nil => exact .nil
  | cons piece rest ih => exact addPiece_apart piece ih

theorem cut_tokenize (cs : List Char) : Cut cs (tokenize cs) where
  scan := by rw [pieces_tokenize]; exact scan_pieces cs
  solid := tokenize_solid cs
  resolved := tokenize_resolved cs
  apart := tokenize_apart cs

/-- Characters become one literal in front of what is none. -/
theorem foldr_addPiece_chars {text : List Char} (ht : text ≠ []) {tokens : List Token}
    (h : ∀ first ∈ tokens.head?, ¬ first.IsLiteral) :
    (text.map Piece.char).foldr addPiece tokens = .literal text :: tokens := by
  induction text with
  | nil => exact absurd rfl ht
  | cons c text ih =>
    rw [List.map_cons, List.foldr_cons]
    cases text with
    | nil =>
      cases tokens with
      | nil => rfl
      | cons first rest =>
        cases first with
        | literal text => simp [Token.IsLiteral] at h
        | directive code rule => rfl
    | cons c' text => rw [ih (by simp)]; rfl

/-- Tokens that are cut as they should be are what their pieces make. -/
theorem Cut.eq_foldr {source : List Char} {tokens : List Token} (h : Cut source tokens) :
    tokens = (tokens.flatMap Token.pieces).foldr addPiece [] := by
  obtain ⟨-, hsolid, hresolved, hapart⟩ := h
  induction tokens with
  | nil => rfl
  | cons token rest ih =>
    have hrest : rest = (rest.flatMap Token.pieces).foldr addPiece [] :=
      ih (fun t ht => hsolid t (List.mem_cons_of_mem _ ht))
        (fun code rule ht => hresolved code rule (List.mem_cons_of_mem _ ht)) hapart.tail
    rw [List.flatMap_cons, List.foldr_append, ← hrest]
    cases token with
    | directive code rule =>
      rw [hresolved code rule List.mem_cons_self]
      rfl
    | literal text =>
      refine (foldr_addPiece_chars (hsolid _ List.mem_cons_self) ?_).symm
      intro first hfirst hliteral
      cases rest with
      | nil => simp at hfirst
      | cons next rest =>
        obtain rfl : next = first := by simpa using hfirst
        exact (List.isChain_cons_cons.1 hapart).1 ⟨trivial, hliteral⟩

/-- A text is cut in one way. -/
theorem cut_iff_eq_tokenize {source : List Char} {tokens : List Token} :
    Cut source tokens ↔ tokens = tokenize source := by
  constructor
  · intro h
    rw [h.eq_foldr, h.scan.eq_pieces]
    rfl
  · rintro rfl
    exact cut_tokenize source

theorem Cut.text_eq {source : List Char} {tokens : List Token} (h : Cut source tokens) :
    tokens.flatMap Token.text = source := by
  rw [← flatMap_text, h.scan.text_eq]

theorem Scan.isCode {cs : List Char} {ps : List Piece} (h : Scan cs ps) {code : List Char}
    (hmem : .code code ∈ ps) : IsCode code := by
  induction h with
  | done => simp at hmem
  | code hc _ ih =>
    rcases List.mem_cons.1 hmem with heq | hmem
    · obtain rfl := Piece.code.inj heq
      exact hc
    · exact ih hmem
  | char _ _ ih => exact ih (by simpa using hmem)

theorem Cut.isCode {source : List Char} {tokens : List Token} (h : Cut source tokens)
    {code : List Char} {rule : Directive} (hmem : .directive code rule ∈ tokens) : IsCode code :=
  h.scan.isCode (List.mem_flatMap.2 ⟨_, hmem, List.mem_singleton_self _⟩)

/-- No code begins within a literal, not even one that ends behind it. -/
theorem Cut.no_code_in_literal {source : List Char} {before after : List Token}
    {left right : List Char} {c : Char}
    (h : Cut source (before ++ .literal (left ++ c :: right) :: after)) {code : List Char}
    (hc : IsCode code) : ¬ code <+: c :: right ++ after.flatMap Token.text := by
  have hscan := h.scan
  rw [List.flatMap_append, List.flatMap_cons] at hscan
  simp only [Token.pieces, List.map_append, List.map_cons, List.append_assoc, List.cons_append]
    at hscan
  -- the reading from that character on
  rw [← List.append_assoc] at hscan
  have hhere := hscan.of_append
  have htext : (right.map Piece.char ++ after.flatMap Token.pieces).flatMap Piece.text
      = right ++ after.flatMap Token.text := by
    rw [List.flatMap_append, flatMap_text, List.flatMap_map]
    simp [Piece.text]
  rw [List.flatMap_cons, htext, Piece.text, List.singleton_append] at hhere
  exact hhere.no_code hc

/-- A pattern compiles to the reading of its source and to nothing else: literal texts and codes
spell the source, every code is one as a whole, none begins at a percent sign that is literal,
literals hold a character and have no literal beside them, and directives have the rules of their
codes. -/
theorem compile_cuts (format : String) :
    let source := (expand format).toList
    let tokens := (compile format).tokens
    (compile format).source.toList = source ∧
      (∀ others, Cut source others ↔ others = tokens) ∧
      tokens.flatMap Token.text = source ∧
      (∀ code rule, .directive code rule ∈ tokens → IsCode code ∧ rule = Directive.ofCode code) ∧
      (∀ before after left right code,
        tokens = before ++ .literal (left ++ '%' :: right) :: after → IsCode code →
          ¬ code <+: '%' :: right ++ after.flatMap Token.text) ∧
      (∀ text, .literal text ∈ tokens → text ≠ []) ∧
      tokens.IsChain fun a b => ¬ (a.IsLiteral ∧ b.IsLiteral) := by
  intro source tokens
  have hcut : Cut source tokens := cut_tokenize source
  refine ⟨rfl, fun others => cut_iff_eq_tokenize, hcut.text_eq, ?_, ?_, ?_, hcut.apart⟩
  · intro code rule hmem
    exact ⟨hcut.isCode hmem, hcut.resolved code rule hmem⟩
  · intro before after left right code htokens hc
    rw [htokens] at hcut
    exact hcut.no_code_in_literal hc
  · intro text hmem
    exact hcut.solid (.literal text) hmem

/-- A parameter that a line break cuts short is literal, and a code within it is still taken. -/
theorem compile_cuts_broken_parameter :
    (compile "5% %\x7bx\n%h%\x7ba\x7d%i").tokens =
        [ .literal ['5', '%', ' ', '%', '\x7b', 'x', '\n'], .directive ['%', 'h'] .remoteHost,
          .directive ['%', '\x7b', 'a', '\x7d', '%'] .unknown, .literal ['i'] ] ∧
      ∀ code, IsCode code →
        ¬ code <+: ['%', '\x7b', 'x', '\n', '%', 'h', '%', '\x7b', 'a', '\x7d', '%', 'i'] := by
  have htokens : (compile "5% %\x7bx\n%h%\x7ba\x7d%i").tokens =
      [ .literal ['5', '%', ' ', '%', '\x7b', 'x', '\n'], .directive ['%', 'h'] .remoteHost,
        .directive ['%', '\x7b', 'a', '\x7d', '%'] .unknown, .literal ['i'] ] := by cbv
  refine ⟨htokens, fun code hc => ?_⟩
  exact (compile_cuts "5% %\x7bx\n%h%\x7ba\x7d%i").2.2.2.2.1 [] _ ['5', '%', ' '] _ code htokens hc

end Pattern

end RequestLog
