import RequestLog.Proofs.Grammar
import RequestLog.Pipeline.Formatter

/-! Rendering is substitution. A line is the source of its pattern with each code replaced by its
value in the record, and what is reported of it are the codes that were replaced by a dash. -/

namespace RequestLog

namespace Pattern

/-! ### Substitution -/

/-- The source becomes the text for the record: codes are replaced from left to right, all else is
copied. Codes without a value are found on the way. -/
inductive Substitutes (record : Record) : List Char → List Char → List Unresolved → Prop where
  | done : Substitutes record [] [] []
  | value {code after rest : List Char} {found : List Unresolved} {text : String} (hc : IsCode code)
      (hv : (Directive.ofCode code).value? record = some text) (hne : text ≠ "")
      (h : Substitutes record after rest found) :
    Substitutes record (code ++ after) (text.toList ++ rest) found
  | missing {code after rest : List Char} {found : List Unresolved} (hc : IsCode code)
      (hk : Directive.ofCode code ≠ .unknown)
      (hv : ∀ text, (Directive.ofCode code).value? record = some text → text = "")
      (h : Substitutes record after rest found) :
    Substitutes record (code ++ after) ('-' :: rest)
      (⟨String.ofList code, .missingValue⟩ :: found)
  | unknown {code after rest : List Char} {found : List Unresolved} (hc : IsCode code)
      (hk : Directive.ofCode code = .unknown) (h : Substitutes record after rest found) :
    Substitutes record (code ++ after) ('-' :: rest)
      (⟨String.ofList code, .unknownDirective⟩ :: found)
  | char {c : Char} {after rest : List Char} {found : List Unresolved}
      (hc : ∀ code, IsCode code → ¬ code <+: c :: after) (h : Substitutes record after rest found) :
    Substitutes record (c :: after) (c :: rest) found

end Pattern

/-! ### Pieces -/

namespace Piece

def shown (record : Record) : Piece → List Char
  | .char c => [c]
  | .code chars => (Renderer.tokenText record (.directive chars (Directive.ofCode chars))).toList

def unresolved? (record : Record) : Piece → Option Unresolved
  | .char _ => none
  | .code chars => Renderer.tokenUnresolved? record (.directive chars (Directive.ofCode chars))

end Piece

namespace Renderer

variable {record : Record} {rule : Directive}

theorem shown?_eq_some_iff {text : String} :
    shown? rule record = some text ↔ rule.value? record = some text ∧ text ≠ "" := by
  simp [shown?, Option.filter_eq_some_iff]

theorem shown?_eq_none_iff :
    shown? rule record = none ↔ ∀ text, rule.value? record = some text → text = "" := by
  simp [shown?, Option.filter_eq_none_iff]

theorem shown?_unknown (record : Record) : shown? .unknown record = none := rfl

theorem token_of_some (code : List Char) {text : String} (h : shown? rule record = some text) :
    tokenText record (.directive code rule) = text ∧
      tokenUnresolved? record (.directive code rule) = none := by
  simp [tokenText, tokenUnresolved?, h]

theorem token_of_none (code : List Char) (h : shown? rule record = none) :
    tokenText record (.directive code rule) = "-" ∧
      tokenUnresolved? record (.directive code rule)
        = some ⟨String.ofList code, reasonOf rule⟩ := by
  simp [tokenText, tokenUnresolved?, h, fallback]

theorem reasonOf_of_known (h : rule ≠ .unknown) : reasonOf rule = .missingValue := by
  simp [reasonOf, Directive.isKnown, h]

end Renderer

namespace Pattern

open Renderer (shown? shown?_eq_some_iff shown?_eq_none_iff token_of_some token_of_none)

variable {record : Record} {cs text : List Char} {ps : List Piece} {found : List Unresolved}

theorem Scan.substitutes (h : Scan cs ps) :
    Substitutes record cs (ps.flatMap (·.shown record)) (ps.filterMap (·.unresolved? record)) := by
  induction h with
  | done => exact .done
  | @code code after ps hc _ ih =>
    rw [List.flatMap_cons, List.filterMap_cons]
    simp only [Piece.shown, Piece.unresolved?]
    cases hs : shown? (Directive.ofCode code) record with
    | some text =>
      obtain ⟨htext, hnone⟩ := token_of_some code hs
      obtain ⟨hv, hne⟩ := shown?_eq_some_iff.1 hs
      rw [htext, hnone]
      exact .value hc hv hne ih
    | none =>
      obtain ⟨htext, hsome⟩ := token_of_none code hs
      rw [htext, hsome]
      by_cases hk : Directive.ofCode code = .unknown
      · rw [hk]
        exact .unknown hc hk ih
      · rw [Renderer.reasonOf_of_known hk]
        exact .missing hc hk (shown?_eq_none_iff.1 hs) ih
  | char hc _ ih => exact .char hc ih

theorem Substitutes.scan (h : Substitutes record cs text found) :
    ∃ ps, Scan cs ps ∧ text = ps.flatMap (·.shown record) ∧
      found = ps.filterMap (·.unresolved? record) := by
  induction h with
  | done => exact ⟨[], .done, rfl, rfl⟩
  | @value code after rest found text hc hv hne _ ih =>
    obtain ⟨ps, hscan, rfl, rfl⟩ := ih
    obtain ⟨htext, hnone⟩ := token_of_some code (shown?_eq_some_iff.2 ⟨hv, hne⟩)
    refine ⟨.code code :: ps, .code hc hscan, ?_, ?_⟩
    · rw [List.flatMap_cons, Piece.shown, htext]
    · rw [List.filterMap_cons, Piece.unresolved?, hnone]
  | @missing code after rest found hc hk hv _ ih =>
    obtain ⟨ps, hscan, rfl, rfl⟩ := ih
    obtain ⟨htext, hsome⟩ := token_of_none code (shown?_eq_none_iff.2 hv)
    rw [Renderer.reasonOf_of_known hk] at hsome
    refine ⟨.code code :: ps, .code hc hscan, ?_, ?_⟩
    · rw [List.flatMap_cons, Piece.shown, htext]
      rfl
    · rw [List.filterMap_cons, Piece.unresolved?, hsome]
  | @unknown code after rest found hc hk _ ih =>
    obtain ⟨ps, hscan, rfl, rfl⟩ := ih
    obtain ⟨htext, hsome⟩ := token_of_none code (Renderer.shown?_unknown record)
    refine ⟨.code code :: ps, .code hc hscan, ?_, ?_⟩
    · rw [List.flatMap_cons, Piece.shown, hk, htext]
      rfl
    · rw [List.filterMap_cons, Piece.unresolved?, hk, hsome]
      rfl
  | @char c after rest found hc _ ih =>
    obtain ⟨ps, hscan, rfl, rfl⟩ := ih
    exact ⟨.char c :: ps, .char hc hscan, rfl, rfl⟩

/-- There is one substitution, that of the pieces. -/
theorem substitutes_iff :
    Substitutes record cs text found ↔
      text = (pieces cs).flatMap (·.shown record) ∧
        found = (pieces cs).filterMap (·.unresolved? record) := by
  constructor
  · intro h
    obtain ⟨ps, hscan, htext, hfound⟩ := h.scan
    obtain rfl := hscan.eq_pieces
    exact ⟨htext, hfound⟩
  · rintro ⟨rfl, rfl⟩
    exact (scan_pieces cs).substitutes

/-! ### Tokens -/

/-- The rule of every directive is that of its code. -/
def Resolved (tokens : List Token) : Prop :=
  ∀ code rule, .directive code rule ∈ tokens → rule = Directive.ofCode code

theorem Resolved.shown (record : Record) {tokens : List Token} (h : Resolved tokens) :
    (String.join (tokens.map (Renderer.tokenText record))).toList
      = (tokens.flatMap Token.pieces).flatMap (·.shown record) := by
  induction tokens with
  | nil => rfl
  | cons token tokens ih =>
    have hrest := ih fun code rule hmem => h code rule (List.mem_cons_of_mem _ hmem)
    rw [List.map_cons, String.join_cons, String.toList_append, hrest, List.flatMap_cons,
      List.flatMap_append]
    cases token with
    | literal text => simp [Token.pieces, Piece.shown, Renderer.tokenText, List.flatMap_map]
    | directive code rule =>
      obtain rfl := h code rule List.mem_cons_self
      simp [Token.pieces, Piece.shown]

theorem Resolved.unresolved (record : Record) {tokens : List Token} (h : Resolved tokens) :
    tokens.filterMap (Renderer.tokenUnresolved? record)
      = (tokens.flatMap Token.pieces).filterMap (·.unresolved? record) := by
  induction tokens with
  | nil => rfl
  | cons token tokens ih =>
    have hrest := ih fun code rule hmem => h code rule (List.mem_cons_of_mem _ hmem)
    rw [List.filterMap_cons, hrest, List.flatMap_cons, List.filterMap_append]
    cases token with
    | literal text =>
      have hnone : (text.map Piece.char).filterMap (·.unresolved? record) = [] := by
        simp [List.filterMap_map, Piece.unresolved?]
      rw [Token.pieces, hnone]
      rfl
    | directive code rule =>
      obtain rfl := h code rule List.mem_cons_self
      simp only [Token.pieces, List.filterMap_cons, List.filterMap_nil, Piece.unresolved?]
      split <;> rfl

/-- The codes that were replaced because they have no rule. -/
def unknownIn (found : List Unresolved) : List String :=
  (found.filter fun entry => entry.reason = .unknownDirective).map Unresolved.code

/-- They are the same for every record: those that the pattern lists. -/
theorem unknownIn_unresolved (record : Record) (pattern : Pattern) :
    unknownIn (pattern.tokens.filterMap (Renderer.tokenUnresolved? record))
      = pattern.unknownCodes := by
  unfold unknownIn unknownCodes
  induction pattern.tokens with
  | nil => rfl
  | cons token tokens ih =>
    rw [List.filterMap_cons, List.filterMap_cons]
    cases token with
    | literal text => exact ih
    | directive code rule =>
      cases hs : shown? rule record with
      | some text =>
        have hk : rule ≠ .unknown := by
          rintro rfl
          simp [Renderer.shown?_unknown] at hs
        rw [(token_of_some code hs).2]
        simpa [hk] using ih
      | none =>
        rw [(token_of_none code hs).2]
        by_cases hk : rule = .unknown
        · subst hk
          simpa [Renderer.reasonOf, Directive.isKnown] using ih
        · simpa [Renderer.reasonOf_of_known hk, hk] using ih

end Pattern

/-! ### Diagnostics -/

def Event.code? (event : Event) : Option String :=
  match event.fields.lookup "code" with
  | some (.text code) => some code
  | _ => none

namespace Formatter

def reportUnknown (now : Nat) : Limiter → List String → List Event × Limiter
  | limiter, [] => ([], limiter)
  | limiter, code :: codes =>
    let (event, limiter) :=
      limiter.report now .warn "unknown access log directive rendered as '-'" code
    let (events, limiter) := reportUnknown now limiter codes
    (event.toList ++ events, limiter)

theorem create_codes (renderer : Renderer) :
    (create renderer).2.filterMap Event.code? = renderer.pattern.unknownCodes := by
  simp only [create, List.filterMap_map]
  exact List.filterMap_some

/-- Nothing is reported but the codes without a rule. -/
theorem warnAll_eq (now : Nat) (limiter : Limiter) (found : List Unresolved) :
    warnAll now limiter found = reportUnknown now limiter (Pattern.unknownIn found) := by
  induction found generalizing limiter with
  | nil => rfl
  | cons entry found ih =>
    obtain ⟨code, reason⟩ := entry
    cases reason with
    | missingValue =>
      rw [warnAll, warn]
      simp [ih, Pattern.unknownIn]
    | unknownDirective =>
      rw [warnAll, warn]
      simp [ih, Pattern.unknownIn, reportUnknown]

end Formatter

namespace Pattern

/-- A pattern that is compiled and then rendered gives the substitution of its source, with the
separator after it, whatever the text was before; and what was found without a value comes after
what had been found. The codes without a rule among it are those of the pattern, which is what a
formatter warns of when it is created and what it reports with every record. -/
theorem renderInto_substitutes (format separator : String) (record : Record) (out : Rendering) :
    let renderer : Renderer := { pattern := compile format, separator }
    ∃ text found,
      renderer.renderInto record out
          = { text := String.ofList text ++ separator, unresolved := out.unresolved ++ found } ∧
        (∀ others more, Substitutes record (expand format).toList others more ↔
          others = text ∧ more = found) ∧
        unknownIn found = (compile format).unknownCodes ∧
        (Formatter.create renderer).2.filterMap Event.code? = (compile format).unknownCodes ∧
        ∀ buffer limiter now,
          let formatted := ({ renderer, buffer, limiter } : Formatter).format now record
          formatted.1 = ⟨Utf8.encode (String.ofList text ++ separator), found.length⟩ ∧
            (formatted.2.1, formatted.2.2.limiter)
              = Formatter.reportUnknown now limiter (compile format).unknownCodes := by
  intro renderer
  have hresolved : Resolved (compile format).tokens := tokenize_resolved _
  have hpieces : (compile format).tokens.flatMap Token.pieces = pieces (expand format).toList :=
    pieces_tokenize _
  have htext := hresolved.shown record
  have hfound := hresolved.unresolved record
  rw [hpieces] at htext hfound
  have hrender : renderer.render record
      = String.ofList ((pieces (expand format).toList).flatMap (·.shown record)) ++ separator := by
    rw [← htext, String.ofList_toList]
    rfl
  have hunresolved : renderer.unresolved record
      = (pieces (expand format).toList).filterMap (·.unresolved? record) := hfound
  have hunknown : unknownIn (renderer.unresolved record) = (compile format).unknownCodes :=
    unknownIn_unresolved record _
  refine ⟨_, _, ?_, fun others more => substitutes_iff, hunresolved ▸ hunknown,
    Formatter.create_codes renderer, fun buffer limiter now => ⟨?_, ?_⟩⟩
  · rw [Renderer.renderInto_eq, hrender, hunresolved]
  · rw [Formatter.format_line, hrender, hunresolved]
  · have hsame : Formatter.warnAll now limiter (renderer.unresolved record)
        = Formatter.reportUnknown now limiter (compile format).unknownCodes := by
      rw [Formatter.warnAll_eq, hunknown]
    rw [← hsame]
    simp only [Formatter.format, Renderer.renderInto_eq, List.nil_append]

/-- A value, a literal percent sign, a code without a rule and a header that is empty. -/
example :
    ({ pattern := compile "%s 5% %x%\x7breferer\x7di", separator := "|" } : Renderer).renderInto
        { status := some 204, client := { referer := some "" } }
        { text := "stale", unresolved := [⟨"%y", .unknownDirective⟩] } =
      { text := "204 5% --|"
        unresolved :=
          [ ⟨"%y", .unknownDirective⟩, ⟨"%x", .unknownDirective⟩,
            ⟨"%\x7breferer\x7di", .missingValue⟩ ] } := by
  cbv

end Pattern

end RequestLog
