import RequestLog.Pattern.Basic

/-!
Rendering a record into one line. A directive without a value shows a dash and is reported.
-/

namespace RequestLog

inductive Unresolved.Reason where
  | unknownDirective
  | missingValue
deriving DecidableEq, Repr

structure Unresolved where
  code : String
  reason : Unresolved.Reason
deriving DecidableEq, Repr

/-- A text, with the directives that showed a dash in it and in others before it. -/
structure Rendering where
  text : String := ""
  unresolved : List Unresolved := []
deriving DecidableEq, Repr

structure Renderer where
  pattern : Pattern := Pattern.compile Pattern.combined
  separator : String := "\n"
deriving DecidableEq, Repr

namespace Renderer

def fallback : String := "-"

def reasonOf (directive : Directive) : Unresolved.Reason :=
  if directive.isKnown then .missingValue else .unknownDirective

/-- The value of a directive, unless the record has none or an empty one. -/
def shown? (directive : Directive) (record : Record) : Option String :=
  (directive.value? record).filter (!·.isEmpty)

def addToken (record : Record) (out : Rendering) : Token → Rendering
  | .literal text => { out with text := out.text ++ String.ofList text }
  | .directive code rule =>
    match shown? rule record with
    | some text => { out with text := out.text ++ text }
    | none =>
      { text := out.text ++ fallback
        unresolved := out.unresolved ++ [⟨String.ofList code, reasonOf rule⟩] }

/-- Puts the line of a record with its separator in the place of the text. The directives that show
a dash come after those that are there. -/
def renderInto (renderer : Renderer) (record : Record) (out : Rendering) : Rendering :=
  let out := renderer.pattern.tokens.foldl (addToken record) { out with text := "" }
  { out with text := out.text ++ renderer.separator }

def tokenText (record : Record) : Token → String
  | .literal text => String.ofList text
  | .directive _ rule => (shown? rule record).getD fallback

def tokenUnresolved? (record : Record) : Token → Option Unresolved
  | .literal _ => none
  | .directive code rule =>
    if (shown? rule record).isSome then none else some ⟨String.ofList code, reasonOf rule⟩

def render (renderer : Renderer) (record : Record) : String :=
  String.join (renderer.pattern.tokens.map (tokenText record)) ++ renderer.separator

def unresolved (renderer : Renderer) (record : Record) : List Unresolved :=
  renderer.pattern.tokens.filterMap (tokenUnresolved? record)

theorem foldl_addToken (record : Record) (tokens : List Token) (out : Rendering) :
    tokens.foldl (addToken record) out =
      { text := out.text ++ String.join (tokens.map (tokenText record))
        unresolved := out.unresolved ++ tokens.filterMap (tokenUnresolved? record) } := by
  induction tokens generalizing out with
  | nil => simp
  | cons token tokens ih =>
    rw [List.foldl_cons, ih, List.filterMap_cons]
    cases token with
    | literal text => simp [addToken, tokenText, tokenUnresolved?, String.append_assoc]
    | directive code rule =>
      cases hs : shown? rule record <;>
        simp [addToken, tokenText, tokenUnresolved?, hs, String.append_assoc]

/-- What the text was before does not matter. -/
theorem renderInto_eq (renderer : Renderer) (record : Record) (out : Rendering) :
    renderer.renderInto record out =
      { text := renderer.render record
        unresolved := out.unresolved ++ renderer.unresolved record } := by
  simp [renderInto, foldl_addToken, render, unresolved]

end Renderer

end RequestLog
