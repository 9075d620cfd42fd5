import RequestLog.Pattern.Renderer
import Mathlib

/-! Lines are not empty unless both the pattern and the separator are: every token of a pattern
shows at least one character. -/

namespace RequestLog

namespace Pattern

theorem pieces_ne_nil {cs : List Char} (h : cs ≠ []) : pieces cs ≠ [] := by
  cases cs with
  | nil => exact absurd rfl h
  | cons c rest =>
    rw [pieces]
    split <;> simp

theorem addPiece_ne_nil (piece : Piece) (tokens : List Token) : addPiece piece tokens ≠ [] := by
  unfold addPiece
  split <;> simp

theorem tokenize_ne_nil {cs : List Char} (h : cs ≠ []) : tokenize cs ≠ [] := by
  unfold tokenize
  cases hp : pieces cs with
  | nil => exact absurd hp (pieces_ne_nil h)
  | cons piece pieces => exact addPiece_ne_nil _ _

theorem expand_ne_empty {format : String} (h : format ≠ "") : expand format ≠ "" := by
  unfold expand shorthands
  cases hf : format == "combined" with
  | false => simpa [List.lookup, hf] using h
  | true =>
    simp only [List.lookup, hf, Option.getD_some]
    decide

end Pattern

def Token.IsSolid : Token → Prop
  | .literal text => text ≠ []
  | .directive _ _ => True

namespace Pattern

theorem addPiece_solid (piece : Piece) {tokens : List Token} (h : ∀ token ∈ tokens, token.IsSolid) :
    ∀ token ∈ addPiece piece tokens, token.IsSolid := by
  unfold addPiece
  split <;> simp_all [Token.IsSolid]

theorem tokenize_solid (cs : List Char) : ∀ token ∈ tokenize cs, token.IsSolid := by
  unfold tokenize
  induction pieces cs with
  | nil => simp
  | cons piece pieces ih => exact addPiece_solid piece ih

end Pattern

namespace Renderer

theorem shown?_ne_empty {rule : Directive} {record : Record} {text : String}
    (h : shown? rule record = some text) : text ≠ "" := by
  obtain ⟨-, hne⟩ := Option.filter_eq_some_iff.1 h
  simpa using hne

theorem tokenText_ne_empty (record : Record) {token : Token} (h : token.IsSolid) :
    tokenText record token ≠ "" := by
  cases token with
  | literal text =>
    have hne : text ≠ [] := h
    simpa [tokenText] using hne
  | directive code rule =>
    unfold tokenText
    cases hs : shown? rule record with
    | none => simp [hs, fallback]
    | some text => simpa [hs] using shown?_ne_empty hs

/-- The line of a pattern that is one directive. -/
theorem render_directive {format separator : String} {code : List Char} {rule : Directive}
    (h : (Pattern.compile format).tokens = [.directive code rule]) (record : Record) :
    render ⟨Pattern.compile format, separator⟩ record
      = (shown? rule record).getD fallback ++ separator := by
  simp [render, h, tokenText, String.join_cons]

/-- A line holds a character if its pattern or its separator does. -/
theorem render_ne_empty {format separator : String} (h : format ≠ "" ∨ separator ≠ "")
    (record : Record) : render ⟨Pattern.compile format, separator⟩ record ≠ "" := by
  intro hempty
  obtain ⟨htokens, hseparator⟩ := String.append_eq_empty_iff.1 hempty
  rcases h with h | h
  · have hchars : (Pattern.expand format).toList ≠ [] := by simpa using Pattern.expand_ne_empty h
    obtain ⟨token, tokens, htok⟩ := List.exists_cons_of_ne_nil (Pattern.tokenize_ne_nil hchars)
    have hsolid := Pattern.tokenize_solid (Pattern.expand format).toList token (by simp [htok])
    simp only [Pattern.compile, htok, List.map_cons, String.join_cons] at htokens
    exact tokenText_ne_empty record hsolid (String.append_eq_empty_iff.1 htokens).1
  · exact h hseparator

end Renderer

theorem Utf8.encode_ne_nil {s : String} (h : s ≠ "") : encode s ≠ [] := by
  unfold encode encodeChars
  have hne : s.toList ≠ [] := by simpa using h
  obtain ⟨c, cs, hc⟩ := List.exists_cons_of_ne_nil hne
  simp [hc, String.utf8EncodeChar_ne_nil]

end RequestLog
