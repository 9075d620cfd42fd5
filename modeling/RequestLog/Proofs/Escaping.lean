import RequestLog.Proofs.Substitution

/-! Percent signs written twice. A text in which every percent sign is doubled is a pattern that
shows the text itself for every record: of all that looks like a code in it, only the doubled signs
are read as codes. -/

namespace RequestLog

namespace Pattern

/-- A percent sign stands for itself if it is written twice. -/
def escapeChar (c : Char) : List Char := if c = '%' then ['%', '%'] else [c]

def escape (text : String) : String := String.ofList (text.toList.flatMap escapeChar)

theorem escape_of_notMem {text : String} (h : '%' ∉ text.toList) : escape text = text := by
  have hplain : ∀ cs : List Char, '%' ∉ cs → cs.flatMap escapeChar = cs := by
    intro cs
    induction cs with
    | nil => exact fun _ => rfl
    | cons c cs ih =>
      intro hcs
      obtain ⟨hc, hcs⟩ := not_or.1 (mt List.mem_cons.2 hcs)
      rw [List.flatMap_cons, ih hcs, escapeChar, if_neg (Ne.symm hc), List.singleton_append]
  rw [escape, hplain text.toList h, String.ofList_toList]

/-! ### Reading an escaped text -/

theorem isCode_percent : IsCode ['%', '%'] := .intro .nothing (.inr rfl)

theorem ofCode_percent : Directive.ofCode ['%', '%'] = .percent := by cbv

/-- Every code begins with a percent sign. -/
theorem IsCode.not_prefix {code : List Char} (hc : IsCode code) {c : Char} (h : c ≠ '%')
    (after : List Char) : ¬ code <+: c :: after := by
  obtain ⟨-, -⟩ := hc
  intro hp
  exact h (List.cons_prefix_cons.1 hp).1.symm

def escapedPiece (c : Char) : Piece := if c = '%' then .code ['%', '%'] else .char c

/-- The reading comes to the end of each escaped character, so it never begins a code at the second
of two signs. -/
theorem scan_escaped (cs : List Char) : Scan (cs.flatMap escapeChar) (cs.map escapedPiece) := by
  induction cs with
  | nil => exact .done
  | cons c cs ih =>
    rw [List.flatMap_cons, List.map_cons, escapeChar, escapedPiece]
    split_ifs with h
    · exact .code isCode_percent ih
    · apply Scan.char _ ih
      intro code hc
      exact hc.not_prefix h _

theorem pieces_escaped (cs : List Char) : pieces (cs.flatMap escapeChar) = cs.map escapedPiece :=
  (scan_escaped cs).eq_pieces.symm

theorem eq_percent_of_mem_escaped {cs code : List Char} (h : .code code ∈ cs.map escapedPiece) :
    code = ['%', '%'] := by
  obtain ⟨c, -, hc⟩ := List.mem_map.1 h
  unfold escapedPiece at hc
  split_ifs at hc
  exact (Piece.code.inj hc).symm

end Pattern

/-! ### Showing it -/

theorem Renderer.shown?_percent (record : Record) : shown? .percent record = some "%" :=
  shown?_eq_some_iff.2 ⟨rfl, by decide⟩

namespace Piece

open Pattern (escapedPiece ofCode_percent)
open Renderer (token_of_some shown?_percent)

theorem shown_escaped (record : Record) (c : Char) : (escapedPiece c).shown record = [c] := by
  unfold escapedPiece
  split_ifs with h
  · rw [h, shown, ofCode_percent, (token_of_some _ (shown?_percent record)).1]
    rfl
  · rfl

theorem unresolved?_escaped (record : Record) (c : Char) :
    (escapedPiece c).unresolved? record = none := by
  unfold escapedPiece
  split_ifs with h
  · rw [unresolved?, ofCode_percent, (token_of_some _ (shown?_percent record)).2]
  · rfl

end Piece

namespace Pattern

theorem compile_eq_of_ne {format : String} (h : format ≠ "combined") :
    compile format = ⟨format, tokenize format.toList⟩ := by
  have hname : (format == "combined") = false := beq_eq_false_iff_ne.2 h
  simp [compile, expand, shorthands, hname]

theorem pieces_compile_escape {text : String} (h : escape text ≠ "combined") :
    (compile (escape text)).tokens.flatMap Token.pieces = text.toList.map escapedPiece := by
  rw [compile_eq_of_ne h, pieces_tokenize, escape, String.toList_ofList, pieces_escaped]

/-- Escaping round-trips: the escaped text, unless it is the name of a format, is a pattern that
shows the text for every record, with the separator after it and nothing left unresolved, and it has
no code but the doubled percent sign. A text without that sign is its own pattern. -/
theorem render_escape {text : String} (h : escape text ≠ "combined") (separator : String)
    (record : Record) (out : Rendering) :
    let renderer : Renderer := { pattern := compile (escape text), separator }
    renderer.renderInto record out
        = { text := text ++ separator, unresolved := out.unresolved } ∧
      (∀ code rule, .directive code rule ∈ renderer.pattern.tokens →
        code = ['%', '%'] ∧ rule = .percent) ∧
      ('%' ∉ text.toList → escape text = text) := by
  intro renderer
  have hresolved : Resolved renderer.pattern.tokens := tokenize_resolved _
  have hpieces := pieces_compile_escape h
  refine ⟨?_, ?_, escape_of_notMem⟩
  · have htext : (String.join (renderer.pattern.tokens.map (Renderer.tokenText record))).toList
        = text.toList := by
      rw [hresolved.shown, hpieces, List.flatMap_map]
      simp only [Piece.shown_escaped, List.flatMap_singleton']
    have hfound : renderer.unresolved record = [] := by
      rw [Renderer.unresolved, hresolved.unresolved, hpieces, List.filterMap_map]
      simp [Piece.unresolved?_escaped]
    rw [Renderer.renderInto_eq, hfound, List.append_nil, Renderer.render,
      String.toList_injective htext]
  · intro code rule hmem
    have hcode : .code code ∈ text.toList.map escapedPiece := by
      rw [← hpieces]
      exact List.mem_flatMap.2 ⟨_, hmem, List.mem_singleton_self _⟩
    obtain rfl := eq_percent_of_mem_escaped hcode
    exact ⟨rfl, (hresolved _ _ hmem).trans ofCode_percent⟩

/-- Signs in a row, a parameter, an arrow and a sign at the end. -/
theorem render_escape_codes :
    escape "%%h %\x7ba\x7di %>s %" = "%%%%h %%\x7ba\x7di %%>s %%" ∧
      ({ pattern := compile (escape "%%h %\x7ba\x7di %>s %"), separator := "\n" } :
        Renderer).renderInto
          { status := some 204 } { text := "stale", unresolved := [⟨"%y", .unknownDirective⟩] }
        = { text := "%%h %\x7ba\x7di %>s %" ++ "\n",
            unresolved := [⟨"%y", .unknownDirective⟩] } := by
  have hname : escape "%%h %\x7ba\x7di %>s %" ≠ "combined" := by decide
  exact ⟨by decide, (render_escape hname "\n" _ _).1⟩

end Pattern

end RequestLog
