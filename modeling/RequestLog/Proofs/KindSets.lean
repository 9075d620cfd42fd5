import RequestLog.Proofs.CharacterBytes
import RequestLog.Proofs.EndToEnd

/-! Kinds as a set. A filter keeps its kinds in the order of their bytes and each once, so that
lists with the same kinds make the same filter, and a record is accepted for its kind alone. -/

namespace RequestLog

namespace KindFilter

theorem mem_kinds_ofList {kind : String} {kinds : List String} :
    kind ∈ (ofList kinds).kinds ↔ kind ∈ kinds := by
  rw [ofList, mem_dropRepeats, List.mem_mergeSort]

/-- Equal neighbours are all that can repeat in a sorted list. -/
theorem dropRepeats_increasing {kinds : List String} (h : kinds.Pairwise (· ≤ ·)) :
    (dropRepeats kinds).Pairwise (· < ·) := by
  fun_induction dropRepeats kinds with
  | case1 => exact .nil
  | case2 kind => exact List.pairwise_singleton _ _
  | case3 kind rest ih => exact ih h.of_cons
  | case4 a b rest hne ih =>
    obtain ⟨ha, hrest⟩ := List.pairwise_cons.1 h
    refine List.pairwise_cons.2 ⟨fun kind hkind => ?_, ih hrest⟩
    have hlt : a < b := lt_of_le_of_ne (ha b List.mem_cons_self) hne
    rcases List.mem_cons.1 ((mem_dropRepeats kind _).1 hkind) with rfl | hmem
    · exact hlt
    · exact hlt.trans_le (List.rel_of_pairwise_cons hrest hmem)

theorem kinds_increasing (kinds : List String) : (ofList kinds).kinds.Pairwise (· < ·) := by
  apply dropRepeats_increasing
  have hsorted : (kinds.mergeSort before).Pairwise fun a b => before a b = true := by
    apply List.pairwise_mergeSort
    · intro a b c hab hbc
      exact decide_eq_true ((of_decide_eq_true hab).trans (of_decide_eq_true hbc))
    · intro a b
      simpa [before] using le_total a b
  exact hsorted.imp of_decide_eq_true

/-- Lists with the same kinds, in whatever order and however often each. -/
def SameKinds (kinds others : List String) : Prop := ∀ kind, kind ∈ kinds ↔ kind ∈ others

theorem ofList_eq_iff {kinds others : List String} :
    ofList kinds = ofList others ↔ SameKinds kinds others := by
  constructor
  · intro h kind
    rw [← mem_kinds_ofList, h, mem_kinds_ofList]
  · intro h
    have heq : (ofList kinds).kinds = (ofList others).kinds := by
      apply (kinds_increasing kinds).eq_of_mem_iff (kinds_increasing others)
      intro kind
      rw [mem_kinds_ofList, h kind, mem_kinds_ofList]
    exact congrArg KindFilter.mk heq

theorem accepts_ofList_iff {kinds : List String} {record : Record} :
    (ofList kinds).accepts record = true ↔
      ∃ kind ∈ kinds, Utf8.encode kind = Utf8.encode record.kind := by
  rw [accepts_ofList, decide_eq_true_iff]
  constructor
  · exact fun hmem => ⟨record.kind, hmem, rfl⟩
  · rintro ⟨kind, hmem, hbytes⟩
    rwa [← Utf8.encode_inj.1 hbytes]

end KindFilter

def Settings.withKinds (settings : Settings) (kinds : List String) : Settings :=
  { settings with delivery := { settings.delivery with eventKinds := kinds } }

namespace KindFilter

/-- A filter is the set of the kinds it is built from. Two lists make the same filter exactly if
they have the same kinds; the kinds are kept in strictly increasing order of their bytes; a record
is accepted exactly if its kind has the bytes of one in the list. So it makes no difference to the
lines of a pipeline in which order its settings name the kinds, and how often. -/
theorem ofList_canonical (kinds others : List String) :
    (ofList kinds = ofList others ↔ SameKinds kinds others) ∧
      ((ofList kinds).kinds.map Utf8.encode).Pairwise (· < ·) ∧
      (∀ record, (ofList kinds).accepts record = true ↔
        ∃ kind ∈ kinds, Utf8.encode kind = Utf8.encode record.kind) ∧
      (SameKinds kinds others → ∀ (settings : Settings) (records : List Record),
        RunLoop.linesFor (settings.withKinds kinds) records
          = RunLoop.linesFor (settings.withKinds others) records) := by
  refine ⟨ofList_eq_iff, ?_, fun record => accepts_ofList_iff, fun h settings records => ?_⟩
  · exact List.pairwise_map.2 ((kinds_increasing kinds).imp Utf8.encode_lt)
  · simp only [RunLoop.linesFor, Settings.withKinds, ofList_eq_iff.2 h]

/-- By its bytes a capital comes before a small letter, and a letter with an accent after both. -/
theorem ofList_canonical_accented :
    SameKinds ["é", "z", "Z", "é"] ["Z", "é", "z"] ∧
      (ofList ["é", "z", "Z", "é"]).kinds = ["Z", "z", "é"] ∧
      ofList ["é", "z", "Z", "é"] = ofList ["Z", "é", "z"] ∧
      ∀ (settings : Settings) (records : List Record),
        RunLoop.linesFor (settings.withKinds ["é", "z", "Z", "é"]) records
          = RunLoop.linesFor (settings.withKinds ["Z", "é", "z"]) records := by
  have hsame : SameKinds ["é", "z", "Z", "é"] ["Z", "é", "z"] := by
    intro kind
    simp only [List.mem_cons, List.not_mem_nil, or_false]
    tauto
  obtain ⟨hequal, -, -, hlines⟩ := ofList_canonical ["é", "z", "Z", "é"] ["Z", "é", "z"]
  exact ⟨hsame, by cbv, hequal.2 hsame, hlines hsame⟩

end KindFilter

end RequestLog
