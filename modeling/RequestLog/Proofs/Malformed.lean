import RequestLog.Proofs.FieldWise
import RequestLog.Pipeline.Source

/-! Malformed lines. Of the lines that hold one object, those are malformed that name a field twice,
and no others. -/

namespace RequestLog

namespace Record

open Json (ObjectText)

variable {pairs : List (String × Json)} {line : Bytes}

/-- Where the first field that is named again stands. -/
theorem repeated?_split {seen : List Field} {field : Field}
    (h : repeated? seen ((known pairs).map Prod.fst) = some field) :
    ∃ left value right, pairs = left ++ (field.name, value) :: right ∧
      repeated? seen ((known left).map Prod.fst) = none ∧
      (field ∈ seen ∨ field.name ∈ left.map Prod.fst) := by
  induction pairs generalizing seen with
  | nil => cases h
  | cons pair pairs ih =>
    obtain ⟨name, value⟩ := pair
    cases hfield : Field.ofName? name with
    | none =>
      rw [known_cons_of_none hfield] at h
      obtain ⟨left, value', right, rfl, hleft, hmem⟩ := ih h
      refine ⟨(name, value) :: left, value', right, rfl, ?_, ?_⟩
      · rw [known_cons_of_none hfield, hleft]
      · exact hmem.imp_right (List.mem_cons_of_mem _)
    | some found =>
      obtain rfl := ofName?_eq_some.1 hfield
      rw [known_cons_of_some hfield, List.map_cons, repeated?] at h
      split at h
      · rename_i hseen
        obtain rfl := Option.some.inj h
        exact ⟨[], value, pairs, rfl, rfl, .inl hseen⟩
      · rename_i hseen
        obtain ⟨left, value', right, rfl, hleft, hmem⟩ := ih h
        refine ⟨(found.name, value) :: left, value', right, rfl, ?_, ?_⟩
        · rw [known_cons_of_some hfield, List.map_cons, repeated?, if_neg hseen, hleft]
        · rcases hmem with hmem | hmem
          · rcases List.mem_cons.1 hmem with rfl | hmem
            · exact .inr List.mem_cons_self
            · exact .inl hmem
          · exact .inr (List.mem_cons_of_mem _ hmem)

/-- A text that names a field twice is refused for the first one that it does. -/
theorem ofBytes_of_not_knownOnce (h : ObjectText pairs line) (hk : ¬ KnownOnce pairs) :
    ∃ left field value right, pairs = left ++ (Field.name field, value) :: right ∧
      KnownOnce left ∧ field.name ∈ left.map Prod.fst ∧
      ofBytes line = .error (.duplicate field) := by
  cases hr : repeated? [] ((known pairs).map Prod.fst) with
  | none => exact absurd (repeated?_eq_none_iff.1 hr) hk
  | some field =>
    obtain ⟨left, value, right, hp, hleft, hmem⟩ := repeated?_split hr
    refine ⟨left, field, value, right, hp, repeated?_eq_none_iff.1 hleft,
      hmem.resolve_left List.not_mem_nil, ?_⟩
    rw [ofBytes_eq h, hr]

theorem not_blank (h : ObjectText pairs line) : line.all Blank.isAsciiBlank = false := by
  cases h
  have hbrace : Blank.isAsciiBlank 0x7B = false := rfl
  simp [hbrace]

end Record

namespace Source

open Json (ObjectText)
open Record (KnownOnce ofMembers)

variable {pairs : List (String × Json)} {line : Bytes}

theorem takeLine_of_ok (h : ObjectText pairs line) {record : Record}
    (hr : Record.ofBytes line = .ok record) (source : Source) :
    source.takeLine line = { source with
      stats := { source.stats with lines := source.stats.lines + 1 }, waiting := some record } := by
  simp [takeLine, Content.ofLine, Record.not_blank h, hr]

theorem takeLine_of_error (h : ObjectText pairs line) {fault : Record.Fault}
    (hr : Record.ofBytes line = .error fault) (source : Source) :
    (source.takeLine line).waiting = source.waiting ∧
      (source.takeLine line).stats = { source.stats with
        lines := source.stats.lines + 1, malformed := source.stats.malformed + 1 } := by
  simp [takeLine, Content.ofLine, Record.not_blank h, hr]

/-- A line that holds one object is forwarded, unless it names a field twice: then it is
malformed. -/
theorem takeLine_object {depth : Nat} (hd : depth ≤ Json.depthLimit) {members : Json.Members}
    (h : Json.finish (Json.readValue depth line) = .ok (.object members)) :
    (∃ pairs, ObjectText pairs line) ∧
      ∀ pairs, ObjectText pairs line →
        (KnownOnce pairs →
          Record.ofBytes line = .ok (ofMembers members) ∧
          ∀ source : Source, source.takeLine line = { source with
            stats := { source.stats with lines := source.stats.lines + 1 }
            waiting := some (ofMembers members) }) ∧
        (¬ KnownOnce pairs →
          ∃ left field value right, pairs = left ++ (Record.Field.name field, value) :: right ∧
            KnownOnce left ∧ field.name ∈ left.map Prod.fst ∧
            Record.ofBytes line = .error (.duplicate field) ∧
            ∀ source : Source, (source.takeLine line).waiting = source.waiting ∧
              (source.takeLine line).stats = { source.stats with
                lines := source.stats.lines + 1, malformed := source.stats.malformed + 1 }) := by
  have hread := Json.ofBytes_of_depth hd h
  obtain ⟨pairs₀, h₀, -⟩ := Json.ofBytes_object_iff.1 hread
  refine ⟨⟨pairs₀, h₀⟩, fun pairs hp => ⟨fun hk => ?_, fun hk => ?_⟩⟩
  · have hpairs := Json.ofBytes_object_iff.2 ⟨pairs, hp, rfl⟩
    obtain rfl := Json.object.inj (Except.ok.inj (hread.symm.trans hpairs))
    have hok := Record.ofBytes_of_knownOnce hp hk
    exact ⟨hok, takeLine_of_ok hp hok⟩
  · obtain ⟨left, field, value, right, rfl, hleft, hmem, herror⟩ :=
      Record.ofBytes_of_not_knownOnce hp hk
    exact ⟨left, field, value, right, rfl, hleft, hmem, herror, takeLine_of_error hp herror⟩

def twoKinds : Bytes :=
  0x7B :: (Record.spell "event\"" "\"a\"" ++ [Record.spell "event\"" "\"b\""].flatMap (0x2C :: ·)
    ++ [0x7D])

theorem twoKinds_object :
    ObjectText [("event", .string "a"), ("event", .string "b")] twoKinds :=
  @ObjectText.intro _ [] _ [] nofun
    (.some (Record.spell_text (by cbv) (by cbv)) (.cons (Record.spell_text (by cbv) (by cbv)) .nil))
    nofun

theorem twoKinds_read :
    Json.finish (Json.readValue 100 twoKinds) = .ok (.object [("event", .string "b")]) := by
  cbv

theorem takeLine_object_twoKinds :
    Json.finish (Json.readValue 100 twoKinds) = .ok (.object [("event", .string "b")]) ∧
      ∃ field, Record.ofBytes twoKinds = .error (.duplicate field) := by
  have honce : ¬ KnownOnce [("event", .string "a"), ("event", .string "b")] := by
    intro h
    exact absurd (h .kind) (by decide)
  obtain ⟨left, field, value, right, -, -, -, herror, -⟩ :=
    ((takeLine_object (by decide) twoKinds_read).2 _ twoKinds_object).2 honce
  exact ⟨twoKinds_read, field, herror⟩

/-- An object that is read as such and refused as a record, for a name that is given twice. -/
theorem twoKinds_malformed :
    ¬ ∀ (line : Bytes) (members : Json.Members),
      Json.finish (Json.readValue 100 line) = .ok (.object members) →
        (∃ record, Record.ofBytes line = .ok record) ∧
          ∀ source : Source, (source.takeLine line).stats.malformed = source.stats.malformed := by
  intro h
  obtain ⟨⟨record, hrecord⟩, -⟩ := h twoKinds _ twoKinds_read
  have herror : Record.ofBytes twoKinds = .error (.duplicate .kind) := by cbv
  cases hrecord.symm.trans herror

end Source

end RequestLog
