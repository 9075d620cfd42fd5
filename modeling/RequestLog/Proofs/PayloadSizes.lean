import RequestLog.Proofs.FieldWise
import RequestLog.Proofs.JsonTexts
import RequestLog.Proofs.Rendering

/-! The size of a payload. A value whose numbers are integers has one compact text; it is read back
as the value, and its bytes are the size of a structured payload. So the size does not depend on how
the value was spelled in the record. -/

namespace RequestLog

open Utf8 (encodeChars length_encodeChars)

namespace Json

/-- Values with integers for numbers and with distinct names in each object, with at most `depth`
levels of nesting. -/
inductive Within : Nat → Json → Prop where
  | null {depth : Nat} : Within depth .null
  | bool {depth : Nat} (b : Bool) : Within depth (.bool b)
  | integer {depth : Nat} {n : Int} (h : IsWord n) : Within depth (.number (.integer n))
  | string {depth : Nat} (s : String) : Within depth (.string s)
  | array {depth : Nat} {items : List Json} (h : ∀ item ∈ items, Within depth item) :
    Within (depth + 1) (.array items)
  | object {depth : Nat} {members : Members} (hn : (members.map Prod.fst).Nodup)
      (h : ∀ member ∈ members, Within depth member.2) : Within (depth + 1) (.object members)

/-! ### The compact text -/

/-- A character is written as one of the ways to spell it. -/
theorem spellsChar_escapeChar (c : Char) : SpellsChar c (escapeChar c) := by
  have hlower : ∀ n < 16, Hex.lower n = Nat.digitChar n := by decide
  unfold escapeChar
  by_cases hq : c = '"'
  · rw [if_pos hq]
    exact .short (by simp [hq, shortEscapes])
  rw [if_neg hq]
  by_cases hb : c = '\\'
  · rw [if_pos hb]
    exact .short (by simp [hb, shortEscapes])
  rw [if_neg hb]
  split_ifs with hback hform hline hreturn htab hcontrol
  · exact .short (by simp [hback, shortEscapes])
  · exact .short (by simp [hform, shortEscapes])
  · exact .short (by simp [hline, shortEscapes])
  · exact .short (by simp [hreturn, shortEscapes])
  · exact .short (by simp [htab, shortEscapes])
  · have hdigit {n : Nat} (hn : n < 16) : IsHexDigit n (Hex.lower n) := ⟨hn, .inl (hlower n hn)⟩
    have hunit := IsUnit.intro (hdigit (n := 0) (by decide)) (hdigit (n := 0) (by decide))
      (hdigit (n := c.toNat / 16) (by omega)) (hdigit (n := c.toNat % 16) (by omega))
    rw [show ((0 * 16 + 0) * 16 + c.toNat / 16) * 16 + c.toNat % 16 = c.toNat by omega] at hunit
    exact .unit hunit
  · exact .plain (by omega) hq hb

theorem spellsString_quoteChars (s : String) : SpellsString s (quoteChars s) := by
  rw [quoteChars, List.flatMap_def]
  apply SpellsString.intro
  apply List.forall₂_map_right_iff.2
  exact List.forall₂_same.2 fun c _ => spellsChar_escapeChar c

theorem itemChars_eq (values : List Json) :
    itemChars values = [','].intercalate (values.map toChars) := by
  induction values with
  | nil => rfl
  | cons value values ih =>
    cases values with
    | nil => simp [itemChars, List.intercalate]
    | cons next values =>
      rw [itemChars, ih]
      · simp [List.intercalate]
      · exact List.cons_ne_nil _ _

def memberText (member : String × Json) : List Char :=
  quoteChars member.1 ++ ':' :: toChars member.2

theorem memberChars_eq (members : Members) :
    memberChars members = [','].intercalate (members.map memberText) := by
  induction members with
  | nil => rfl
  | cons member members ih =>
    cases members with
    | nil => simp [memberChars, memberText, List.intercalate]
    | cons next members =>
      rw [memberChars, ih]
      · simp [memberText, List.intercalate]
      · exact List.cons_ne_nil _ _

theorem Members.put_of_notMem {members : Members} {name : String} (h : name ∉ members.map Prod.fst)
    (value : Json) : members.put name value = members ++ [(name, value)] := by
  induction members with
  | nil => rfl
  | cons member members ih =>
    rw [List.map_cons, List.mem_cons, not_or] at h
    rw [put, if_neg (Ne.symm h.1), ih h.2]
    rfl

/-- Distinct names keep their members as they are. -/
theorem Members.ofPairs_of_nodup {pairs : List (String × Json)} (h : (pairs.map Prod.fst).Nodup) :
    ofPairs pairs = pairs := by
  induction pairs using List.reverseRecOn with
  | nil => rfl
  | append_singleton pairs pair ih =>
    have hput : ofPairs (pairs ++ [pair]) = (ofPairs pairs).put pair.1 pair.2 := by
      simp [ofPairs]
    rw [List.map_append, List.nodup_append] at h
    obtain ⟨hpairs, -, hdistinct⟩ := h
    have hname : pair.1 ∉ pairs.map Prod.fst := fun hmem => hdistinct _ hmem _ (by simp) rfl
    rw [hput, ih hpairs, put_of_notMem hname]

theorem Padded.of_part {part : List Char → Prop} {text : List Char} (h : part text) :
    Padded part text := by
  have hpadded : Padded part ([] ++ text ++ []) := .intro isWhite_nil h isWhite_nil
  rwa [List.nil_append, List.append_nil] at hpadded

theorem Spells.of_scalar {depth : Nat} {value : Json} {text : List Char}
    (h : SpellsScalar value text) : Spells depth value text := by
  cases depth with
  | zero => exact h
  | succ depth => exact .scalar h

/-- The compact text is one of the texts that denote the value. -/
theorem Within.spells {depth : Nat} {value : Json} (h : Within depth value) :
    Spells depth value value.toChars := by
  induction h with
  | null => exact .of_scalar .null
  | bool b =>
    cases b with
    | true => exact .of_scalar .boolTrue
    | false => exact .of_scalar .boolFalse
  | integer h => exact .of_scalar (.integer h)
  | string s => exact .of_scalar (.string (spellsString_quoteChars s))
  | @array depth items _ ih =>
    rw [toChars, itemChars_eq]
    cases items with
    | nil => exact SpellsWith.noItems isWhite_nil
    | cons item items =>
      apply SpellsWith.items
      apply List.forall₂_map_right_iff.2
      exact List.forall₂_same.2 fun value hvalue => .of_part (ih value hvalue)
  | @object depth members hn _ ih =>
    rw [toChars, memberChars_eq]
    cases members with
    | nil => exact SpellsWith.noMembers isWhite_nil
    | cons member members =>
      have hmembers : List.Forall₂ (SpellsMember (Spells depth)) (member :: members)
          ((member :: members).map memberText) := by
        apply List.forall₂_map_right_iff.2
        refine List.forall₂_same.2 fun pair hpair => ?_
        exact .intro (.of_part (spellsString_quoteChars pair.1)) (.of_part (ih pair hpair))
      have htexts := SpellsWith.members hmembers
      rw [Members.ofPairs_of_nodup hn] at htexts
      exact htexts

/-! ### The record around it -/

theorem membersText_of_forall₂ {item : Bytes → Read Json} {pairs : List (String × Json)}
    {texts : List Bytes} (h : List.Forall₂ (MemberText item) pairs texts) (hne : pairs ≠ []) :
    MembersText item pairs ([0x2C].intercalate texts) := by
  obtain ⟨pair, pairs, rfl⟩ := List.exists_cons_of_ne_nil hne
  obtain ⟨text, texts, hpair, hpairs, rfl⟩ := List.forall₂_cons_left_iff.1 h
  rw [intercalate_cons]
  exact .some hpair hpairs

end Json

namespace Record

open Json (IsWhite AllSpace Padded SpellsString SpellsMember MemberText ObjectText)

/-- The text of a record whose payload has this text, with white space around it. The other members
are any that can be read, and no field is named twice. -/
inductive PayloadLine (text : List Char) : Bytes → Prop where
  | intro {left right : List (String × Json)} {lefts rights : List Bytes} {start stop : Bytes}
      {label before after : List Char}
      (hl : List.Forall₂ (MemberText (Json.readValue (Json.depthLimit - 1))) left lefts)
      (hr : List.Forall₂ (MemberText (Json.readValue (Json.depthLimit - 1))) right rights)
      (hlabel : Padded (SpellsString "responsePayload") label) (hb : IsWhite before)
      (ha : IsWhite after) (hstart : AllSpace start) (hstop : AllSpace stop)
      (honce : KnownOnce (left ++ ("responsePayload", .null) :: right)) :
    PayloadLine text (start ++ 0x7B :: ([0x2C].intercalate
      (lefts ++ encodeChars (label ++ ':' :: (before ++ text ++ after)) :: rights) ++ 0x7D :: stop))

variable {depth : Nat} {value : Json} {text : List Char} {line : Bytes}

theorem PayloadLine.objectText (hd : depth < Json.depthLimit) (hv : Json.Spells depth value text)
    (h : PayloadLine text line) :
    ∃ left right, ObjectText (left ++ ("responsePayload", value) :: right) line ∧
      KnownOnce (left ++ ("responsePayload", value) :: right) := by
  obtain ⟨hl, hr, hlabel, hb, ha, hstart, hstop, honce⟩ := h
  rename_i left right lefts rights start stop label before after
  have hitem (value : Json) (text : List Char) (h : Json.Spells depth value text) :
      Json.readValue (Json.depthLimit - 1) (encodeChars text) = .ok (value, []) :=
    Json.readValue_mono (Nat.le_sub_one_of_lt hd) h.reads
  have hmember : MemberText (Json.readValue (Json.depthLimit - 1)) ("responsePayload", value)
      (encodeChars (label ++ ':' :: (before ++ text ++ after))) :=
    SpellsMember.reads hitem (.intro hlabel (.intro hb hv ha))
  have htexts : List.Forall₂ (MemberText (Json.readValue (Json.depthLimit - 1)))
      (left ++ ("responsePayload", value) :: right) (lefts ++ _ :: rights) :=
    List.rel_append hl (.cons hmember hr)
  refine ⟨left, right, ?_, knownOnce_replace honce⟩
  exact .intro hstart (Json.membersText_of_forall₂ htexts (by simp)) hstop

/-- The only value under the name of a field is the one that counts. -/
theorem lookup_of_knownOnce {left right : List (String × Json)} {field : Field}
    (h : KnownOnce (left ++ (field.name, value) :: right)) :
    (Json.Members.ofPairs (left ++ (field.name, value) :: right)).lookup field.name =
      some value := by
  have hmem : (field, value) ∈ known (left ++ (field.name, value) :: right) :=
    List.mem_filterMap.2 ⟨(field.name, value), by simp, by simp [ofName?_eq_some.2 rfl]⟩
  rw [knownOnce_iff, ← List.nodup_reverse, ← List.map_reverse] at h
  rw [Json.Members.lookup_ofPairs, ← lookup_known_reverse, lookup_eq_some_iff_mem h,
    List.mem_reverse]
  exact hmem

theorem PayloadLine.reads (hd : depth < Json.depthLimit) (hv : Json.Spells depth value text)
    (h : PayloadLine text line) :
    ∃ record, ofBytes line = .ok record ∧ record.payload = payloadOf? value := by
  obtain ⟨left, right, hobject, honce⟩ := h.objectText hd hv
  have hlookup : (Json.Members.ofPairs (left ++ ("responsePayload", value) :: right)).lookup
      Field.payload.name = some value := lookup_of_knownOnce honce
  refine ⟨_, ofBytes_of_knownOnce hobject honce, ?_⟩
  exact congrArg (Option.bind · payloadOf?) hlookup

/-! ### Sizes -/

/-- What a line shows as the size of a payload: a dash for null, and otherwise the bytes of its
text. A string is its own text, any other value has its compact one. -/
def sizeText : Json → String
  | .null => "-"
  | .string s => toString s.utf8ByteSize
  | value => toString value.toText.utf8ByteSize

theorem size_text (s : String) : (Payload.text s).size = s.utf8ByteSize := by
  rw [Payload.size, Utf8.encode, length_encodeChars, String.ofList_toList]

theorem size_structured (value : Json) :
    (Payload.structured value).size = value.toText.utf8ByteSize :=
  length_encodeChars value.toChars

theorem shown?_size {record : Record} {payload : Payload} (h : record.payload = some payload) :
    Renderer.shown? .responseSize record = some (toString payload.size) := by
  rw [Renderer.shown?, Directive.value?, h]
  simp

theorem render_size {record : Record} (h : record.payload = payloadOf? value) (separator : String) :
    Renderer.render ⟨Pattern.compile "%b", separator⟩ record = sizeText value ++ separator := by
  have htokens : (Pattern.compile "%b").tokens = [.directive "%b".toList .responseSize] := by cbv
  rw [Renderer.render_directive htokens]
  congr 1
  cases value with
  | null =>
    rw [payloadOf?] at h
    rw [Renderer.shown?, Directive.value?, h]
    rfl
  | string s =>
    rw [shown?_size h]
    exact congrArg toString (size_text s)
  | _ =>
    rw [shown?_size h]
    exact congrArg toString (size_structured _)

/-- The size of a payload depends on its value alone. The compact text of the value denotes it and
is read back as the value, members in their order; its bytes are the size of a structured payload.
Of every text that denotes the value, among any other members of a record, the reader makes the same
payload, and the line shows the same size: that of a string is the size of its own text, and null
shows as a dash. -/
theorem payload_size_canonical (hd : depth < Json.depthLimit) (hv : value.Within depth) :
    Json.Spells depth value value.toText.toList ∧
      readValue (0x3A :: Utf8.encode value.toText) = .ok (value, []) ∧
      (Payload.structured value).size = value.toText.utf8ByteSize ∧
      ∀ text line, Json.Spells depth value text → PayloadLine text line →
        ∃ record, ofBytes line = .ok record ∧ record.payload = payloadOf? value ∧
          ∀ separator,
            Renderer.render ⟨Pattern.compile "%b", separator⟩ record =
              sizeText value ++ separator := by
  have htext : value.toText.toList = value.toChars := String.toList_ofList
  have hread : Json.readValue (Json.depthLimit - 1) (encodeChars value.toChars) = .ok (value, []) :=
    Json.readValue_mono (Nat.le_sub_one_of_lt hd) hv.spells.reads
  refine ⟨htext ▸ hv.spells, ?_, size_structured value, fun text line hspells hline => ?_⟩
  · rw [Utf8.encode, htext, readValue]
    have hcolon :
        Json.colon (0x3A :: encodeChars value.toChars) = .ok (encodeChars value.toChars) :=
      Json.colon_of_split (List.forall_mem_nil _) _
    simp only [hcolon, bind, Except.bind, hread]
    rfl
  · obtain ⟨record, hrecord, hpayload⟩ := hline.reads hd hspells
    exact ⟨record, hrecord, hpayload, render_size hpayload⟩

/-- An object in a record, with space and escapes that its compact text does not have. -/
theorem payload_size_canonical_escaped :
    let value : Json := .object [("a", .string "é")]
    let line :=
      "\x7b\"event\":\"response\",\"responsePayload\":\x7b \"\\u0061\":\"\\u00E9\"\x7d\x7d"
    value.toText = "\x7b\"a\":\"é\"\x7d" ∧
      ∃ record, ofBytes (Utf8.encode line) = .ok record ∧
        Renderer.render ⟨Pattern.compile "%b", "\n"⟩ record = "10\n" := by
  intro value line
  have hwithin : value.Within 100 := by
    refine .object (by decide) fun member hmember => ?_
    rw [List.mem_singleton.1 hmember]
    exact .string "é"
  have hlower {n : Nat} (hn : n < 16) : Json.IsHexDigit n (Nat.digitChar n) := ⟨hn, .inl rfl⟩
  have hupper {n : Nat} (hn : n < 16) : Json.IsHexDigit n (Nat.digitChar n).toUpper :=
    ⟨hn, .inr rfl⟩
  have hname : Json.SpellsString "a" ['"', '\\', 'u', '0', '0', '6', '1', '"'] :=
    @Json.SpellsString.intro "a" [['\\', 'u', '0', '0', '6', '1']] (.cons (.unit (.intro
      (hlower (n := 0) (by decide)) (hlower (n := 0) (by decide)) (hlower (n := 6) (by decide))
      (hlower (n := 1) (by decide)))) .nil)
  have hvalue : Json.SpellsString "é" ['"', '\\', 'u', '0', '0', 'E', '9', '"'] :=
    @Json.SpellsString.intro "é" [['\\', 'u', '0', '0', 'E', '9']] (.cons (.unit (.intro
      (hlower (n := 0) (by decide)) (hlower (n := 0) (by decide)) (hupper (n := 14) (by decide))
      (hlower (n := 9) (by decide)))) .nil)
  have hmember : SpellsMember (Json.Spells 99) ("a", .string "é")
      " \"\\u0061\":\"\\u00E9\"".toList :=
    .intro (@Padded.intro _ [' '] _ [] (by simp [IsWhite]) hname Json.isWhite_nil)
      (.of_part (Json.Spells.of_scalar (.string hvalue)))
  have hspells : Json.Spells 100 value "\x7b \"\\u0061\":\"\\u00E9\"\x7d".toList :=
    @Json.SpellsWith.members _ ("a", .string "é") [] [_] (.cons hmember .nil)
  have honce : KnownOnce [("event", .string "response"), ("responsePayload", .null)] := by
    intro field
    cases field <;> decide
  have hevent : MemberText (Json.readValue (Json.depthLimit - 1)) ("event", .string "response")
      (spell "event\"" "\"response\"") := spell_text (by cbv) (by cbv)
  have hencode : Utf8.encode line = 0x7B :: ([0x2C].intercalate [spell "event\"" "\"response\"",
      encodeChars (Json.quoteChars "responsePayload" ++ ':' ::
        ([] ++ "\x7b \"\\u0061\":\"\\u00E9\"\x7d".toList ++ []))] ++ [0x7D]) := by
    cbv
  have hline : PayloadLine "\x7b \"\\u0061\":\"\\u00E9\"\x7d".toList (Utf8.encode line) := by
    rw [hencode]
    exact @PayloadLine.intro _ [_] [] [_] [] [] [] _ [] [] (.cons hevent .nil) .nil
      (.of_part (Json.spellsString_quoteChars "responsePayload")) Json.isWhite_nil Json.isWhite_nil
      (List.forall_mem_nil _) (List.forall_mem_nil _) honce
  obtain ⟨-, -, -, hrendered⟩ := payload_size_canonical (by decide) hwithin
  obtain ⟨record, hrecord, -, hshown⟩ := hrendered _ _ hspells hline
  exact ⟨by cbv, record, hrecord, (hshown "\n").trans (by cbv)⟩

end Record

end RequestLog
