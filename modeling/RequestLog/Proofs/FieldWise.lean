import RequestLog.Proofs.ObjectText

/-! Records field by field. A record is read from the members of its object one by one, in any
order; what a field holds depends on the value under its own name alone. -/

namespace RequestLog

/-! ### Look-ups -/

theorem lookup_cons_eq {α β : Type} [DecidableEq α] (pair : α × β) (pairs : List (α × β)) (a : α) :
    (pair :: pairs).lookup a = if a = pair.1 then some pair.2 else pairs.lookup a := by
  rw [List.lookup_cons]
  by_cases h : a = pair.1
  · simp [h]
  · simp [h, beq_eq_false_iff_ne.2 h]

/-- With distinct keys a look-up finds what is in the list, wherever it stands. -/
theorem lookup_eq_some_iff_mem {α β : Type} [DecidableEq α] {l : List (α × β)}
    (hl : (l.map Prod.fst).Nodup) {a : α} {b : β} : l.lookup a = some b ↔ (a, b) ∈ l := by
  induction l with
  | nil => simp
  | cons pair l ih =>
    rw [List.map_cons, List.nodup_cons] at hl
    rw [lookup_cons_eq, List.mem_cons]
    split
    · rename_i ha
      subst ha
      have hnot : (pair.1, b) ∉ l := fun h => hl.1 (List.mem_map.2 ⟨_, h, rfl⟩)
      simp [hnot, Prod.ext_iff, eq_comm]
    · rename_i ha
      simp [ih hl.2, Prod.ext_iff, ha]

namespace Json.Members

theorem lookup_put (members : Members) (name : String) (value : Json) (other : String) :
    (members.put name value).lookup other =
      if other = name then some value else members.lookup other := by
  induction members with
  | nil => rw [put, lookup_cons_eq]
  | cons member members ih =>
    obtain ⟨n, v⟩ := member
    rw [put]
    split
    · rename_i hn
      rw [lookup_cons_eq, lookup_cons_eq, ← hn]
      by_cases h : other = n <;> simp [h]
    · rename_i hn
      rw [lookup_cons_eq, lookup_cons_eq, ih]
      by_cases h : other = n
      · simp [h, hn]
      · simp [h]

/-- Of several values under one name the last counts. -/
theorem lookup_ofPairs (pairs : List (String × Json)) (name : String) :
    (ofPairs pairs).lookup name = pairs.reverse.lookup name := by
  induction pairs using List.reverseRecOn with
  | nil => rfl
  | append_singleton pairs pair ih =>
    have hput : ofPairs (pairs ++ [pair]) = (ofPairs pairs).put pair.1 pair.2 := by
      simp [ofPairs]
    rw [hput, lookup_put, ih, List.reverse_append]
    exact (lookup_cons_eq pair pairs.reverse name).symm

end Json.Members

namespace Record

open Json (ObjectText ReadsMembers)

/-- The members with the name of a field, in the order of the text. -/
def known (pairs : List (String × Json)) : List (Field × Json) :=
  pairs.filterMap fun pair => (Field.ofName? pair.1).map (·, pair.2)

/-- The first field that is named again, or was seen before. -/
def repeated? (seen : List Field) : List Field → Option Field
  | [] => none
  | field :: fields => if field ∈ seen then some field else repeated? (field :: seen) fields

theorem known_cons_of_some {name : String} {field : Field} (h : Field.ofName? name = some field)
    (value : Json) (pairs : List (String × Json)) :
    known ((name, value) :: pairs) = (field, value) :: known pairs := by
  simp [known, h]

theorem known_cons_of_none {name : String} (h : Field.ofName? name = none)
    (value : Json) (pairs : List (String × Json)) :
    known ((name, value) :: pairs) = known pairs := by
  simp [known, h]

/-! ### Reading the members -/

/-- The known members are read, up to a field that is named again; the others are passed over. -/
theorem readFields_eq {first : Bool} {s rest : Bytes} {pairs : List (String × Json)}
    (h : ReadsMembers (Json.readValue (Json.depthLimit - 1)) first s pairs rest) {seen : List Field}
    {fuel : Nat} (hf : pairs.length < fuel) :
    readFields seen first fuel s =
      match repeated? seen ((known pairs).map Prod.fst) with
      | some field => .error (.duplicate field)
      | none => .ok (known pairs, rest) := by
  induction h generalizing seen fuel with
  | close hs =>
    obtain ⟨fuel, rfl⟩ := Nat.exists_eq_add_one_of_ne_zero (Nat.ne_zero_of_lt hf)
    simp only [readFields, bind, Except.bind, pure, Except.pure, lift, hs]
    rfl
  | @member first s s₁ s₂ s₃ s₄ rest name value pairs hs hn hc hi _ ih =>
    obtain ⟨fuel, rfl⟩ := Nat.exists_eq_add_one_of_ne_zero (Nat.ne_zero_of_lt hf)
    have hlen : pairs.length < fuel := Nat.lt_of_succ_lt_succ hf
    have hread : readValue s₂ = .ok (value, s₄) := by
      simp only [readValue, bind, Except.bind, hc, hi, lift, Except.mapError]
    have hskip : skipValue s₂ = .ok s₄ := by
      simp only [skipValue, bind, Except.bind, hc, Json.skip_of_readValue hi, lift, Except.mapError]
    simp only [readFields, bind, Except.bind, pure, Except.pure, lift, hs, hn, Except.mapError,
      Bool.not_true, Bool.false_eq_true, if_false]
    cases hfield : Field.ofName? name with
    | none =>
      rw [known_cons_of_none hfield]
      simp only [hskip]
      exact ih hlen
    | some field =>
      rw [known_cons_of_some hfield, List.map_cons, repeated?]
      by_cases hseen : field ∈ seen
      · simp only [hseen, if_true, throw, throwThe, MonadExceptOf.throw]
      · simp only [hseen, if_false, hread, ih hlen]
        cases repeated? (field :: seen) ((known pairs).map Prod.fst) <;> rfl

theorem isAsciiBlank_of_isSpace {b : UInt8} (h : Json.isSpace b = true) :
    Blank.isAsciiBlank b = true := by
  simp only [Json.isSpace, Bool.or_eq_true, beq_iff_eq] at h
  rcases h with ((rfl | rfl) | rfl) | rfl <;> rfl

/-- All that reading a record makes of the text of an object. -/
theorem ofBytes_eq {pairs : List (String × Json)} {s : Bytes} (h : ObjectText pairs s) :
    ofBytes s =
      match repeated? [] ((known pairs).map Prod.fst) with
      | some field => .error (.duplicate field)
      | none => .ok (ofFields (known pairs)) := by
  obtain ⟨hb, hm, ha⟩ := h
  rename_i before body after
  have hblank : (before ++ 0x7B :: (body ++ 0x7D :: after)).dropWhile Blank.isAsciiBlank
      = 0x7B :: (body ++ 0x7D :: after) := by
    rw [List.dropWhile_append_of_pos fun b hmem => isAsciiBlank_of_isSpace (hb b hmem)]
    rfl
  have hlen := hm.length_le
  have hfuel : pairs.length < (body ++ 0x7D :: after).length + 1 := by
    rw [List.length_append]
    omega
  have hfields : readFields [] true _ _ = _ :=
    readFields_eq (hm.reads (Json.readValue_local _) after) hfuel
  simp only [ofBytes, hblank, if_true, readObject, Json.skipSpace_of_split hb (b := 0x7B) rfl,
    ne_eq, not_true_eq_false, if_false, bind, Except.bind, hfields]
  cases repeated? [] ((known pairs).map Prod.fst) with
  | some field => rfl
  | none =>
    simp only [Json.skipSpace_of_allSpace ha]
    rfl

/-! ### Names that occur once -/

/-- No field is named twice. Other names may occur any number of times. -/
def KnownOnce (pairs : List (String × Json)) : Prop :=
  ∀ field : Field, (pairs.map Prod.fst).count field.name ≤ 1

theorem ofName?_eq_some {name : String} {field : Field} :
    Field.ofName? name = some field ↔ name = field.name := by
  constructor
  · intro h
    have := List.find?_some h
    exact (beq_iff_eq.1 this).symm
  · rintro rfl
    cases field <;> rfl

theorem count_known (pairs : List (String × Json)) (field : Field) :
    ((known pairs).map Prod.fst).count field = (pairs.map Prod.fst).count field.name := by
  induction pairs with
  | nil => rfl
  | cons pair pairs ih =>
    obtain ⟨name, value⟩ := pair
    rw [List.map_cons, List.count_cons]
    cases hfield : Field.ofName? name with
    | none =>
      have hne : name ≠ field.name := fun h => by
        rw [ofName?_eq_some.2 h] at hfield
        cases hfield
      rw [known_cons_of_none hfield, ih]
      simp [hne]
    | some found =>
      rw [known_cons_of_some hfield, List.map_cons, List.count_cons, ih]
      obtain rfl := ofName?_eq_some.1 hfield
      by_cases hf : found = field
      · simp [hf]
      · have hne : found.name ≠ field.name := fun h => hf (by
          have := ofName?_eq_some.2 h
          rw [hfield] at this
          exact Option.some.inj this)
        simp [hf, hne]

theorem knownOnce_iff {pairs : List (String × Json)} :
    KnownOnce pairs ↔ ((known pairs).map Prod.fst).Nodup := by
  rw [List.nodup_iff_count_le_one]
  exact forall_congr' fun field => by rw [count_known]

/-- Nothing is found to be repeated in a list without repetitions, apart from what was seen. -/
theorem repeated?_eq_none {seen fields : List Field} :
    repeated? seen fields = none ↔ fields.Nodup ∧ ∀ field ∈ fields, field ∉ seen := by
  induction fields generalizing seen with
  | nil => simp [repeated?]
  | cons field fields ih =>
    rw [repeated?]
    split
    · rename_i hseen
      refine iff_of_false nofun fun h => h.2 field List.mem_cons_self hseen
    · rename_i hseen
      rw [ih, List.nodup_cons]
      constructor
      · rintro ⟨hnodup, hnot⟩
        refine ⟨⟨fun hmem => hnot field hmem List.mem_cons_self, hnodup⟩, ?_⟩
        intro other hmem
        rcases List.mem_cons.1 hmem with rfl | hmem
        · exact hseen
        · exact fun h => hnot other hmem (List.mem_cons_of_mem _ h)
      · rintro ⟨⟨hfield, hnodup⟩, hnot⟩
        refine ⟨hnodup, fun other hmem h => ?_⟩
        rcases List.mem_cons.1 h with rfl | h
        · exact hfield hmem
        · exact hnot other (List.mem_cons_of_mem _ hmem) h

theorem repeated?_eq_none_iff {pairs : List (String × Json)} :
    repeated? [] ((known pairs).map Prod.fst) = none ↔ KnownOnce pairs := by
  rw [repeated?_eq_none, knownOnce_iff]
  simp

/-! ### The record of an object -/

/-- The record that an object stands for: each field is read from the value under its own name. -/
def ofMembers (members : Json.Members) : Record where
  kind := ((members.lookup "event").bind Json.asString?).getD ""
  timestamp := (members.lookup "timestamp").bind timestampOf?
  method := (members.lookup "method").bind Json.asString?
  path := (members.lookup "path").bind Json.asString?
  query := ((members.lookup "query").map Query.ofJson).getD []
  status := (members.lookup "statusCode").bind statusOf?
  client := ((members.lookup "source").map clientOf).getD {}
  payload := (members.lookup "responsePayload").bind payloadOf?
  subEvents := ((members.lookup "log").map subEventsOf).getD []

/-- What a field of a record holds, from the values of the fields; of several values the last. -/
theorem foldl_set (fields : List (Field × Json)) (record : Record) :
    fields.foldl (fun record field => record.set field.1 field.2) record =
      { kind := ((fields.reverse.lookup .kind).map fun v => v.asString?.getD "").getD record.kind
        timestamp := ((fields.reverse.lookup .timestamp).map timestampOf?).getD record.timestamp
        method := ((fields.reverse.lookup .method).map Json.asString?).getD record.method
        path := ((fields.reverse.lookup .path).map Json.asString?).getD record.path
        query := ((fields.reverse.lookup .query).map Query.ofJson).getD record.query
        status := ((fields.reverse.lookup .status).map statusOf?).getD record.status
        client := ((fields.reverse.lookup .client).map clientOf).getD record.client
        payload := ((fields.reverse.lookup .payload).map payloadOf?).getD record.payload
        subEvents :=
          ((fields.reverse.lookup .subEvents).map subEventsOf).getD record.subEvents } := by
  induction fields using List.reverseRecOn generalizing record with
  | nil => rfl
  | append_singleton fields field ih =>
    obtain ⟨field, value⟩ := field
    rw [List.foldl_append, ih, List.reverse_append]
    cases field <;> rfl

theorem lookup_known_reverse (pairs : List (String × Json)) (field : Field) :
    (known pairs).reverse.lookup field = pairs.reverse.lookup field.name := by
  rw [known, ← List.filterMap_reverse]
  induction pairs.reverse with
  | nil => rfl
  | cons pair pairs ih =>
    obtain ⟨name, value⟩ := pair
    change (known ((name, value) :: pairs)).lookup field = _
    rw [lookup_cons_eq]
    cases hfield : Field.ofName? name with
    | none =>
      have hne : field.name ≠ name := fun h => by
        rw [ofName?_eq_some.2 h.symm] at hfield
        cases hfield
      rw [known_cons_of_none hfield, if_neg hne]
      exact ih
    | some found =>
      obtain rfl := ofName?_eq_some.1 hfield
      have hname : field.name = found.name ↔ field = found := by
        cases field <;> cases found <;> decide
      rw [known_cons_of_some hfield, lookup_cons_eq]
      simp only [hname]
      exact congrArg _ ih

theorem ofFields_known (pairs : List (String × Json)) :
    ofFields (known pairs) = ofMembers (Json.Members.ofPairs pairs) := by
  have hlookup (field : Field) : (known pairs).reverse.lookup field
      = (Json.Members.ofPairs pairs).lookup field.name := by
    rw [lookup_known_reverse, Json.Members.lookup_ofPairs]
  have hbind {α : Type} (x : Option Json) (f : Json → Option α) :
      (x.map f).getD none = x.bind f := by
    cases x <;> rfl
  have hkind (x : Option Json) :
      (x.map fun v => v.asString?.getD "").getD "" = (x.bind Json.asString?).getD "" := by
    cases x <;> rfl
  rw [ofFields, foldl_set]
  simp only [hlookup, hbind, hkind]
  rfl

/-! ### Field by field -/

def Field.takes : Field → Json → Bool
  | .kind, .string _ => true
  | .timestamp, .number _ => true
  | .timestamp, .string _ => true
  | .method, .string _ => true
  | .path, .string _ => true
  | .query, .object _ => true
  | .status, .number _ => true
  | .status, .string _ => true
  | .client, .object _ => true
  | .payload, .null => false
  | .payload, _ => true
  | .subEvents, .array _ => true
  | _, _ => false

def Agree (field : Field) (record record' : Record) : Prop :=
  match field with
  | .kind => record.kind = record'.kind
  | .timestamp => record.timestamp = record'.timestamp
  | .method => record.method = record'.method
  | .path => record.path = record'.path
  | .query => record.query = record'.query
  | .status => record.status = record'.status
  | .client => record.client = record'.client
  | .payload => record.payload = record'.payload
  | .subEvents => record.subEvents = record'.subEvents

variable {members members' : Json.Members} {pairs pairs' : List (String × Json)} {s t : Bytes}

theorem eq_of_agree {record record' : Record} (h : ∀ field, Agree field record record') :
    record = record' := by
  obtain ⟨kind, timestamp, method, path, query, status, client, payload, subEvents⟩ := record
  cases record'
  exact Record.mk.injEq .. ▸ ⟨h .kind, h .timestamp, h .method, h .path, h .query, h .status,
    h .client, h .payload, h .subEvents⟩

/-- A field depends on the value under its own name alone. -/
theorem agree_of_lookup {field : Field}
    (h : members.lookup field.name = members'.lookup field.name) :
    Agree field (ofMembers members) (ofMembers members') := by
  cases field <;> (simp only [Field.name] at h; simp only [Agree, ofMembers, h])

/-- Without a value of a usable shape a field is as in an empty record. -/
theorem agree_default {field : Field}
    (h : ∀ value, members.lookup field.name = some value → field.takes value = false) :
    Agree field (ofMembers members) {} := by
  cases hl : members.lookup field.name with
  | none =>
    cases field <;> (simp only [Field.name] at hl; simp only [Agree, ofMembers, hl]; rfl)
  | some value =>
    have hv := h value hl
    cases field <;> simp only [Field.name] at hl <;> simp only [Agree, ofMembers, hl] <;>
      cases value <;> first | rfl | cases hv

/-- Where the members stand makes no difference, nor do those with other names. -/
theorem ofMembers_of_perm (hk : KnownOnce pairs) (h : (known pairs').Perm (known pairs)) :
    KnownOnce pairs' ∧
      ofMembers (Json.Members.ofPairs pairs') = ofMembers (Json.Members.ofPairs pairs) := by
  rw [knownOnce_iff] at hk
  have hk' : ((known pairs').map Prod.fst).Nodup := (h.map Prod.fst).nodup_iff.2 hk
  have hrev {l : List (Field × Json)} (hl : (l.map Prod.fst).Nodup) :
      (l.reverse.map Prod.fst).Nodup := by
    rw [List.map_reverse]
    exact List.nodup_reverse.2 hl
  refine ⟨knownOnce_iff.2 hk', eq_of_agree fun field => agree_of_lookup ?_⟩
  rw [Json.Members.lookup_ofPairs, Json.Members.lookup_ofPairs, ← lookup_known_reverse,
    ← lookup_known_reverse]
  refine Option.ext fun value => ?_
  rw [lookup_eq_some_iff_mem (hrev hk'), lookup_eq_some_iff_mem (hrev hk), List.mem_reverse,
    List.mem_reverse, h.mem_iff]

/-- Another value under one name leaves the other names as they are. -/
theorem lookup_ofPairs_replace (left right : List (String × Json)) (name : String)
    (value value' : Json) {other : String} (h : other ≠ name) :
    (Json.Members.ofPairs (left ++ (name, value') :: right)).lookup other
      = (Json.Members.ofPairs (left ++ (name, value) :: right)).lookup other := by
  rw [Json.Members.lookup_ofPairs, Json.Members.lookup_ofPairs]
  simp only [List.reverse_append, List.reverse_cons, List.append_assoc, List.lookup_append,
    List.singleton_append, lookup_cons_eq, if_neg h]

theorem knownOnce_replace {left right : List (String × Json)} {name : String}
    {value value' : Json} (h : KnownOnce (left ++ (name, value) :: right)) :
    KnownOnce (left ++ (name, value') :: right) := by
  simpa [KnownOnce] using h

/-- A text of an object that names no field twice is read as its record. -/
theorem ofBytes_of_knownOnce (h : ObjectText pairs s) (hk : KnownOnce pairs) :
    ofBytes s = .ok (ofMembers (Json.Members.ofPairs pairs)) := by
  rw [ofBytes_eq h, repeated?_eq_none_iff.2 hk, ofFields_known]

/-- The reader is field-wise. A text of an object that names no field twice is read as a record,
each field of it from the value under its own name, or as in an empty record if there is none of a
usable shape. Any other text with the same values under the names of fields is read as the same
record, and with another value under one of them as a record that differs in that field at most. -/
theorem ofBytes_fieldwise (h : Json.ofBytes s = .ok (.object members)) :
    (∃ pairs, ObjectText pairs s) ∧
      ∀ pairs, ObjectText pairs s → KnownOnce pairs →
        ofBytes s = .ok (ofMembers members) ∧
        (∀ field : Field, (∀ value, members.lookup field.name = some value →
          field.takes value = false) → Agree field (ofMembers members) {}) ∧
        (∀ t pairs', ObjectText pairs' t → (known pairs').Perm (known pairs) →
          ofBytes t = .ok (ofMembers members)) ∧
        ∀ t left right (field : Field) value value',
          pairs = left ++ (field.name, value) :: right →
          ObjectText (left ++ (field.name, value') :: right) t →
          ∃ record, ofBytes t = .ok record ∧
            ∀ other, other ≠ field → Agree other record (ofMembers members) := by
  obtain ⟨pairs₀, h₀, hmembers⟩ := Json.ofBytes_object_iff.1 h
  refine ⟨⟨pairs₀, h₀⟩, fun pairs hs hk => ?_⟩
  obtain rfl : members = Json.Members.ofPairs pairs := by
    have hread := Json.ofBytes_object_iff.2 ⟨pairs, hs, rfl⟩
    exact Json.object.inj (Except.ok.inj (h.symm.trans hread))
  refine ⟨ofBytes_of_knownOnce hs hk, fun field => agree_default, fun t pairs' ht hperm => ?_,
    fun t left right field value value' hp ht => ?_⟩
  · obtain ⟨hk', heq⟩ := ofMembers_of_perm hk hperm
    rw [ofBytes_of_knownOnce ht hk', heq]
  · subst hp
    refine ⟨_, ofBytes_of_knownOnce ht (knownOnce_replace hk), fun other hne => ?_⟩
    have hname : other.name ≠ field.name := by
      revert hne
      cases other <;> cases field <;> decide
    exact agree_of_lookup (lookup_ofPairs_replace left right field.name value value' hname)

/-- The text of one member, from its label with the closing quote and the text of its value. -/
def spell (label value : String) : Bytes := 0x22 :: Utf8.encode label ++ 0x3A :: Utf8.encode value

theorem spell_text {label name value : String} {json : Json}
    (hl : Json.readText (Utf8.encode label) = .ok (name, []))
    (hv : Json.finish (Json.readValue (Json.depthLimit - 1) (Utf8.encode value)) = .ok json) :
    Json.MemberText (Json.readValue (Json.depthLimit - 1)) (name, json) (spell label value) :=
  @Json.MemberText.intro _ [] _ [] _ _ _ nofun hl nofun hv

def plainPairs : List (String × Json) :=
  [("event", .string "a"), ("x", .array [.null]), ("method", .string "b")]

def plainText : Bytes :=
  0x7B :: (spell "event\"" "\"a\""
    ++ [spell "x\"" "[null]", spell "method\"" "\"b\""].flatMap (0x2C :: ·) ++ [0x7D])

theorem plainText_object : ObjectText plainPairs plainText :=
  @ObjectText.intro plainPairs [] _ [] nofun
    (.some (spell_text (by cbv) (by cbv))
      (.cons (spell_text (by cbv) (by cbv)) (.cons (spell_text (by cbv) (by cbv)) .nil))) nofun

/-- The same record without that member, in another order, with an escape in a name and with
space. -/
def respelledText : Bytes :=
  0x7B :: (spell "method\"" " \"b\" " ++ [spell "ev\\u0065nt\"" "\"a\""].flatMap (0x2C :: ·)
    ++ [0x7D])

theorem respelledText_object :
    ObjectText [("method", .string "b"), ("event", .string "a")] respelledText :=
  @ObjectText.intro _ [] _ [] nofun
    (.some (spell_text (by cbv) (by cbv)) (.cons (spell_text (by cbv) (by cbv)) .nil)) nofun

theorem ofBytes_fieldwise_respelled :
    Json.ofBytes plainText = .ok (.object plainPairs) ∧ KnownOnce plainPairs ∧
      ofMembers plainPairs = { kind := "a", method := some "b" } ∧
      ofBytes plainText = .ok (ofMembers plainPairs) ∧
      ofBytes respelledText = .ok (ofMembers plainPairs) := by
  have hobject : Json.ofBytes plainText = .ok (.object plainPairs) :=
    Json.ofBytes_object_iff.2 ⟨plainPairs, plainText_object, by cbv⟩
  have honce : KnownOnce plainPairs := by
    intro field
    cases field <;> decide
  obtain ⟨hread, -, hsame, -⟩ := (ofBytes_fieldwise hobject).2 plainPairs plainText_object honce
  exact ⟨hobject, honce, by cbv, hread,
    hsame respelledText _ respelledText_object (.swap _ _ [])⟩

/-! ### The values in a line -/

/-- The line gives the field this value. -/
def Finds (line : Bytes) (field : Field) (value : Json) : Prop :=
  ∃ fields, readObject line = .ok fields ∧ (field, value) ∈ fields

theorem ok_of_bind {α β : Type} {x : Except Fault α} {f : α → Except Fault β} {b : β}
    (h : x >>= f = .ok b) : ∃ a, x = .ok a ∧ f a = .ok b := by
  cases x with
  | error fault => cases h
  | ok a => exact ⟨a, rfl, h⟩

/-- No field is read twice. -/
theorem readFields_nodup {seen : List Field} {first : Bool} {fuel : Nat} {s rest : Bytes}
    {fields : List (Field × Json)} (h : readFields seen first fuel s = .ok (fields, rest)) :
    (fields.map Prod.fst).Nodup ∧ ∀ field ∈ fields.map Prod.fst, field ∉ seen := by
  induction fuel generalizing seen first s fields with
  | zero => cases h
  | succ fuel ih =>
    rw [readFields] at h
    obtain ⟨⟨more, s₁⟩, -, h⟩ := ok_of_bind h
    cases more with
    | false =>
      cases h
      exact ⟨.nil, nofun⟩
    | true =>
      obtain ⟨⟨name, s₂⟩, -, h⟩ := ok_of_bind h
      cases hfield : Field.ofName? name with
      | none =>
        simp only [hfield] at h
        obtain ⟨s₃, -, h⟩ := ok_of_bind h
        exact ih h
      | some field =>
        simp only [hfield] at h
        split at h
        · cases h
        · rename_i hseen
          obtain ⟨⟨value, s₃⟩, -, h⟩ := ok_of_bind h
          obtain ⟨⟨later, s₄⟩, hlater, h⟩ := ok_of_bind h
          cases h
          obtain ⟨hnodup, hnot⟩ := ih hlater
          rw [List.map_cons, List.nodup_cons, List.forall_mem_cons]
          exact ⟨⟨fun hmem => hnot _ hmem List.mem_cons_self, hnodup⟩, hseen,
            fun other hmem hin => hnot other hmem (List.mem_cons_of_mem _ hin)⟩

theorem readFields_of_readObject {line : Bytes} {fields : List (Field × Json)}
    (h : readObject line = .ok fields) :
    ∃ body rest, Json.skipSpace line = 0x7B :: body ∧
      readFields [] true (body.length + 1) body = .ok (fields, rest) := by
  rw [readObject] at h
  cases hs : Json.skipSpace line with
  | nil =>
    rw [hs] at h
    cases h
  | cons b body =>
    simp only [hs] at h
    split at h
    · cases h
    · rename_i hb
      obtain rfl : b = 0x7B := not_not.1 hb
      obtain ⟨⟨read, rest⟩, hread, h⟩ := ok_of_bind h
      dsimp only at h
      split at h
      · cases h
      · obtain rfl : read = fields := Except.ok.inj h
        exact ⟨body, rest, rfl, hread⟩

theorem ofBytes_of_readObject {line : Bytes} {fields : List (Field × Json)}
    (h : readObject line = .ok fields) : ofBytes line = .ok (ofFields fields) := by
  obtain ⟨body, rest, hs, -⟩ := readFields_of_readObject h
  obtain ⟨before, hbefore, rfl, -⟩ := Json.skipSpace_split hs
  have hblank : (before ++ 0x7B :: body).dropWhile Blank.isAsciiBlank = 0x7B :: body := by
    rw [List.dropWhile_append_of_pos fun b hmem => isAsciiBlank_of_isSpace (hbefore b hmem)]
    rfl
  simp only [ofBytes, hblank, if_true, h, Except.map]

/-- A value that a line gives a field is the one that the field is read from. -/
theorem Finds.ofBytes {line : Bytes} {field : Field} {value : Json} (h : Finds line field value) :
    ∃ record, Record.ofBytes line = .ok record ∧
      Agree field record (({} : Record).set field value) := by
  obtain ⟨fields, hread, hmem⟩ := h
  obtain ⟨body, rest, -, hfields⟩ := readFields_of_readObject hread
  refine ⟨_, ofBytes_of_readObject hread, ?_⟩
  have hnodup : (fields.reverse.map Prod.fst).Nodup := by
    rw [List.map_reverse, List.nodup_reverse]
    exact (readFields_nodup hfields).1
  have hlookup : fields.reverse.lookup field = some value :=
    (lookup_eq_some_iff_mem hnodup).2 (List.mem_reverse.2 hmem)
  rw [ofFields, foldl_set]
  cases field <;> simp only [Agree, set, hlookup, Option.map_some, Option.getD_some]

end Record

end RequestLog
