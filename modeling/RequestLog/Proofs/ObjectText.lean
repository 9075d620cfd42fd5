import RequestLog.Proofs.Locality

/-! The texts that are read as one object: members between braces, each a name, a colon and a value
that can be read on its own. -/

namespace RequestLog

namespace Json

/-- A text of one object with these members, in their order and with those that repeat a name. -/
inductive ObjectText (pairs : List (String × Json)) : Bytes → Prop where
  | intro {before body after : Bytes} (hb : AllSpace before)
      (hm : MembersText (readValue (depthLimit - 1)) pairs body) (ha : AllSpace after) :
    ObjectText pairs (before ++ 0x7B :: (body ++ 0x7D :: after))

variable {pairs pairs' : List (String × Json)} {s : Bytes}

theorem ReadsScalar.not_object {b : UInt8} {rest : Bytes} {members : Members} :
    ¬ ReadsScalar b s (.object members) rest := by
  have hnumber {negative : Bool} {t : Bytes} :
      readNumber negative t ≠ .ok (.object members, rest) := by
    intro h
    unfold readNumber at h
    split at h
    · cases h
    split at h
    · cases (Prod.mk.inj (Except.ok.inj h)).1
    · cases h
  intro h
  cases h with
  | negative h => exact hnumber h
  | number hb h => exact hnumber h

/-- The reader of values accepts as objects the texts of objects, and no others. -/
theorem ofBytes_object_iff {members : Members} :
    ofBytes s = .ok (.object members) ↔
      ∃ pairs, ObjectText pairs s ∧ members = Members.ofPairs pairs := by
  rw [ofBytes, finish_ok]
  constructor
  · rintro ⟨rest, h, hrest⟩
    generalize hvalue : Json.object members = value at h
    change readValue (126 + 1) s = _ at h
    cases readsValue_of_ok h with
    | scalar hs hr => exact absurd (hvalue ▸ hr) ReadsScalar.not_object
    | array hs hr => cases hvalue
    | @object _ _ _ _ pairs hs hr =>
      obtain ⟨before, hb, rfl, -⟩ := skipSpace_split hs
      obtain ⟨body, hbody, rfl⟩ := hr.text (readValue_local _)
      exact ⟨pairs, .intro hb hbody hrest, Json.object.inj hvalue⟩
  · rintro ⟨pairs, ⟨hb, hm, ha⟩, rfl⟩
    rename_i before body after
    have hlen := hm.length_le
    have hread := hm.reads (readValue_local _) after
    exact ⟨after, readValue_object (skipSpace_of_split hb rfl _) hread
      (by rw [List.length_append]; omega), ha⟩

/-! ### Levels -/

section

variable {item item' : Bytes → Read Json} {first : Bool} {rest : Bytes}

theorem ReadsItems.mono
    (hitem : ∀ {s value rest}, item s = .ok (value, rest) → item' s = .ok (value, rest))
    {values : List Json} (h : ReadsItems item first s values rest) :
    ReadsItems item' first s values rest := by
  induction h with
  | close hs => exact .close hs
  | first hs hb hi _ ih => exact .first hs hb (hitem hi) ih
  | next hs hr hb hi _ ih => exact .next hs hr hb (hitem hi) ih

theorem ReadsMembers.mono
    (hitem : ∀ {s value rest}, item s = .ok (value, rest) → item' s = .ok (value, rest))
    (h : ReadsMembers item first s pairs rest) : ReadsMembers item' first s pairs rest := by
  induction h with
  | close hs => exact .close hs
  | member hs hn hc hi _ ih => exact .member hs hn hc (hitem hi) ih

end

theorem readValue_succ {depth : Nat} {value : Json} {rest : Bytes}
    (h : readValue depth s = .ok (value, rest)) : readValue (depth + 1) s = .ok (value, rest) := by
  induction depth generalizing s value rest with
  | zero =>
    cases readsValue_of_ok h with
    | scalar hs hr => exact hr.ok hs
  | succ depth ih =>
    cases readsValue_of_ok h with
    | scalar hs hr => exact hr.ok hs
    | array hs hr =>
      obtain ⟨p, rfl, hlen, -⟩ := hr.append (readValue_local depth)
      exact readValue_array hs (hr.mono ih) (by rw [List.length_append]; omega)
    | object hs hr =>
      obtain ⟨body, hbody, rfl⟩ := hr.text (readValue_local depth)
      have hlen := hbody.length_le
      exact readValue_object hs (hr.mono ih) (by rw [List.length_append]; omega)

theorem readValue_mono {depth depth' : Nat} (hd : depth ≤ depth') {value : Json} {s rest : Bytes}
    (h : readValue depth s = .ok (value, rest)) : readValue depth' s = .ok (value, rest) := by
  induction depth', hd using Nat.le_induction with
  | base => exact h
  | succ depth' _ ih => exact readValue_succ ih

/-- A text with fewer levels than are allowed is read as it is. -/
theorem ofBytes_of_depth {depth : Nat} (hd : depth ≤ depthLimit) {value : Json}
    (h : finish (readValue depth s) = .ok value) : ofBytes s = .ok value := by
  obtain ⟨rest, hread, hrest⟩ := finish_ok.1 h
  exact finish_ok.2 ⟨rest, readValue_mono hd hread, hrest⟩

end Json

end RequestLog
