import RequestLog.Record.Basic
import RequestLog.Proofs.CharacterBytes
import Mathlib

/-! Form data. The notation of query parameters can be read back: its reader gives the parameters in
their order, and a rebuilt URL gives the path and the parameters. -/

namespace RequestLog

/-! ### Reading form data -/

namespace Query

/-- The bytes of a text in form notation: a plus sign is a space, a percent sign with two
hexadecimal digits is one byte, and any other character stands for itself. -/
def bytesOf? : List Char → Option Bytes
  | [] => some []
  | '+' :: cs => (bytesOf? cs).map (0x20 :: ·)
  | '%' :: a :: b :: cs =>
    (Hex.value? a).bind fun x => (Hex.value? b).bind fun y =>
      (bytesOf? cs).map (UInt8.ofNat (x * 16 + y) :: ·)
  | '%' :: _ => none
  | c :: cs => (bytesOf? cs).map (String.utf8EncodeChar c ++ ·)

def readText? (cs : List Char) : Option String := (bytesOf? cs).bind Utf8.decode?

def readPair? (cs : List Char) : Option (String × String) :=
  (readText? (cs.takeWhile (· ≠ '='))).bind fun name =>
    (readText? ((cs.dropWhile (· ≠ '=')).drop 1)).map (name, ·)

def read? (text : String) : Option Query :=
  (text.toList.splitOn '&').mapM readPair?

/-- Letters, digits and the other characters of which names and values are written. -/
def IsTextChar (c : Char) : Prop := c.isAlphanum ∨ c ∈ ['*', '-', '.', '_', '+', '%']

def IsFormChar (c : Char) : Prop := IsTextChar c ∨ c = '&' ∨ c = '='

theorem IsTextChar.ne {c d : Char} (h : IsTextChar c) (hd : d ∈ ['&', '=', '?']) : c ≠ d := by
  rintro rfl
  simp only [List.mem_cons, List.not_mem_nil, or_false] at hd
  rcases hd with rfl | rfl | rfl <;> exact absurd h (by unfold IsTextChar; decide)

/-! ### Texts -/

theorem plain_of_isUnreserved {b : UInt8} (h : isUnreserved b = true) :
    IsTextChar (Char.ofNat b.toNat) ∧ Char.ofNat b.toNat ≠ '+' ∧ Char.ofNat b.toNat ≠ '%' ∧
      String.utf8EncodeChar (Char.ofNat b.toNat) = [b] := by
  have hall : ∀ n < 256, isUnreserved (UInt8.ofNat n) = true →
      ((Char.ofNat n).isAlphanum = true ∨ Char.ofNat n ∈ ['*', '-', '.', '_', '+', '%']) ∧
      Char.ofNat n ≠ '+' ∧ Char.ofNat n ≠ '%' ∧
      String.utf8EncodeChar (Char.ofNat n) = [UInt8.ofNat n] := by
    decide +kernel
  have hb := hall b.toNat b.toNat_lt
  rw [UInt8.ofNat_toNat] at hb
  exact hb h

theorem value?_upper : ∀ n < 16, Hex.value? (Hex.upper n) = some n := by decide

theorem isAlphanum_upper : ∀ n < 16, (Hex.upper n).isAlphanum = true := by decide

theorem bytesOf?_cons {c : Char} (hplus : c ≠ '+') (hpercent : c ≠ '%') (cs : List Char) :
    bytesOf? (c :: cs) = (bytesOf? cs).map (String.utf8EncodeChar c ++ ·) := by
  rw [bytesOf?]
  · exact hplus
  · exact fun _ _ _ h => absurd h hpercent
  · exact hpercent

theorem bytesOf?_encodeByte (b : UInt8) (cs : List Char) :
    bytesOf? (encodeByte b ++ cs) = (bytesOf? cs).map (b :: ·) := by
  unfold encodeByte
  split_ifs with hplain hspace
  · obtain ⟨-, hplus, hpercent, hbyte⟩ := plain_of_isUnreserved hplain
    rw [List.singleton_append, bytesOf?_cons hplus hpercent, hbyte]
    rfl
  · subst hspace
    rfl
  · have hb := b.toNat_lt
    simp only [List.cons_append, List.nil_append, bytesOf?]
    rw [value?_upper _ (by omega), value?_upper _ (by omega), Option.bind_some, Option.bind_some,
      Nat.div_add_mod', UInt8.ofNat_toNat]

theorem bytesOf?_encode (bytes : Bytes) : bytesOf? (bytes.flatMap encodeByte) = some bytes := by
  induction bytes with
  | nil => rfl
  | cons b bytes ih => rw [List.flatMap_cons, bytesOf?_encodeByte, ih, Option.map_some]

theorem readText?_encodeText (s : String) : readText? (encodeText s) = some s := by
  rw [readText?, encodeText, bytesOf?_encode, Option.bind_some, Utf8.decode?_encode]

theorem isTextChar_of_mem_encodeByte {b : UInt8} {c : Char} (h : c ∈ encodeByte b) :
    IsTextChar c := by
  have hb := b.toNat_lt
  unfold encodeByte at h
  split_ifs at h with hplain hspace
  · obtain rfl := List.mem_singleton.1 h
    exact (plain_of_isUnreserved hplain).1
  · obtain rfl := List.mem_singleton.1 h
    exact .inr (by decide)
  · simp only [List.mem_cons, List.not_mem_nil, or_false] at h
    rcases h with rfl | rfl | rfl
    · exact .inr (by decide)
    · exact .inl (isAlphanum_upper _ (by omega))
    · exact .inl (isAlphanum_upper _ (by omega))

theorem isTextChar_of_mem_encodeText {s : String} {c : Char} (h : c ∈ encodeText s) :
    IsTextChar c := by
  obtain ⟨b, -, hc⟩ := List.mem_flatMap.1 h
  exact isTextChar_of_mem_encodeByte hc

theorem notMem_encodeText (s : String) {d : Char} (hd : d ∈ ['&', '=', '?']) : d ∉ encodeText s :=
  fun h => (isTextChar_of_mem_encodeText h).ne hd rfl

/-! ### Pairs and lists of pairs -/

/-- A list is cut at the first place of an element. -/
theorem cut_append_cons {α : Type} [DecidableEq α] {a : α} {l : List α} (h : a ∉ l) (l' : List α) :
    (l ++ a :: l').takeWhile (· ≠ a) = l ∧ (l ++ a :: l').dropWhile (· ≠ a) = a :: l' := by
  have hl : ∀ b ∈ l, decide (b ≠ a) = true := fun b hb => by
    simpa using fun hba : b = a => h (hba ▸ hb)
  rw [List.takeWhile_append_of_pos hl, List.dropWhile_append_of_pos hl]
  simp

theorem readPair?_encodePair (pair : String × String) :
    readPair? (encodePair pair) = some pair := by
  obtain ⟨htake, hdrop⟩ := cut_append_cons (notMem_encodeText pair.1 (d := '=') (by decide))
    (encodeText pair.2)
  rw [readPair?, encodePair, htake, hdrop, readText?_encodeText, Option.bind_some, List.drop_one,
    List.tail_cons, readText?_encodeText, Option.map_some]

theorem encodeChars_eq (query : Query) :
    encodeChars query = ['&'].intercalate (query.map encodePair) := by
  induction query using encodeChars.induct with
  | case1 => rfl
  | case2 pair => exact List.intercalate_singleton.symm
  | case3 pair rest hrest ih =>
    have hmap : rest.map encodePair ≠ [] := by simpa using hrest
    rw [encodeChars.eq_3 _ _ hrest, ih, List.map_cons, List.intercalate_cons_of_ne_nil hmap,
      List.append_assoc, List.singleton_append]

theorem textChar_or_equals_of_mem_encodePair {pair : String × String} {c : Char}
    (h : c ∈ encodePair pair) : IsTextChar c ∨ c = '=' := by
  rw [encodePair, List.mem_append, List.mem_cons] at h
  rcases h with h | h | h
  · exact .inl (isTextChar_of_mem_encodeText h)
  · exact .inr h
  · exact .inl (isTextChar_of_mem_encodeText h)

theorem isFormChar_of_mem_encodeChars {query : Query} {c : Char} (h : c ∈ encodeChars query) :
    IsFormChar c := by
  induction query using encodeChars.induct with
  | case1 => cases h
  | case2 pair => exact (textChar_or_equals_of_mem_encodePair h).imp_right .inr
  | case3 pair rest hrest ih =>
    rw [encodeChars.eq_3 _ _ hrest, List.mem_append, List.mem_cons] at h
    rcases h with h | h | h
    · exact (textChar_or_equals_of_mem_encodePair h).imp_right .inr
    · exact .inr (.inl h)
    · exact ih h

theorem mapM_readPair? (query : Query) : (query.map encodePair).mapM readPair? = some query := by
  induction query with
  | nil => rfl
  | cons pair query ih =>
    rw [List.map_cons, List.mapM_cons, readPair?_encodePair, ih]
    rfl

/-- Form data are read back as the parameters, in their order and with those that repeat a name. If
there are none the text is empty, and would be read as one parameter with an empty name. -/
theorem read?_encode {query : Query} (hq : query ≠ []) : read? query.encode = some query := by
  have hpieces : (encodeChars query).splitOn '&' = query.map encodePair := by
    rw [encodeChars_eq]
    refine List.splitOn_intercalate '&' (fun piece hpiece hmem => ?_) (by simpa using hq)
    obtain ⟨pair, -, rfl⟩ := List.mem_map.1 hpiece
    rcases textChar_or_equals_of_mem_encodePair hmem with h | h
    · exact h.ne (by decide) rfl
    · exact absurd h (by decide)
  rw [read?, encode, String.toList_ofList, hpieces, mapM_readPair?]

end Query

/-! ### Rebuilt URLs -/

/-- The path of a URL before the first question mark, and the parameters after it. -/
def readTarget? (url : String) : Option (String × Query) :=
  match url.toList.dropWhile (· ≠ '?') with
  | [] => some (url, [])
  | _ :: cs =>
    (Query.read? (String.ofList cs)).map (String.ofList (url.toList.takeWhile (· ≠ '?')), ·)

namespace Record

variable {record : Record} {path : String}

theorem target?_of_query_nil (hp : record.path = some path) (hq : record.query = []) :
    record.target? = some path := by
  simp [target?, hp, hq]

theorem target?_of_query_ne_nil (hp : record.path = some path) (hq : record.query ≠ []) :
    record.target? = some (path ++ "?" ++ record.query.encode) := by
  simp [target?, hp, hq]

/-- Without a question mark in the path the target has one if and only if there are parameters, and
it can be taken apart again. -/
theorem target?_read (hp : record.path = some path) (hm : '?' ∉ path.toList) :
    ∃ target, record.target? = some target ∧ ('?' ∈ target.toList ↔ record.query ≠ []) ∧
      readTarget? target = some (path, record.query) := by
  by_cases hq : record.query = []
  · refine ⟨path, target?_of_query_nil hp hq, iff_of_false hm (not_not.2 hq), ?_⟩
    have hdrop : path.toList.dropWhile (· ≠ '?') = [] := by
      rw [List.dropWhile_eq_nil_iff]
      exact fun c hc => by simpa using fun heq : c = '?' => hm (heq ▸ hc)
    rw [readTarget?, hdrop, hq]
  · refine ⟨_, target?_of_query_ne_nil hp hq, iff_of_true (by simp) hq, ?_⟩
    obtain ⟨htake, hdrop⟩ := Query.cut_append_cons hm record.query.encode.toList
    have hchars : (path ++ "?" ++ record.query.encode).toList
        = path.toList ++ '?' :: record.query.encode.toList := by
      simp
    rw [readTarget?, hchars, htake, hdrop]
    simp only [String.ofList_toList, Query.read?_encode hq, Option.map_some]

/-- Form data hold no character but letters, digits and eight others, and are read back as the
parameters. A URL rebuilt from a path without a question mark has one exactly if there are
parameters, and shows its path and its parameters: no other path without a question mark and no
other parameters give the same URL. -/
theorem target?_faithful :
    (∀ query : Query, query ≠ [] → (∀ c ∈ query.encode.toList, Query.IsFormChar c) ∧
      Query.read? query.encode = some query) ∧
    ∀ (record : Record) (path : String), record.path = some path → '?' ∉ path.toList →
      ∃ target, record.target? = some target ∧ ('?' ∈ target.toList ↔ record.query ≠ []) ∧
        readTarget? target = some (path, record.query) ∧
        ∀ (record' : Record) (path' : String), record'.path = some path' → '?' ∉ path'.toList →
          record'.target? = some target → path' = path ∧ record'.query = record.query := by
  refine ⟨fun query hq => ⟨fun c hc => ?_, Query.read?_encode hq⟩, fun record path hp hm => ?_⟩
  · rw [Query.encode, String.toList_ofList] at hc
    exact Query.isFormChar_of_mem_encodeChars hc
  · obtain ⟨target, htarget, hmark, hread⟩ := target?_read hp hm
    refine ⟨target, htarget, hmark, hread, fun record' path' hp' hm' hsame => ?_⟩
    obtain ⟨target', htarget', -, hread'⟩ := target?_read hp' hm'
    obtain rfl : target = target' := Option.some.inj (hsame.symm.trans htarget')
    exact Prod.mk.inj (Option.some.inj (hread'.symm.trans hread))

/-- A record with marks of the notation in its parameters, one of them without a name. -/
def marked : Record := { path := some "/x", query := [("a b", "1&2=é"), ("", "+%"), ("a b", "")] }

theorem target?_faithful_marked :
    marked.path = some "/x" ∧ '?' ∉ "/x".toList ∧
      marked.target? = some "/x?a+b=1%262%3D%C3%A9&=%2B%25&a+b=" ∧
      readTarget? "/x?a+b=1%262%3D%C3%A9&=%2B%25&a+b=" = some ("/x", marked.query) := by
  have hm : '?' ∉ "/x".toList := by decide
  obtain ⟨target, htarget, -, hread, -⟩ := target?_faithful.2 marked "/x" rfl hm
  have hshown : marked.target? = some "/x?a+b=1%262%3D%C3%A9&=%2B%25&a+b=" := by decide +kernel
  obtain rfl : target = _ := Option.some.inj (htarget.symm.trans hshown)
  exact ⟨rfl, hm, htarget, hread⟩

end Record

end RequestLog
