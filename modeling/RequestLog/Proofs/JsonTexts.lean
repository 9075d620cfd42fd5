import RequestLog.Proofs.ObjectText
import RequestLog.Proofs.FormData

/-! The texts of a JSON value. They are said here apart from the reader: white space around every
part, each character of a string as it is or as one of its escapes, and names that are given again.
The reader takes all of them, and what it reads of them is the value. -/

namespace RequestLog

namespace Json

/-! ### Grammar -/

def IsHexDigit (n : Nat) (c : Char) : Prop :=
  n < 16 ∧ (c = Nat.digitChar n ∨ c = (Nat.digitChar n).toUpper)

inductive IsUnit : Nat → List Char → Prop where
  | intro {n₁ n₂ n₃ n₄ : Nat} {c₁ c₂ c₃ c₄ : Char} (h₁ : IsHexDigit n₁ c₁) (h₂ : IsHexDigit n₂ c₂)
      (h₃ : IsHexDigit n₃ c₃) (h₄ : IsHexDigit n₄ c₄) :
    IsUnit (((n₁ * 16 + n₂) * 16 + n₃) * 16 + n₄) [c₁, c₂, c₃, c₄]

def shortEscapes : List (Char × Char) :=
  [ ('"', '"'), ('\\', '\\'), ('/', '/'), ('\x08', 'b'), ('\x0c', 'f'), ('\n', 'n'), ('\r', 'r'),
    ('\t', 't') ]

inductive SpellsChar : Char → List Char → Prop where
  | plain {c : Char} (hc : 0x20 ≤ c.toNat) (hq : c ≠ '"') (hb : c ≠ '\\') : SpellsChar c [c]
  | short {c letter : Char} (h : (c, letter) ∈ shortEscapes) : SpellsChar c ['\\', letter]
  | unit {c : Char} {unit : List Char} (h : IsUnit c.toNat unit) :
    SpellsChar c ('\\' :: 'u' :: unit)
  | pair {c : Char} {high low : Nat} {first second : List Char}
      (hc : c.toNat = 0x10000 + (high - 0xD800) * 0x400 + (low - 0xDC00))
      (hh : 0xD800 ≤ high ∧ high < 0xDC00) (hl : 0xDC00 ≤ low ∧ low < 0xE000)
      (h : IsUnit high first) (h' : IsUnit low second) :
    SpellsChar c ('\\' :: 'u' :: first ++ '\\' :: 'u' :: second)

/-- A string with its quotes. -/
inductive SpellsString (s : String) : List Char → Prop where
  | intro {pieces : List (List Char)} (h : List.Forall₂ SpellsChar s.toList pieces) :
    SpellsString s ('"' :: pieces.flatten ++ ['"'])

def IsWhite (text : List Char) : Prop := ∀ c ∈ text, c ∈ [' ', '\t', '\n', '\r']

theorem isWhite_nil : IsWhite [] := List.forall_mem_nil _

inductive Padded (part : List Char → Prop) : List Char → Prop where
  | intro {before text after : List Char} (hb : IsWhite before) (h : part text)
      (ha : IsWhite after) : Padded part (before ++ text ++ after)

/-- An integer of 64 bits, with a sign or without. -/
def IsWord (n : Int) : Prop := -2 ^ 63 ≤ n ∧ n < 2 ^ 64

/-- A value without items or members. -/
inductive SpellsScalar : Json → List Char → Prop where
  | null : SpellsScalar .null ['n', 'u', 'l', 'l']
  | boolTrue : SpellsScalar (.bool true) ['t', 'r', 'u', 'e']
  | boolFalse : SpellsScalar (.bool false) ['f', 'a', 'l', 's', 'e']
  | integer {n : Int} (h : IsWord n) :
    SpellsScalar (.number (.integer n)) (toString n).toList
  | string {s : String} {text : List Char} (h : SpellsString s text) : SpellsScalar (.string s) text

section

variable (item : Json → List Char → Prop)

inductive SpellsMember : String × Json → List Char → Prop where
  | intro {name : String} {value : Json} {label text : List Char}
      (hn : Padded (SpellsString name) label) (hv : Padded (item value) text) :
    SpellsMember (name, value) (label ++ ':' :: text)

/-- A value, by the texts of what it contains. -/
inductive SpellsWith : Json → List Char → Prop where
  | scalar {value : Json} {text : List Char} (h : SpellsScalar value text) : SpellsWith value text
  | noItems {space : List Char} (h : IsWhite space) : SpellsWith (.array []) ('[' :: space ++ [']'])
  | items {value : Json} {values : List Json} {texts : List (List Char)}
      (h : List.Forall₂ (fun value => Padded (item value)) (value :: values) texts) :
    SpellsWith (.array (value :: values)) ('[' :: [','].intercalate texts ++ [']'])
  | noMembers {space : List Char} (h : IsWhite space) :
    SpellsWith (.object []) ('\x7b' :: space ++ ['\x7d'])
  /-- A name that is given again keeps its place and takes the later value. -/
  | members {pair : String × Json} {pairs : List (String × Json)} {texts : List (List Char)}
      (h : List.Forall₂ (SpellsMember item) (pair :: pairs) texts) :
    SpellsWith (.object (Members.ofPairs (pair :: pairs)))
      ('\x7b' :: [','].intercalate texts ++ ['\x7d'])

end

/-- The text denotes the value, with at most `depth` levels of nesting. -/
def Spells : Nat → Json → List Char → Prop
  | 0 => SpellsScalar
  | depth + 1 => SpellsWith (Spells depth)

/-! ### Characters of strings -/

open Utf8 (encodeChars encodeChars_append)

theorem IsHexDigit.read {n : Nat} {c : Char} (h : IsHexDigit n c) :
    ∃ b, String.utf8EncodeChar c = [b] ∧ hexValue? b = some n := by
  have hlower : ∀ n < 16, String.utf8EncodeChar (Nat.digitChar n) =
      [UInt8.ofNat (Nat.digitChar n).toNat] ∧
        hexValue? (UInt8.ofNat (Nat.digitChar n).toNat) = some n := by
    decide
  have hupper : ∀ n < 16, String.utf8EncodeChar (Nat.digitChar n).toUpper =
      [UInt8.ofNat (Nat.digitChar n).toUpper.toNat] ∧
        hexValue? (UInt8.ofNat (Nat.digitChar n).toUpper.toNat) = some n := by
    decide
  obtain ⟨hn, rfl | rfl⟩ := h
  · exact ⟨_, hlower n hn⟩
  · exact ⟨_, hupper n hn⟩

theorem IsUnit.read {unit : Nat} {text : List Char} (h : IsUnit unit text) (rest : Bytes) :
    hexUnit (encodeChars text ++ rest) = .ok (unit, rest) := by
  obtain ⟨h₁, h₂, h₃, h₄⟩ := h
  obtain ⟨b₁, hb₁, hv₁⟩ := h₁.read
  obtain ⟨b₂, hb₂, hv₂⟩ := h₂.read
  obtain ⟨b₃, hb₃, hv₃⟩ := h₃.read
  obtain ⟨b₄, hb₄, hv₄⟩ := h₄.read
  simp [encodeChars, hb₁, hb₂, hb₃, hb₄, hexUnit, hexUnit?, hv₁, hv₂, hv₃, hv₄]

theorem ReadsString.append_plain {bytes after more rest : Bytes}
    (hbytes : ∀ b ∈ bytes, b ≠ 0x22 ∧ b ≠ 0x5C ∧ ¬ b < 0x20) (h : ReadsString after more rest) :
    ReadsString (bytes ++ after) (bytes ++ more) rest := by
  induction bytes with
  | nil => exact h
  | cons b bytes ih =>
    obtain ⟨hq, hb, hc⟩ := hbytes b (by simp)
    exact .plain hq hb hc (ih fun b hb => hbytes b (by simp [hb]))

/-- The bytes of a character that need no escape are no quote, no backslash and no controls. -/
theorem plain_bytes {c : Char} (hc : 0x20 ≤ c.toNat) (hq : c ≠ '"') (hb : c ≠ '\\') :
    ∀ b ∈ String.utf8EncodeChar c, b ≠ 0x22 ∧ b ≠ 0x5C ∧ ¬ b < 0x20 := by
  intro b hmem
  simp only [ne_eq, ← UInt8.toNat_inj, UInt8.lt_iff_toNat_lt, UInt8.reduceToNat]
  rcases Utf8.encodeChar_cases c with ⟨n, hn, rfl, hbytes⟩ | ⟨-, hlarge⟩
  · rw [Utf8.toNat_char_ofNat hn] at hc
    have hquote : n ≠ 0x22 := fun h => hq (congrArg Char.ofNat h)
    have hbackslash : n ≠ 0x5C := fun h => hb (congrArg Char.ofNat h)
    rw [hbytes, List.mem_singleton] at hmem
    rw [hmem, Utf8.toNat_ofNat (by omega)]
    omega
  · have := hlarge b hmem
    omega

/-- The code of a character is not that of half a pair. -/
theorem not_surrogate (c : Char) :
    isLowSurrogate c.toNat = false ∧ isHighSurrogate c.toNat = false := by
  have hvalid : c.toNat < 0xD800 ∨ 0xDFFF < c.toNat ∧ c.toNat < 0x110000 := c.valid
  simp only [isLowSurrogate, isHighSurrogate, Bool.and_eq_false_iff, decide_eq_false_iff_not]
  omega

/-- A character is read from what stands for it, and the string goes on after it. -/
theorem SpellsChar.reads {c : Char} {piece : List Char} (h : SpellsChar c piece)
    {after more rest : Bytes} (hafter : ReadsString after more rest) :
    ReadsString (encodeChars piece ++ after) (String.utf8EncodeChar c ++ more) rest := by
  have hchar : Char.ofNat c.toNat = c := Char.ofNat_toNat c
  cases h with
  | plain hc hq hb =>
    rw [encodeChars, List.flatMap_singleton]
    exact hafter.append_plain (plain_bytes hc hq hb)
  | @short letter h =>
    have hall : ∀ p ∈ shortEscapes, String.utf8EncodeChar p.2 = [UInt8.ofNat p.2.toNat] ∧
        String.utf8EncodeChar p.1 = [UInt8.ofNat p.1.toNat] ∧
        shortEscape? (UInt8.ofNat p.2.toNat) = some (UInt8.ofNat p.1.toNat) := by
      decide
    obtain ⟨hletter, hc, hescape⟩ := hall _ h
    have htext : encodeChars ['\\', letter] = [0x5C, UInt8.ofNat letter.toNat] := by
      simp only [encodeChars, List.flatMap_cons, hletter]
      rfl
    rw [htext, hc]
    exact .escaped (.short hescape) hafter
  | @unit digits h =>
    have htext : encodeChars ('\\' :: 'u' :: digits) = 0x5C :: 0x75 :: encodeChars digits := rfl
    have hescape := Escape.unit (h.read after) (not_surrogate c).1 (not_surrogate c).2
    rw [hchar] at hescape
    rw [htext]
    exact .escaped hescape hafter
  | @pair high low first second hc hh hl h h' =>
    have hpaired : pairedScalar high low = c.toNat := by
      rw [hc, pairedScalar]
      omega
    have htext : encodeChars ('\\' :: 'u' :: first ++ '\\' :: 'u' :: second) =
        0x5C :: 0x75 :: (encodeChars first ++ 0x5C :: 0x75 :: encodeChars second) := by
      simp only [encodeChars, List.flatMap_cons, List.flatMap_append]
      rfl
    have hescape := Escape.pair (h.read (0x5C :: 0x75 :: (encodeChars second ++ after)))
      (by simp [isHighSurrogate, hh]) (by simp [isLowSurrogate]; omega) (h'.read after)
      (by simp [isLowSurrogate, hl])
    rw [hpaired, hchar] at hescape
    rw [htext, List.cons_append, List.cons_append, List.append_assoc]
    exact .escaped hescape hafter

theorem readsString_of_pieces {cs : List Char} {pieces : List (List Char)}
    (h : List.Forall₂ SpellsChar cs pieces) (rest : Bytes) :
    ReadsString (encodeChars pieces.flatten ++ 0x22 :: rest) (encodeChars cs) rest := by
  induction h with
  | nil => exact .close rest
  | @cons c piece cs pieces hc _ ih =>
    have htext : encodeChars (piece :: pieces).flatten =
        encodeChars piece ++ encodeChars pieces.flatten := by
      simp [encodeChars]
    rw [htext, List.append_assoc]
    exact hc.reads ih

theorem SpellsString.reads {s : String} {text : List Char} (h : SpellsString s text) :
    ∃ label, encodeChars text = 0x22 :: label ∧ readText label = .ok (s, []) := by
  obtain ⟨hpieces⟩ := h
  rename_i pieces
  have hlabel := (readsString_of_pieces hpieces []).ok
  have hdecode : Utf8.decode? (encodeChars s.toList) = some s := Utf8.decode?_encode s
  refine ⟨encodeChars pieces.flatten ++ [0x22], ?_, ?_⟩
  · simp only [encodeChars, List.flatMap_cons, List.flatMap_append]
    rfl
  · simp only [readText, hlabel, hdecode]

/-! ### Integers -/

structure IsDecimal (ds : List Nat) (n : Nat) : Prop where
  digits : ∀ d ∈ ds, d < 10
  value : natOfDigits ds = n
  head : ∃ d rest, ds = d :: rest ∧ (d = 0 → rest = [])

theorem natOfDigits_concat (ds : List Nat) (d : Nat) :
    natOfDigits (ds ++ [d]) = natOfDigits ds * 10 + d := by
  simp [natOfDigits]

theorem natOfDigits_pos {ds : List Nat} {n d : Nat} {rest : List Nat} (h : IsDecimal ds n)
    (hn : 0 < n) (hds : ds = d :: rest) : d ≠ 0 := by
  rintro rfl
  obtain ⟨d', rest', hds', hzero⟩ := h.head
  rw [hds] at hds'
  obtain ⟨rfl, rfl⟩ := List.cons.inj hds'
  have hvalue := h.value
  rw [hds, hzero rfl] at hvalue
  exact Nat.ne_of_gt hn hvalue.symm

/-- The digits that a number is written with. -/
theorem exists_isDecimal (n : Nat) :
    ∃ ds, IsDecimal ds n ∧ Nat.toDigits 10 n = ds.map Nat.digitChar := by
  induction n using Nat.strongRecOn with
  | ind n ih =>
    by_cases hn : n < 10
    · refine ⟨[n], ⟨by simpa using hn, by simp [natOfDigits], n, [], rfl, fun _ => rfl⟩, ?_⟩
      rw [Nat.toDigits_of_lt_base hn]
      rfl
    · obtain ⟨ds, hds, htext⟩ := ih (n / 10) (by omega)
      obtain ⟨d, rest, hcons, -⟩ := hds.head
      refine ⟨ds ++ [n % 10], ⟨?_, ?_, d, rest ++ [n % 10], by rw [hcons]; rfl, ?_⟩, ?_⟩
      · intro e he
        rcases List.mem_append.1 he with he | he
        · exact hds.digits e he
        · rw [List.mem_singleton.1 he]
          exact Nat.mod_lt _ (by decide)
      · rw [natOfDigits_concat, hds.value]
        omega
      · exact fun hzero => absurd hzero (natOfDigits_pos hds (by omega) hcons)
      · rw [Nat.toDigits_eq_if (by decide), if_neg hn, htext, List.map_append]
        rfl

theorem read_digitChar : ∀ d < 10, ∃ b, String.utf8EncodeChar (Nat.digitChar d) = [b] ∧
    isDigit b = true ∧ digitValue b = d := by
  have hall : ∀ d < 10, String.utf8EncodeChar (Nat.digitChar d) = [UInt8.ofNat (0x30 + d)] ∧
      isDigit (UInt8.ofNat (0x30 + d)) = true ∧ digitValue (UInt8.ofNat (0x30 + d)) = d := by
    decide
  exact fun d hd => ⟨_, hall d hd⟩

theorem encodeChars_digits {ds : List Nat} (h : ∀ d ∈ ds, d < 10) :
    (∀ b ∈ encodeChars (ds.map Nat.digitChar), isDigit b = true) ∧
      (encodeChars (ds.map Nat.digitChar)).map digitValue = ds := by
  induction ds with
  | nil => exact ⟨nofun, rfl⟩
  | cons d ds ih =>
    obtain ⟨b, hb, hdigit, hvalue⟩ := read_digitChar d (h d (by simp))
    obtain ⟨hdigits, hvalues⟩ := ih fun d hd => h d (by simp [hd])
    have htext : encodeChars ((d :: ds).map Nat.digitChar) =
        b :: encodeChars (ds.map Nat.digitChar) := by
      simp only [encodeChars, List.map_cons, List.flatMap_cons, hb]
      rfl
    rw [htext]
    exact ⟨List.forall_mem_cons.2 ⟨hdigit, hdigits⟩, by rw [List.map_cons, hvalue, hvalues]⟩

theorem numeral_of_isDecimal {ds : List Nat} {n : Nat} (h : IsDecimal ds n) (missing : Fault)
    (negative : Bool) :
    numeral missing negative (encodeChars (ds.map Nat.digitChar)) =
      .ok (⟨negative, ds, none, none⟩, []) := by
  obtain ⟨hdigits, hvalues⟩ := encodeChars_digits h.digits
  obtain ⟨d, rest, rfl, hzero⟩ := h.head
  obtain ⟨b, text, htext⟩ : ∃ b text, encodeChars ((d :: rest).map Nat.digitChar) = b :: text := by
    apply List.exists_cons_of_ne_nil
    intro hnil
    rw [hnil] at hvalues
    cases hvalues
  have hwhole : wholeDigits missing (b :: text) = .ok (d :: rest, []) := by
    rw [htext] at hdigits hvalues
    have htake : (b :: text).takeWhile isDigit = b :: text := List.takeWhile_eq_self_iff.2 hdigits
    have hdrop : (b :: text).dropWhile isDigit = [] := List.dropWhile_eq_nil_iff.2 hdigits
    have hleading : ¬ ((d :: rest).head? = some 0 ∧ 1 < (d :: rest).length) := by
      rintro ⟨hhead, hlength⟩
      rw [hzero (Option.some.inj hhead)] at hlength
      exact absurd hlength (by simp)
    simp only [wholeDigits, digits, htake, hdrop, hvalues, if_neg hleading]
  simp only [numeral, htext, hwhole, fractionDigits, exponentPart]

theorem readNumber_of_isDecimal {ds : List Nat} {n : Nat} (h : IsDecimal ds n) {negative : Bool}
    {value : Int} (hvalue : value = if negative then -(n : Int) else n)
    (hexact : isExact value = true) (hzero : negative = true → n ≠ 0) :
    readNumber negative (encodeChars (ds.map Nat.digitChar)) =
      .ok (.number (.integer value), []) := by
  have hinteger : Numeral.value? ⟨negative, ds, none, none⟩ = some (.integer value) := by
    have hsign : (negative && value == 0) = false := by
      cases negative with
      | false => rfl
      | true =>
        have hn := hzero rfl
        simp [hvalue, hn]
    simp [Numeral.value?, h.value, ← hvalue, hexact, hsign]
  simp only [readNumber, numeral_of_isDecimal h, hinteger]

theorem isExact_of_isWord {n : Int} (h : IsWord n) : isExact n = true := by
  obtain ⟨hlow, hhigh⟩ := h
  have hsigned : (Word.signedLimit : Int) = 2 ^ 63 := rfl
  have hlimit : (Word.limit : Int) = 2 ^ 64 := rfl
  simp only [isExact, Word.isSigned, hsigned, hlimit, Bool.or_eq_true, Bool.and_eq_true,
    decide_eq_true_eq]
  omega

/-- An integer is read from its digits, after a minus sign if it is negative. -/
theorem readsScalar_integer {n : Int} (hword : IsWord n) :
    ∃ b t, encodeChars (toString n).toList = b :: t ∧
      ReadsScalar b t (.number (.integer n)) [] := by
  have h := isExact_of_isWord hword
  cases n with
  | ofNat m =>
    obtain ⟨ds, hds, hdigits⟩ := exists_isDecimal m
    have htext : (toString (Int.ofNat m)).toList = ds.map Nat.digitChar := by
      rw [← hdigits]
      exact String.toList_ofList
    have hread : readNumber false (encodeChars (ds.map Nat.digitChar)) =
        .ok (.number (.integer (Int.ofNat m)), []) :=
      readNumber_of_isDecimal hds rfl h nofun
    obtain ⟨d, rest, rfl, -⟩ := hds.head
    obtain ⟨b, hb, hdigit, -⟩ := read_digitChar d (hds.digits d (by simp))
    have hcons : encodeChars ((d :: rest).map Nat.digitChar) =
        b :: encodeChars (rest.map Nat.digitChar) := by
      simp only [encodeChars, List.map_cons, List.flatMap_cons, hb]
      rfl
    rw [hcons] at hread
    rw [htext, hcons]
    exact ⟨b, _, rfl, .number hdigit hread⟩
  | negSucc m =>
    obtain ⟨ds, hds, hdigits⟩ := exists_isDecimal (m + 1)
    have htext : (toString (Int.negSucc m)).toList = '-' :: ds.map Nat.digitChar := by
      rw [← hdigits]
      change ("-" ++ toString (m + 1)).toList = _
      rw [String.toList_append]
      exact congrArg _ String.toList_ofList
    have hread : readNumber true (encodeChars (ds.map Nat.digitChar)) =
        .ok (.number (.integer (Int.negSucc m)), []) :=
      readNumber_of_isDecimal hds rfl h (fun _ => Nat.succ_ne_zero m)
    rw [htext]
    exact ⟨0x2D, _, rfl, .negative hread⟩

/-! ### Values -/

theorem IsWhite.allSpace {space : List Char} (h : IsWhite space) :
    AllSpace (encodeChars space) := by
  intro b hb
  obtain ⟨c, hmem, hb⟩ := List.mem_flatMap.1 hb
  have hc := h c hmem
  simp only [List.mem_cons, List.not_mem_nil, or_false] at hc
  rcases hc with rfl | rfl | rfl | rfl <;> rw [List.mem_singleton.1 hb] <;> rfl

theorem intercalate_cons {α : Type} (a : α) (text : List α) (texts : List (List α)) :
    [a].intercalate (text :: texts) = text ++ texts.flatMap (a :: ·) := by
  induction texts generalizing text with
  | nil => simp [List.intercalate]
  | cons next texts ih =>
    rw [List.flatMap_cons, List.cons_append, ← ih]
    simp [List.intercalate]

/-- The texts with commas between them, in bytes. -/
theorem encodeChars_intercalate (text : List Char) (texts : List (List Char)) :
    encodeChars ([','].intercalate (text :: texts)) =
      encodeChars text ++ (texts.map encodeChars).flatMap (0x2C :: ·) := by
  rw [intercalate_cons, encodeChars_append, encodeChars, encodeChars, List.flatMap_assoc,
    List.flatMap_map]
  rfl

section

variable {depth : Nat} {value : Json} {s t w : Bytes}

theorem readValue_append (hw : AllSpace w) (s : Bytes) :
    readValue depth (w ++ s) = readValue depth s := by
  unfold readValue
  rw [skipSpace_append hw]

theorem ReadsScalar.head {b : UInt8} {rest : Bytes} (h : ReadsScalar b s value rest) :
    isSpace b = false ∧ b ≠ 0x5D := by
  cases h with
  | number hb h =>
    refine ⟨?_, ne_of_isDigit hb rfl⟩
    simp only [isSpace, Bool.or_eq_false_iff, beq_eq_false_iff_ne]
    exact ⟨⟨⟨ne_of_isDigit hb rfl, ne_of_isDigit hb rfl⟩, ne_of_isDigit hb rfl⟩,
      ne_of_isDigit hb rfl⟩
  | _ => exact ⟨rfl, by decide⟩

/-- A value starts with a byte that closes nothing. -/
theorem ReadsValue.head {rest : Bytes} (h : ReadsValue depth s value rest) :
    ∃ b t, skipSpace s = b :: t ∧ b ≠ 0x5D := by
  cases h with
  | scalar hs h => exact ⟨_, _, hs, h.head.2⟩
  | array hs _ => exact ⟨_, _, hs, by decide⟩
  | object hs _ => exact ⟨_, _, hs, by decide⟩

/-- A value that is read on its own is read with space around it, whatever follows that does not go
on. -/
theorem readValue_split (h : finish (readValue depth t) = .ok value) :
    ∃ before b u after, AllSpace before ∧ AllSpace after ∧ t = before ++ b :: u ∧
      isSpace b = false ∧ b ≠ 0x5D ∧
        ∀ y, Avoids goesOn y → readValue depth (b :: (u ++ y)) = .ok (value, after ++ y) := by
  obtain ⟨after, hread, hafter⟩ := finish_ok.1 h
  obtain ⟨b, u, hs, hb⟩ := (readsValue_of_ok hread).head
  obtain ⟨before, hbefore, rfl, hspace⟩ := skipSpace_split hs
  obtain ⟨p, -, hp, hx⟩ := readValue_local depth hread
  refine ⟨before, b, u, after, hbefore, hafter, rfl, hspace, hb, fun y hy => ?_⟩
  rw [← hx (after ++ y) (hafter.avoids.append hy), ← List.append_assoc, ← hp, List.append_assoc,
    readValue_append hbefore, List.cons_append]

theorem avoids_bracket (texts : List Bytes) :
    Avoids goesOn (texts.flatMap (0x2C :: ·) ++ [0x5D]) := by
  cases texts with
  | nil => exact avoids_cons.2 rfl
  | cons text texts => exact avoids_cons.2 rfl

theorem readsItems_of_texts {values : List Json} {texts : List Bytes}
    (h : List.Forall₂ (fun value t => finish (readValue depth t) = .ok value) values texts)
    {space : Bytes} (hspace : AllSpace space) :
    ReadsItems (readValue depth) false
      (space ++ (texts.flatMap (0x2C :: ·) ++ [0x5D])) values [] := by
  induction h generalizing space with
  | nil => exact .close (skipSpace_of_split hspace rfl [])
  | @cons value text values texts hread _ ih =>
    obtain ⟨before, b, u, after, hbefore, hafter, rfl, hb, hne, hx⟩ := readValue_split hread
    have hsplit : space ++ (((before ++ b :: u) :: texts).flatMap (0x2C :: ·) ++ [0x5D]) =
        space ++ 0x2C :: (before ++ b :: (u ++ (texts.flatMap (0x2C :: ·) ++ [0x5D]))) := by
      simp
    rw [hsplit]
    exact .next (skipSpace_of_split hspace rfl _) (skipSpace_of_split hbefore hb _) hne
      (hx _ (avoids_bracket texts)) (ih hafter)

theorem readValue_items {values : List Json} {texts : List Bytes}
    (hread : finish (readValue depth t) = .ok value)
    (h : List.Forall₂ (fun value t => finish (readValue depth t) = .ok value) values texts) :
    readValue (depth + 1) (0x5B :: (t ++ texts.flatMap (0x2C :: ·) ++ [0x5D])) =
      .ok (.array (value :: values), []) := by
  obtain ⟨before, b, u, after, hbefore, hafter, rfl, hb, hne, hx⟩ := readValue_split hread
  have hsplit : before ++ b :: u ++ texts.flatMap (0x2C :: ·) ++ [0x5D] =
      before ++ b :: (u ++ (texts.flatMap (0x2C :: ·) ++ [0x5D])) := by
    simp
  rw [hsplit]
  have hitems := ReadsItems.first (skipSpace_of_split hbefore hb _) hne
    (hx _ (avoids_bracket texts)) (readsItems_of_texts h hafter)
  obtain ⟨p, hp, hlength, -, -⟩ := hitems.append (readValue_local depth)
  rw [List.append_nil] at hp
  exact readValue_array (skipSpace_cons_of_not rfl _) hitems (hp ▸ hlength.le)

theorem SpellsScalar.reads {text : List Char} (h : SpellsScalar value text) :
    readValue depth (encodeChars text) = .ok (value, []) := by
  have hread {b : UInt8} {t : Bytes} (h : ReadsScalar b t value []) :
      readValue depth (b :: t) = .ok (value, []) :=
    h.ok (skipSpace_cons_of_not h.head.1 t)
  cases h with
  | null => exact hread (.null rfl)
  | boolTrue => exact hread (.boolTrue rfl)
  | boolFalse => exact hread (.boolFalse rfl)
  | integer h =>
    obtain ⟨b, t, htext, hscalar⟩ := readsScalar_integer h
    rw [htext]
    exact hread hscalar
  | string h =>
    obtain ⟨label, htext, hlabel⟩ := h.reads
    rw [htext]
    exact hread (.string hlabel)

theorem Padded.reads {part : List Char → Prop}
    (hpart : ∀ text, part text → readValue depth (encodeChars text) = .ok (value, []))
    {text : List Char} (h : Padded part text) :
    finish (readValue depth (encodeChars text)) = .ok value := by
  obtain ⟨hb, h, ha⟩ := h
  rename_i before text after
  obtain ⟨p, -, hp, hx⟩ := readValue_local depth (hpart text h)
  rw [List.append_nil] at hp
  refine finish_ok.2 ⟨encodeChars after, ?_, ha.allSpace⟩
  rw [encodeChars_append, encodeChars_append, List.append_assoc, readValue_append hb.allSpace, hp]
  exact hx _ ha.allSpace.avoids

theorem SpellsMember.reads {item : Json → List Char → Prop}
    (hitem : ∀ value text, item value text → readValue depth (encodeChars text) = .ok (value, []))
    {pair : String × Json} {text : List Char} (h : SpellsMember item pair text) :
    MemberText (readValue depth) pair (encodeChars text) := by
  obtain ⟨⟨hb, hn, ha⟩, hv⟩ := h
  rename_i name value text before quoted after
  obtain ⟨label, hquoted, hlabel⟩ := hn.reads
  have hsplit : encodeChars (before ++ quoted ++ after ++ ':' :: text) =
      encodeChars before ++ 0x22 :: label ++ (encodeChars after ++ 0x3A :: encodeChars text) := by
    rw [encodeChars_append, encodeChars_append, encodeChars_append, hquoted, List.append_assoc]
    rfl
  rw [hsplit]
  exact .intro hb.allSpace hlabel ha.allSpace (hv.reads (hitem value))

theorem SpellsWith.reads {item : Json → List Char → Prop}
    (hitem : ∀ value text, item value text → readValue depth (encodeChars text) = .ok (value, []))
    {text : List Char} (h : SpellsWith item value text) :
    readValue (depth + 1) (encodeChars text) = .ok (value, []) := by
  have hbrackets (first last : Char) (body : List Char) :
      encodeChars (first :: body ++ [last]) =
        String.utf8EncodeChar first ++ (encodeChars body ++ String.utf8EncodeChar last) := by
    simp [encodeChars]
  cases h with
  | scalar h => exact h.reads
  | noItems h =>
    rw [hbrackets]
    exact readValue_array (skipSpace_cons_of_not rfl _)
      (.close (skipSpace_of_split h.allSpace rfl [])) (Nat.zero_le _)
  | @items value values texts h =>
    obtain ⟨text, texts, hvalue, hvalues, rfl⟩ := List.forall₂_cons_left_iff.1 h
    rw [hbrackets, encodeChars_intercalate]
    refine readValue_items (hvalue.reads (hitem value)) ?_
    exact List.forall₂_map_right_iff.2 (hvalues.imp fun value text h => h.reads (hitem value))
  | noMembers h =>
    rw [hbrackets]
    have hmembers := (MembersText.none h.allSpace).reads (readValue_local depth) []
    exact readValue_object (skipSpace_cons_of_not rfl _) hmembers (Nat.zero_le _)
  | @members pair pairs texts h =>
    obtain ⟨text, texts, hpair, hpairs, rfl⟩ := List.forall₂_cons_left_iff.1 h
    rw [hbrackets, encodeChars_intercalate]
    have htexts : MembersText (readValue depth) (pair :: pairs) _ := .some (hpair.reads hitem)
      (List.forall₂_map_right_iff.2 (hpairs.imp fun pair text h => h.reads hitem))
    have hlength := htexts.length_le
    refine readValue_object (skipSpace_cons_of_not rfl _)
      (htexts.reads (readValue_local depth) []) ?_
    exact hlength.trans (by simp)

end

/-- A text that denotes a value is read as this value. -/
theorem Spells.reads {depth : Nat} {value : Json} {text : List Char} (h : Spells depth value text) :
    readValue depth (encodeChars text) = .ok (value, []) := by
  induction depth generalizing value text with
  | zero => exact SpellsScalar.reads h
  | succ depth ih => exact SpellsWith.reads (fun value text => ih) h

end Json

end RequestLog
