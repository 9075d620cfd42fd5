import RequestLog.Text.Utf8
import Mathlib

/-! The bytes of characters. Text is read back from its bytes, a character of ASCII is a byte of its
own, which is found in no other character, and texts are in the order of their bytes. -/

namespace RequestLog

namespace Utf8

@[simp] theorem encodeChars_nil : encodeChars [] = [] := rfl

theorem encodeChars_cons (c : Char) (cs : List Char) :
    encodeChars (c :: cs) = String.utf8EncodeChar c ++ encodeChars cs := rfl

theorem encodeChars_append (text more : List Char) :
    encodeChars (text ++ more) = encodeChars text ++ encodeChars more :=
  List.flatMap_append

theorem length_encodeChars (cs : List Char) :
    (encodeChars cs).length = (String.ofList cs).utf8ByteSize := by
  rw [String.utf8ByteSize, String.toByteArray_ofList, List.utf8Encode, List.size_toByteArray,
    encodeChars]

/-! ### Reading characters back -/

theorem toNat_ofNat {n : Nat} (h : n < 256) : (UInt8.ofNat n).toNat = n :=
  UInt8.toNat_ofNat_of_lt' h

theorem ofNat_lt_iff {n : Nat} (h : n < 256) (b : UInt8) : UInt8.ofNat n < b ↔ n < b.toNat := by
  rw [UInt8.lt_iff_toNat_lt, toNat_ofNat h]

theorem continuation?_ofNat {n : Nat} (h : n < 64) :
    continuation? (UInt8.ofNat (n + 128)) = some n := by
  have hlow : (0x80 : UInt8) ≤ UInt8.ofNat (n + 128) := by
    rw [UInt8.le_iff_toNat_le, toNat_ofNat (by omega)]
    exact Nat.le_add_left 128 n
  have hhigh : UInt8.ofNat (n + 128) < 0xC0 := (ofNat_lt_iff (by omega) _).2 (by
    change n + 128 < 192
    omega)
  rw [continuation?, if_pos ⟨hlow, hhigh⟩, toNat_ofNat (by omega), Nat.add_sub_cancel]

theorem scalar?_toNat {c : Char} {least : Nat} (h : least ≤ c.val.toNat) :
    scalar? least c.val.toNat = some c := by
  rw [scalar?, if_pos ⟨h, c.valid⟩]
  exact congrArg some (Char.ofNat_toNat c)

/-! What is decoded, by the first byte of a character. -/

section

variable {a : UInt8} (rest : Bytes)

theorem decodeChars?_one (h : a.toNat < 0x80) :
    decodeChars? (a :: rest) = (decodeChars? rest).map (Char.ofNat a.toNat :: ·) := by
  rw [decodeChars?.eq_def]
  simp only [UInt8.lt_iff_toNat_lt, UInt8.reduceToNat]
  rw [if_pos h]

theorem decodeChars?_two (hlow : 0xC0 ≤ a.toNat) (hhigh : a.toNat < 0xE0) (b : UInt8) :
    decodeChars? (a :: b :: rest) = (two? a b).bind fun c => (decodeChars? rest).map (c :: ·) := by
  rw [decodeChars?.eq_def]
  simp only [UInt8.lt_iff_toNat_lt, UInt8.reduceToNat]
  rw [if_neg (by omega), if_neg (by omega), if_pos hhigh]

theorem decodeChars?_three (hlow : 0xE0 ≤ a.toNat) (hhigh : a.toNat < 0xF0) (b c : UInt8) :
    decodeChars? (a :: b :: c :: rest)
      = (three? a b c).bind fun c => (decodeChars? rest).map (c :: ·) := by
  rw [decodeChars?.eq_def]
  simp only [UInt8.lt_iff_toNat_lt, UInt8.reduceToNat]
  rw [if_neg (by omega), if_neg (by omega), if_neg (by omega), if_pos hhigh]

theorem decodeChars?_four (hlow : 0xF0 ≤ a.toNat) (hhigh : a.toNat < 0xF8) (b c d : UInt8) :
    decodeChars? (a :: b :: c :: d :: rest)
      = (four? a b c d).bind fun c => (decodeChars? rest).map (c :: ·) := by
  rw [decodeChars?.eq_def]
  simp only [UInt8.lt_iff_toNat_lt, UInt8.reduceToNat]
  rw [if_neg (by omega), if_neg (by omega), if_neg (by omega), if_neg (by omega), if_pos hhigh]

end

/-- Of what follows a character the decoder looks at nothing to read that character. -/
theorem decodeChars?_encodeChar (c : Char) (rest : Bytes) :
    decodeChars? (String.utf8EncodeChar c ++ rest) = (decodeChars? rest).map (c :: ·) := by
  have hmax : c.val.toNat < 0x110000 := by
    rcases c.valid with h | ⟨-, h⟩ <;> omega
  have hchar : Char.ofNat c.val.toNat = c := Char.ofNat_toNat c
  have hscalar {least : Nat} (h : least ≤ c.val.toNat) := scalar?_toNat h
  have hbits (n : Nat) := continuation?_ofNat (Nat.mod_lt n (show 64 > 0 by decide))
  unfold String.utf8EncodeChar
  generalize c.val.toNat = v at *
  simp only
  -- The bits of the code are taken apart and put together again, one case for each length.
  split_ifs with h1 h2 h3 <;> simp only [List.cons_append, List.nil_append]
  · have ha := toNat_ofNat (n := v) (by omega)
    rw [decodeChars?_one _ (by omega), ha, hchar]
  · have ha := toNat_ofNat (n := v / 64 % 32 + 192) (by omega)
    have hv : (v / 64 % 32 + 192 - 0xC0) * 64 + v % 64 = v := by omega
    rw [decodeChars?_two _ (by omega) (by omega), two?, hbits, ha, Option.bind_eq_bind,
      Option.bind_some, hv, hscalar (by omega), Option.bind_some]
  · have ha := toNat_ofNat (n := v / 4096 % 16 + 224) (by omega)
    have hv : (v / 4096 % 16 + 224 - 0xE0) * 4096 + v / 64 % 64 * 64 + v % 64 = v := by omega
    rw [decodeChars?_three _ (by omega) (by omega), three?, hbits, hbits, ha, Option.bind_eq_bind,
      Option.bind_some, Option.bind_some, hv, hscalar (by omega), Option.bind_some]
  · have ha := toNat_ofNat (n := v / 262144 % 8 + 240) (by omega)
    have hv : (v / 262144 % 8 + 240 - 0xF0) * 262144 + v / 4096 % 64 * 4096 + v / 64 % 64 * 64
        + v % 64 = v := by omega
    rw [decodeChars?_four _ (by omega) (by omega), four?, hbits, hbits, hbits, ha,
      Option.bind_eq_bind, Option.bind_some, Option.bind_some, Option.bind_some, hv,
      hscalar (by omega), Option.bind_some]

theorem decodeChars?_encodeChars (cs : List Char) : decodeChars? (encodeChars cs) = some cs := by
  induction cs with
  | nil => rfl
  | cons c cs ih =>
    rw [encodeChars, List.flatMap_cons, decodeChars?_encodeChar, ← encodeChars, ih]
    rfl

/-- Text is read back from its bytes. -/
theorem decode?_encode (s : String) : decode? (encode s) = some s := by
  rw [decode?, encode, decodeChars?_encodeChars, Option.map_some, String.ofList_toList]

/-! ### Which bytes a character has -/

theorem ofNat_lt_ofNat {m n : Nat} (hm : m < 256) (hn : n < 256) :
    UInt8.ofNat m < UInt8.ofNat n ↔ m < n :=
  UInt8.ofNat_lt_iff_lt hm hn

theorem ofNat_eq_ofNat {m n : Nat} (hm : m < 256) (hn : n < 256) :
    UInt8.ofNat m = UInt8.ofNat n ↔ m = n := by
  constructor
  · intro h
    rw [← toNat_ofNat hm, h, toNat_ofNat hn]
  · rintro rfl
    rfl

/-- A character of ASCII is one byte, and every byte of another is larger than those. -/
theorem encodeChar_cases (c : Char) :
    (∃ n < 128, c = Char.ofNat n ∧ String.utf8EncodeChar c = [UInt8.ofNat n]) ∨
      128 ≤ c.toNat ∧ ∀ b ∈ String.utf8EncodeChar c, 128 ≤ b.toNat := by
  have hmax : c.val.toNat < 0x110000 := by
    rcases c.valid with h | ⟨-, h⟩ <;> omega
  rcases Nat.lt_or_ge c.toNat 128 with h | h
  · refine .inl ⟨c.toNat, h, (Char.ofNat_toNat c).symm, ?_⟩
    unfold String.utf8EncodeChar
    exact if_pos (Nat.le_of_lt_succ h)
  · refine .inr ⟨h, fun b hb => ?_⟩
    have hv : 128 ≤ c.val.toNat := h
    unfold String.utf8EncodeChar at hb
    generalize c.val.toNat = v at *
    simp only at hb
    split_ifs at hb <;> try omega
    all_goals
      simp only [List.mem_cons, List.not_mem_nil, or_false] at hb
      rcases hb with rfl | rfl | rfl | rfl <;> rw [toNat_ofNat (by omega)] <;> omega

theorem encodeChar_eq_cons (c : Char) : ∃ b bs, String.utf8EncodeChar c = b :: bs :=
  List.exists_cons_of_ne_nil String.utf8EncodeChar_ne_nil

/-- The first byte of a character does not continue another. -/
theorem continuation?_head {c : Char} {b : UInt8} {bs : Bytes}
    (h : String.utf8EncodeChar c = b :: bs) : continuation? b = none := by
  have hmax : c.val.toNat < 0x110000 := by
    rcases c.valid with h | ⟨-, h⟩ <;> omega
  have hnot (hb : b.toNat < 128 ∨ 192 ≤ b.toNat) : continuation? b = none := by
    apply if_neg
    rw [UInt8.le_iff_toNat_le, UInt8.lt_iff_toNat_lt]
    change ¬ (128 ≤ b.toNat ∧ b.toNat < 192)
    omega
  apply hnot
  unfold String.utf8EncodeChar at h
  generalize c.val.toNat = v at *
  simp only at h
  split_ifs at h <;> obtain ⟨rfl, -⟩ := List.cons.inj h <;> rw [toNat_ofNat (by omega)] <;> omega

/-- A test of bytes and one of characters that find the same characters of ASCII, and no others. -/
structure Marks (p : UInt8 → Bool) (q : Char → Bool) : Prop where
  bytes : ∀ n < 256, p (UInt8.ofNat n) = (decide (n < 128) && q (Char.ofNat n))
  chars : ∀ c, q c = true → c.toNat < 128

theorem toNat_char_ofNat {n : Nat} (h : n < 128) : (Char.ofNat n).toNat = n := by
  rw [Char.toNat_ofNat, if_pos (Or.inl (by omega))]

theorem marks_ascii {n : Nat} (hn : n < 128) : Marks (· = UInt8.ofNat n) (· = Char.ofNat n) where
  bytes := by
    intro m hm
    rw [Bool.eq_iff_iff, Bool.and_eq_true, decide_eq_true_iff, decide_eq_true_iff,
      decide_eq_true_iff, ofNat_eq_ofNat hm (by omega)]
    constructor
    · rintro rfl
      exact ⟨hn, rfl⟩
    · rintro ⟨hm', h⟩
      rw [← toNat_char_ofNat hm', h, toNat_char_ofNat hn]
  chars := by
    intro c hc
    rwa [of_decide_eq_true hc, toNat_char_ofNat hn]

namespace Marks

variable {p : UInt8 → Bool} {q : Char → Bool} (h : Marks p q)

include h

theorem of_ascii {n : Nat} (hn : n < 128) : p (UInt8.ofNat n) = q (Char.ofNat n) := by
  rw [h.bytes n (by omega), decide_eq_true hn, Bool.true_and]

theorem of_large {b : UInt8} (hb : 128 ≤ b.toNat) : p b = false := by
  have hbyte := h.bytes b.toNat b.toNat_lt
  rwa [UInt8.ofNat_toNat, decide_eq_false (by omega), Bool.false_and] at hbyte

/-- A character that is found is its byte, and among the bytes of another none is found. -/
theorem char_cases (c : Char) :
    (q c = true ∧ ∃ b, p b = true ∧ String.utf8EncodeChar c = [b]) ∨
      q c = false ∧ ∀ b ∈ String.utf8EncodeChar c, p b = false := by
  rcases encodeChar_cases c with ⟨n, hn, rfl, hbytes⟩ | ⟨hc, hlarge⟩
  · cases hq : q (Char.ofNat n) with
    | true => exact .inl ⟨rfl, _, (h.of_ascii hn).trans hq, hbytes⟩
    | false =>
      refine .inr ⟨rfl, fun b hb => ?_⟩
      rw [hbytes, List.mem_singleton] at hb
      rw [hb, h.of_ascii hn, hq]
  · refine .inr ⟨?_, fun b hb => h.of_large (hlarge b hb)⟩
    rw [← Bool.not_eq_true]
    intro hq
    have := h.chars c hq
    omega

theorem head {c : Char} {b : UInt8} {bs : Bytes} (hb : String.utf8EncodeChar c = b :: bs) :
    p b = q c := by
  rcases h.char_cases c with ⟨hc, b', hb', hbytes⟩ | ⟨hc, hbytes⟩
  · obtain ⟨rfl, -⟩ := List.cons.inj (hb.symm.trans hbytes)
    exact hb'.trans hc.symm
  · rw [hc, hbytes b (hb ▸ List.mem_cons_self)]

theorem exists_byte {c : Char} (hc : q c = true) : ∃ b, String.utf8EncodeChar c = [b] := by
  rcases h.char_cases c with ⟨-, b, -, hbytes⟩ | ⟨hc', -⟩
  · exact ⟨b, hbytes⟩
  · simp [hc] at hc'

end Marks

theorem head_eq_iff {n : Nat} (hn : n < 128) {c : Char} {b : UInt8} {bs : Bytes}
    (hb : String.utf8EncodeChar c = b :: bs) : b = UInt8.ofNat n ↔ c = Char.ofNat n :=
  decide_eq_decide.1 ((marks_ascii hn).head hb)

/-! ### Their order -/

/-- Of two characters the one with the smaller code has the smaller bytes, whatever stands behind
them. -/
theorem encodeChar_append_lt {c d : Char} (h : c < d) (x y : Bytes) :
    String.utf8EncodeChar c ++ x < String.utf8EncodeChar d ++ y := by
  have hlt : c.val.toNat < d.val.toNat := h
  have hmax : d.val.toNat < 0x110000 := by
    rcases d.valid with h | ⟨-, h⟩ <;> omega
  unfold String.utf8EncodeChar
  generalize c.val.toNat = v at *
  generalize d.val.toNat = w at *
  have hsplit {n : Nat} (hn : n < 0x110000) :
      n = n / 262144 % 8 * 262144 + n / 4096 % 64 * 4096 + n / 64 % 64 * 64 + n % 64 := by omega
  have hv := hsplit (hlt.trans hmax)
  have hw := hsplit hmax
  simp only
  -- A longer form begins with a larger byte; of forms of one length the first byte that differs
  -- decides.
  split_ifs <;> simp (disch := omega) only [List.cons_append, List.nil_append,
    List.cons_lt_cons_iff, ofNat_lt_ofNat, ofNat_eq_ofNat] <;> omega

theorem encodeChars_lt {cs ds : List Char} (h : cs < ds) : encodeChars cs < encodeChars ds := by
  induction cs generalizing ds with
  | nil =>
    cases ds with
    | nil => exact absurd h (List.lt_irrefl _)
    | cons d ds =>
      obtain ⟨b, bs, hb⟩ := encodeChar_eq_cons d
      rw [encodeChars, encodeChars, List.flatMap_cons, hb]
      exact List.nil_lt_cons _ _
  | cons c cs ih =>
    cases ds with
    | nil => exact absurd h (List.not_lt_nil _)
    | cons d ds =>
      rw [encodeChars, encodeChars, List.flatMap_cons, List.flatMap_cons]
      rcases List.cons_lt_cons_iff.1 h with hlt | ⟨rfl, hlt⟩
      · exact encodeChar_append_lt hlt _ _
      · exact List.append_left_lt (ih hlt)

/-- Texts in the order of their characters are in the order of their bytes. -/
theorem encode_lt {a b : String} (h : a < b) : encode a < encode b :=
  encodeChars_lt (String.lt_iff_toList_lt.1 h)

theorem encode_inj {a b : String} : encode a = encode b ↔ a = b := by
  constructor
  · intro h
    have hdecode := congrArg decode? h
    rwa [decode?_encode, decode?_encode, Option.some_inj] at hdecode
  · exact congrArg encode

end Utf8

end RequestLog
