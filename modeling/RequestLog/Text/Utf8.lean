/-!
Bytes, and the UTF-8 encoding of text. Decoding takes the shortest form only and no surrogates.
-/

namespace RequestLog

abbrev Bytes := List UInt8

namespace Utf8

def encodeChars (cs : List Char) : Bytes :=
  cs.flatMap String.utf8EncodeChar

def encode (s : String) : Bytes :=
  encodeChars s.toList

/-- The six bits that a byte inside a multi-byte form adds. -/
def continuation? (b : UInt8) : Option Nat :=
  if 0x80 ≤ b ∧ b < 0xC0 then some (b.toNat - 0x80) else none

/-- The character with code `n`, unless a shorter form would have held it. -/
def scalar? (least n : Nat) : Option Char :=
  if least ≤ n ∧ n.isValidChar then some (Char.ofNat n) else none

def two? (a b : UInt8) : Option Char := do
  let x ← continuation? b
  scalar? 0x80 ((a.toNat - 0xC0) * 64 + x)

def three? (a b c : UInt8) : Option Char := do
  let x ← continuation? b
  let y ← continuation? c
  scalar? 0x800 ((a.toNat - 0xE0) * 4096 + x * 64 + y)

def four? (a b c d : UInt8) : Option Char := do
  let x ← continuation? b
  let y ← continuation? c
  let z ← continuation? d
  scalar? 0x10000 ((a.toNat - 0xF0) * 262144 + x * 4096 + y * 64 + z)

def decodeChars? : Bytes → Option (List Char)
  | [] => some []
  | a :: rest =>
    if a < 0x80 then (decodeChars? rest).map (Char.ofNat a.toNat :: ·)
    else if a < 0xC0 then none
    else if a < 0xE0 then
      match rest with
      | b :: rest => (two? a b).bind fun ch => (decodeChars? rest).map (ch :: ·)
      | _ => none
    else if a < 0xF0 then
      match rest with
      | b :: c :: rest => (three? a b c).bind fun ch => (decodeChars? rest).map (ch :: ·)
      | _ => none
    else if a < 0xF8 then
      match rest with
      | b :: c :: d :: rest => (four? a b c d).bind fun ch => (decodeChars? rest).map (ch :: ·)
      | _ => none
    else none

def decode? (bytes : Bytes) : Option String :=
  (decodeChars? bytes).map String.ofList

end Utf8

end RequestLog
