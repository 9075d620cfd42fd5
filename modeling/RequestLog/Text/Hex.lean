import RequestLog.Text.Utf8

/-!
Hexadecimal digits, and bytes written as two of them each.
-/

namespace RequestLog

namespace Hex

def lower (n : Nat) : Char := if n < 10 then Char.ofNat (48 + n) else Char.ofNat (87 + n)

def upper (n : Nat) : Char := if n < 10 then Char.ofNat (48 + n) else Char.ofNat (55 + n)

/-- The value of a digit in either case, by its code. -/
def valueOfCode? (code : Nat) : Option Nat :=
  if 48 ≤ code ∧ code ≤ 57 then some (code - 48)
  else if 97 ≤ code ∧ code ≤ 102 then some (code - 87)
  else if 65 ≤ code ∧ code ≤ 70 then some (code - 55)
  else none

def value? (c : Char) : Option Nat := valueOfCode? c.toNat

def ofByte (b : UInt8) : List Char := [lower (b.toNat / 16), lower (b.toNat % 16)]

def ofBytes (bytes : Bytes) : List Char := bytes.flatMap ofByte

def toBytes? : List Char → Option Bytes
  | [] => some []
  | [_] => none
  | a :: b :: rest => do
    let byte := UInt8.ofNat ((← value? a) * 16 + (← value? b))
    return byte :: (← toBytes? rest)

end Hex

end RequestLog
