import RequestLog.Decimal.Binary64
import RequestLog.Decimal.Word

/-!
From decimal digits to binary64. The digits are gathered into a word of 64 bits, which is then
multiplied or divided by the nearest binary64 number of a power of ten; the two roundings show in
the last bit of some results.
-/

namespace RequestLog

namespace Decimal

/-- The digits that still fit a 64-bit word after `word`, and how many were left out. -/
def gather (word : Nat) : List Nat → Nat × Nat
  | [] => (word, 0)
  | d :: ds =>
    if Word.isUnsigned (word * 10 + d) then gather (word * 10 + d) ds else (word, ds.length + 1)

/-- The greatest power of ten with a nearest binary64 number. -/
def greatestPower : Nat := 308

def tenPower? (k : Nat) : Option Binary64 :=
  Binary64.ofNat? (Nat.pow 10 k)

def raise? (x : Binary64) (k : Nat) : Option Binary64 :=
  if x.mantissa = 0 then some x
  else if greatestPower < k then none
  else (tenPower? k).bind x.mul?

/-- Divides by the greatest power `n` times, or until nothing is left of the number. -/
def lowerSteps? (x : Binary64) : Nat → Option Binary64
  | 0 => some x
  | n + 1 =>
    if x.mantissa = 0 then some x
    else ((tenPower? greatestPower).bind x.div?).bind (lowerSteps? · n)

def lower? (x : Binary64) (k : Nat) : Option Binary64 :=
  let steps := (k - 1) / greatestPower
  (lowerSteps? x steps).bind fun y =>
    if y.mantissa = 0 then some y else (tenPower? (k - steps * greatestPower)).bind y.div?

/-- `± word * 10 ^ exponent`; none if it is beyond the range of binary64. -/
def toBinary64? (negative : Bool) (word : Nat) (exponent : Int) : Option Binary64 := do
  let x ← Binary64.ofNat? word
  let y ← if 0 ≤ exponent then raise? x exponent.toNat else lower? x (-exponent).toNat
  return { y with negative }

def ofDigits? (negative : Bool) (whole fraction : List Nat) (exponent : Int) : Option Binary64 :=
  let (word, dropped) := gather 0 whole
  let (word, rest) := gather word fraction
  toBinary64? negative word (exponent + dropped - (fraction.length - rest : Nat))

end Decimal

end RequestLog
