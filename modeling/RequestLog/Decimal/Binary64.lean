/-!
Finite binary64 numbers in exact arithmetic. Every operation rounds the exact fraction once, to the
nearest number and from a tie to the even mantissa, and has no value beyond the largest number.
-/

namespace RequestLog

/-- The number `± mantissa * 2 ^ exponent`. The mantissa is below `2 ^ 53` and at least `2 ^ 52`
unless the exponent is the least one, `-1074`. -/
structure Binary64 where
  negative : Bool
  mantissa : Nat
  exponent : Int
deriving DecidableEq, Repr

namespace Binary64

/-- `2 ^ 53`, too large for a mantissa. -/
def mantissaLimit : Nat := 0x20000000000000

/-- `2 ^ 52`, the least mantissa above the least exponent. -/
def smallestNormal : Nat := 0x10000000000000

def zero (negative : Bool) : Binary64 := ⟨negative, 0, -1074⟩

/-- `num / den` to the nearest integer, a half to the even one. -/
def roundHalfEven (num den : Nat) : Nat :=
  let q := num / den
  let r := 2 * (num % den)
  if r < den then q else if den < r then q + 1 else q + q % 2

def powerAtMost (k : Int) (num den : Nat) : Bool :=
  if 0 ≤ k then den * Nat.pow 2 k.toNat ≤ num else den ≤ num * Nat.pow 2 (-k).toNat

/-- The exponent that gives `num / den` a mantissa of 53 bits. -/
def fullExponent (num den : Nat) : Int :=
  let k : Int := (num.log2 : Int) - den.log2
  if powerAtMost k num den then k - 52 else k - 53

def mantissaAt (e : Int) (num den : Nat) : Nat :=
  if 0 ≤ e then roundHalfEven num (den * Nat.pow 2 e.toNat)
  else roundHalfEven (num * Nat.pow 2 (-e).toNat) den

def make? (negative : Bool) (mantissa : Nat) (exponent : Int) : Option Binary64 :=
  if 971 < exponent then none else some ⟨negative, mantissa, exponent⟩

def ofFraction? (negative : Bool) (num den : Nat) : Option Binary64 :=
  if num = 0 then some (zero negative)
  else
    let e := max (fullExponent num den) (-1074)
    let m := mantissaAt e num den
    if m = mantissaLimit then make? negative smallestNormal (e + 1) else make? negative m e

def ofScaledFraction? (negative : Bool) (num den : Nat) (e : Int) : Option Binary64 :=
  if 0 ≤ e then ofFraction? negative (num * Nat.pow 2 e.toNat) den
  else ofFraction? negative num (den * Nat.pow 2 (-e).toNat)

def ofNat? (n : Nat) : Option Binary64 := ofFraction? false n 1

def mul? (x y : Binary64) : Option Binary64 :=
  ofScaledFraction? (x.negative != y.negative) (x.mantissa * y.mantissa) 1
    (x.exponent + y.exponent)

def div? (x y : Binary64) : Option Binary64 :=
  ofScaledFraction? (x.negative != y.negative) x.mantissa y.mantissa (x.exponent - y.exponent)

def isWhole (x : Binary64) : Bool :=
  if 0 ≤ x.exponent then true else x.mantissa % Nat.pow 2 (-x.exponent).toNat == 0

def wholePart (x : Binary64) : Nat :=
  if 0 ≤ x.exponent then x.mantissa * Nat.pow 2 x.exponent.toNat
  else x.mantissa / Nat.pow 2 (-x.exponent).toNat

def truncate (x : Binary64) : Int :=
  if x.negative then -(x.wholePart : Int) else x.wholePart

end Binary64

end RequestLog
