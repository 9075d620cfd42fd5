import RequestLog.Decimal.Binary64

/-!
The shortest decimal that reads back as a given binary64 number: on the coarsest decimal grid that
has a point among the reals rounding to the number, the point nearest to it.
-/

namespace RequestLog

/-- `digits * 10 ^ exponent`. -/
structure Decimal where
  digits : Nat
  exponent : Int
deriving DecidableEq, Repr

namespace Decimal

/-- The step of `x` in quarters over the grid `10 ^ k`, as a fraction. -/
def quarterStep (x : Binary64) (k : Int) : Nat × Nat :=
  let e := x.exponent - 2
  (Nat.pow 2 e.toNat * Nat.pow 10 (-k).toNat, Nat.pow 2 (-e).toNat * Nat.pow 10 k.toNat)

/-- How many quarters of a step below `x` still round to it. -/
def quartersBelow (x : Binary64) : Nat :=
  if x.mantissa = Binary64.smallestNormal ∧ -1074 < x.exponent then 1 else 2

/-- `point * 10 ^ k` rounds to `x`. The ends of the range round to an even mantissa. -/
def roundsTo (x : Binary64) (k : Int) (point : Nat) : Bool :=
  let (num, den) := quarterStep x k
  let least := (4 * x.mantissa - quartersBelow x) * num
  let greatest := (4 * x.mantissa + 2) * num
  if x.mantissa % 2 = 0 then least ≤ point * den && point * den ≤ greatest
  else least < point * den && point * den < greatest

/-- The neighbour of `x` on the grid `10 ^ k` that rounds to it and is nearest. -/
def pointOn? (x : Binary64) (k : Int) : Option Nat :=
  let (num, den) := quarterStep x k
  let below := 4 * x.mantissa * num / den
  match roundsTo x k below, roundsTo x k (below + 1) with
  | true, true => some (Binary64.roundHalfEven (4 * x.mantissa * num) den)
  | true, false => some below
  | false, true => some (below + 1)
  | false, false => none

/-- An exponent `k` with `x < 10 ^ k`. -/
def coarseGrid (x : Binary64) : Int :=
  ((x.mantissa.log2 : Int) + x.exponent + 1) * 30103 / 100000 + 2

def search (x : Binary64) : Nat → Int → Decimal
  | 0, k => ⟨x.mantissa, k⟩
  | fuel + 1, k =>
    match pointOn? x k with
    | some point => ⟨point, k⟩
    | none => search x fuel (k - 1)

/-- Seventeen digits always suffice, so the search ends well before its bound. -/
def shortest (x : Binary64) : Decimal :=
  if x.mantissa = 0 then ⟨0, 0⟩ else search x 40 (coarseGrid x)

/-- Where a decimal is written with a point and where with an exponent: `pointMin` and `pointMax`
bound the number of digits before the point. -/
structure Layout where
  pointMin : Int
  pointMax : Int
  positiveExponent : String

def zeros (n : Nat) : String := String.ofList (List.replicate n '0')

def scientific (layout : Layout) (digits : List Char) (exponent : Int) : String :=
  let mantissa :=
    match digits with
    | first :: second :: rest => first :: '.' :: second :: rest
    | digits => digits
  let sign := if exponent < 0 then "-" else layout.positiveExponent
  String.ofList mantissa ++ "e" ++ sign ++ toString exponent.natAbs

/-- Whole numbers keep one zero after the point. -/
def write (layout : Layout) (d : Decimal) : String :=
  let digits := (toString d.digits).toList
  let point := digits.length + d.exponent
  if 0 ≤ d.exponent ∧ point ≤ layout.pointMax then
    String.ofList digits ++ zeros d.exponent.toNat ++ ".0"
  else if 0 < point ∧ point ≤ layout.pointMax then
    String.ofList (digits.take point.toNat) ++ "." ++ String.ofList (digits.drop point.toNat)
  else if layout.pointMin ≤ point ∧ point ≤ 0 then
    "0." ++ zeros (-point).toNat ++ String.ofList digits
  else scientific layout digits (point - 1)

end Decimal

end RequestLog
