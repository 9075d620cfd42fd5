import RequestLog.Decimal.Word
import RequestLog.Text.Blank

/-!
Spans of time, and their text: numbers, each with a unit, such as `1h 30m` or `2.5 days`.
-/

namespace RequestLog

/-- Whole seconds, and nanoseconds below one second. -/
structure Duration where
  seconds : Nat
  nanos : Nat
deriving DecidableEq, Repr

namespace Duration

def zero : Duration := ⟨0, 0⟩

def ofMillis (millis : Nat) : Duration := ⟨millis / 1000, millis % 1000 * 1000000⟩

def toNanos (d : Duration) : Nat := d.seconds * 1000000000 + d.nanos

def isZero (d : Duration) : Bool := d.seconds == 0 && d.nanos == 0

def word? (n : Nat) : Option Nat := if Word.isUnsigned n then some n else none

inductive Unit where
  | nanosecond
  | microsecond
  | millisecond
  | second
  | minute
  | hour
  | day
  | week
  | month
  | year
deriving DecidableEq, Repr

namespace Unit

def names : List (Unit × List String) :=
  [ (nanosecond, ["nanos", "nsec", "ns"]),
    (microsecond, ["usec", "us", "µs"]),
    (millisecond, ["millis", "msec", "ms"]),
    (second, ["seconds", "second", "secs", "sec", "s"]),
    (minute, ["minutes", "minute", "min", "mins", "m"]),
    (hour, ["hours", "hour", "hrs", "hr", "h"]),
    (day, ["days", "day", "d"]),
    (week, ["weeks", "week", "wks", "wk", "w"]),
    (month, ["months", "month", "M"]),
    (year, ["years", "year", "yrs", "yr", "y"]) ]

def ofName? (name : String) : Option Unit :=
  (names.find? fun (_, spellings) => spellings.contains name).map (·.1)

/-- Seconds in units of at least a second: a month has 30.44 days and a year 365.25. -/
def seconds : Unit → Nat
  | .minute => 60
  | .hour => 3600
  | .day => 86400
  | .week => 604800
  | .month => 2630016
  | .year => 31557600
  | _ => 1

def nanos : Unit → Nat
  | .nanosecond => 1
  | .microsecond => 1000
  | .millisecond => 1000000
  | unit => unit.seconds * 1000000000

def isBelowSecond : Unit → Bool
  | .nanosecond => true
  | .microsecond => true
  | .millisecond => true
  | _ => false

end Unit

def add? (d : Duration) (seconds nanos : Nat) : Option Duration := do
  let nanos ← word? (d.nanos + nanos)
  let seconds ← word? (seconds + nanos / 1000000000)
  return ⟨← word? (d.seconds + seconds), nanos % 1000000000⟩

def addWhole? (d : Duration) (n : Nat) (unit : Unit) : Option Duration := do
  if unit.isBelowSecond then d.add? 0 (← word? (n * unit.nanos))
  else d.add? (← word? (n * unit.seconds)) 0

/-- Adds `numerator / denominator` units, which must be whole nanoseconds. -/
def addFraction? (d : Duration) (numerator denominator : Nat) (unit : Unit) : Option Duration := do
  if unit = .nanosecond then none
  else
    let product ← word? (numerator * unit.nanos)
    if product % denominator = 0 then d.add? 0 (product / denominator) else none

def isDigit (c : Char) : Bool := '0' ≤ c && c ≤ '9'

def isUnitLetter (c : Char) : Bool :=
  ('a' ≤ c && c ≤ 'z') || ('A' ≤ c && c ≤ 'Z') || c.toNat = 0xB5

def digitsAndBlanks (cs : List Char) : List Char × List Char :=
  let inside (c : Char) : Bool := isDigit c || Blank.isBlank c
  ((cs.takeWhile inside).filter isDigit, cs.dropWhile inside)

def number? (ds : List Char) : Option Nat :=
  ds.foldlM (fun n c => word? (n * 10 + (c.toNat - 48))) 0

/-- A number with its fraction, as a numerator and a power of ten. -/
structure Amount where
  whole : Nat
  fraction : Option (Nat × Nat)

def amount? (cs : List Char) : Option (Amount × List Char) := do
  let (ds, rest) := digitsAndBlanks cs
  let whole ← number? ds
  match rest with
  | '.' :: rest =>
    let (fs, rest) := digitsAndBlanks rest
    if fs.isEmpty then none
    else return (⟨whole, some (← number? fs, ← word? (Nat.pow 10 fs.length))⟩, rest)
  | rest => return (⟨whole, none⟩, rest)

/-- The text after one term: a unit ends at a digit, at a blank or with the text. -/
def unit? (cs : List Char) : Option (Unit × List Char) := do
  let unit ← Unit.ofName? (String.ofList (cs.takeWhile isUnitLetter))
  let rest := cs.dropWhile isUnitLetter
  match rest with
  | [] => return (unit, [])
  | c :: _ => if isDigit c || Blank.isBlank c then return (unit, rest) else none

def addTerm? (d : Duration) (amount : Amount) (unit : Unit) : Option Duration := do
  let d ← d.addWhole? amount.whole unit
  match amount.fraction with
  | some (numerator, denominator) => d.addFraction? numerator denominator unit
  | none => return d

def terms? : Nat → Duration → List Char → Option Duration
  | 0, _, _ => none
  | fuel + 1, d, cs =>
    match cs.dropWhile Blank.isBlank with
    | [] => some d
    | c :: rest =>
      if !isDigit c then none
      else do
        let (amount, rest) ← amount? (c :: rest)
        let (unit, rest) ← unit? rest
        terms? fuel (← d.addTerm? amount unit) rest

/-- A span of time from its text. A zero alone needs no unit. -/
def ofText? (s : String) : Option Duration :=
  let cs := s.toList
  if s = "0" then some zero
  else if cs.all Blank.isBlank then none
  else terms? (cs.length + 1) zero cs

end Duration

end RequestLog
