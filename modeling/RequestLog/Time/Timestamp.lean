import RequestLog.Time.Civil
import RequestLog.Text.Blank

/-!
Moments with the offset of the clock that showed them, their RFC 3339 notation, and the notation of
request logs.
-/

namespace RequestLog

/-- `seconds` counts from the beginning of 1970 in UTC and `offset` is the clock's lead over UTC in
seconds. In a leap second `nanos` reaches beyond 10⁹. -/
structure Timestamp where
  seconds : Int
  nanos : Nat
  offset : Int
deriving DecidableEq, Repr

namespace Timestamp

/-! ### Milliseconds of the epoch -/

def firstDay : Int := Date.toDay ⟨-262143, 1, 1⟩

def lastDay : Int := Date.toDay ⟨262142, 12, 31⟩

/-- The moment `millis` milliseconds after the epoch, in UTC, if its year is not too far away. -/
def ofMillis? (millis : Int) : Option Timestamp :=
  if firstDay * 86400000 ≤ millis ∧ millis < (lastDay + 1) * 86400000 then
    some ⟨millis / 1000, (millis % 1000).toNat * 1000000, 0⟩
  else none

/-! ### RFC 3339 -/

def digit? (c : Char) : Option Nat :=
  if '0' ≤ c ∧ c ≤ '9' then some (c.toNat - 48) else none

def digits? : Nat → Nat → List Char → Option (Nat × List Char)
  | 0, value, cs => some (value, cs)
  | _ + 1, _, [] => none
  | n + 1, value, c :: cs => (digit? c).bind fun d => digits? n (value * 10 + d) cs

def mark? (allowed : List Char) : List Char → Option (List Char)
  | c :: cs => if c ∈ allowed then some cs else none
  | [] => none

/-- The first nine digits of a fraction as nanoseconds; digits beyond them are dropped. -/
def nanosOf (ds : List Char) : Nat :=
  let nine := (ds.take 9).foldl (fun n c => n * 10 + (c.toNat - 48)) 0
  nine * Nat.pow 10 (9 - ds.length)

def fraction? : List Char → Option (Nat × List Char)
  | '.' :: cs =>
    let ds := cs.takeWhile Char.isDigit
    if ds.isEmpty then none else some (nanosOf ds, cs.dropWhile Char.isDigit)
  | cs => some (0, cs)

def minusSign : Char := Char.ofNat 0x2212

/-- The offset in seconds; it ends the text and stays below a day. -/
def offset? : List Char → Option Int
  | ['Z'] => some 0
  | ['z'] => some 0
  | sign :: cs => do
    let (hours, cs) ← digits? 2 0 cs
    let cs ← mark? [':'] cs
    let (minutes, cs) ← digits? 2 0 cs
    if cs ≠ [] ∨ 23 < hours ∨ 59 < minutes then none
    else
      let seconds : Int := hours * 3600 + minutes * 60
      if sign = '+' then some seconds
      else if sign = '-' ∨ sign = minusSign then some (-seconds)
      else none
  | [] => none

structure Local where
  date : Date
  hour : Nat
  minute : Nat
  second : Nat
  nanos : Nat
deriving DecidableEq, Repr

def Local.isValid (l : Local) : Bool :=
  l.date.isValid && l.hour ≤ 23 && l.minute ≤ 59 && l.second ≤ 60

/-- The second 60 is kept as an overlong second 59. -/
def ofLocal (l : Local) (offset : Int) : Timestamp :=
  let second := min l.second 59
  { seconds := l.date.toDay * 86400 + l.hour * 3600 + l.minute * 60 + second - offset
    nanos := (l.second - second) * 1000000000 + l.nanos
    offset }

def toLocal (t : Timestamp) : Local :=
  let s := t.seconds + t.offset
  let ofDay := (s % 86400).toNat
  { date := Date.ofDay (s / 86400)
    hour := ofDay / 3600
    minute := ofDay / 60 % 60
    second := ofDay % 60 + t.nanos / 1000000000
    nanos := t.nanos % 1000000000 }

def local? (cs : List Char) : Option (Local × List Char) := do
  let (year, cs) ← digits? 4 0 cs
  let cs ← mark? ['-'] cs
  let (month, cs) ← digits? 2 0 cs
  let cs ← mark? ['-'] cs
  let (day, cs) ← digits? 2 0 cs
  let cs ← mark? ['T', 't', ' '] cs
  let (hour, cs) ← digits? 2 0 cs
  let cs ← mark? [':'] cs
  let (minute, cs) ← digits? 2 0 cs
  let cs ← mark? [':'] cs
  let (second, cs) ← digits? 2 0 cs
  let (nanos, cs) ← fraction? cs
  return (⟨⟨year, month, day⟩, hour, minute, second, nanos⟩, cs)

def ofRfc3339Chars? (cs : List Char) : Option Timestamp := do
  let (l, cs) ← local? cs
  let offset ← offset? cs
  if l.isValid then some (ofLocal l offset) else none

def ofRfc3339? (s : String) : Option Timestamp :=
  ofRfc3339Chars? s.toList

/-! ### Request logs -/

def pad (width n : Nat) : String :=
  let digits := toString n
  String.ofList (List.replicate (width - digits.length) '0') ++ digits

/-- Four digits; a year outside them has a sign and at least four. -/
def yearText (year : Int) : String :=
  if 0 ≤ year ∧ year ≤ 9999 then pad 4 year.toNat
  else (if year < 0 then "-" else "+") ++ pad 4 year.natAbs

def monthName (month : Nat) : String :=
  ["Jan", "Feb", "Mar", "Apr", "May", "Jun", "Jul", "Aug", "Sep", "Oct", "Nov", "Dec"].getD
    (month - 1) ""

def offsetText (offset : Int) : String :=
  let minutes := offset.natAbs / 60
  (if offset < 0 then "-" else "+") ++ pad 2 (minutes / 60) ++ pad 2 (minutes % 60)

/-- The date and time of day of the clock, and its offset: `[31/Dec/1999:23:59:59 +0000]`. -/
def toLogText (t : Timestamp) : String :=
  let l := t.toLocal
  "[" ++ pad 2 l.date.day ++ "/" ++ monthName l.date.month ++ "/" ++ yearText l.date.year
    ++ ":" ++ pad 2 l.hour ++ ":" ++ pad 2 l.minute ++ ":" ++ pad 2 l.second
    ++ " " ++ offsetText t.offset ++ "]"

end Timestamp

end RequestLog
