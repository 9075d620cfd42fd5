import RequestLog.Toml.Text
import RequestLog.Toml.Value
import RequestLog.Time.Civil
import RequestLog.Decimal.Binary64
import RequestLog.Decimal.Word

/-!
TOML numbers and dates.
-/

namespace RequestLog

namespace Toml

def digitRun (isDigit : Char → Bool) : List Char → List Char × List Char
  | c :: cs =>
    if isDigit c then
      let (ds, rest) := digitRun isDigit cs
      (c :: ds, rest)
    else if c = '_' then
      match cs with
      | d :: ds =>
        if isDigit d then
          let (run, rest) := digitRun isDigit ds
          (d :: run, rest)
        else ([], c :: cs)
      | [] => ([], c :: cs)
    else ([], c :: cs)
  | [] => ([], [])

def digits? (isDigit : Char → Bool) : Scan (List Char)
  | c :: cs =>
    if isDigit c then
      let (ds, rest) := digitRun isDigit cs
      some (c :: ds, rest)
    else none
  | [] => none

def sign? : List Char → Bool × List Char
  | '-' :: cs => (true, cs)
  | '+' :: cs => (false, cs)
  | cs => (false, cs)

def wholeDigits? : Scan (List Char)
  | '0' :: cs => some (['0'], cs)
  | cs => digits? Char.isDigit cs

def natOf (base : Nat) (ds : List Char) : Nat :=
  ds.foldl (fun n c => n * base + (Hex.value? c).getD 0) 0

def wordOf? (n : Int) : Option Toml :=
  if Word.isSigned n then some (.integer n) else none

def basedInteger? (base : Nat) (isDigit : Char → Bool) (cs : List Char) :
    Option (Toml × List Char) := do
  let (ds, rest) ← digits? isDigit cs
  return (← wordOf? (natOf base ds), rest)

def isHexDigit (c : Char) : Bool := (Hex.value? c).isSome

def integer? (cs : List Char) : Option (Toml × List Char) :=
  match cs with
  | '0' :: 'x' :: rest => basedInteger? 16 isHexDigit rest
  | '0' :: 'o' :: rest => basedInteger? 8 (fun c => '0' ≤ c && c ≤ '7') rest
  | '0' :: 'b' :: rest => basedInteger? 2 (fun c => c = '0' || c = '1') rest
  | _ => do
    let (negative, rest) := sign? cs
    let (ds, rest) ← wholeDigits? rest
    let n := natOf 10 ds
    return (← wordOf? (if negative then -(n : Int) else n), rest)

/-- The digits times a power of ten are within the range of floats. -/
def inFloatRange (digits : List Char) (exponent : Int) : Bool :=
  let n := natOf 10 digits
  let size : Int := digits.length + exponent
  if n = 0 ∨ size < 300 then true
  else if 400 + (digits.length : Int) < size then false
  else if 0 ≤ exponent then (Binary64.ofFraction? false (n * Nat.pow 10 exponent.toNat) 1).isSome
  else (Binary64.ofFraction? false n (Nat.pow 10 (-exponent).toNat)).isSome

def exponent? : Scan Int
  | c :: cs =>
    if c = 'e' ∨ c = 'E' then do
      let (negative, rest) := sign? cs
      let (ds, rest) ← digits? Char.isDigit rest
      let n := natOf 10 ds
      return (if negative then -(n : Int) else n, rest)
    else none
  | [] => none

/-- A float has a fraction or an exponent. A positive one may not be too large. -/
def decimalFloat? (cs : List Char) : Option (Toml × List Char) := do
  let (negative, rest) := sign? cs
  let (whole, rest) ← wholeDigits? rest
  let (fraction, exponent, rest) ←
    match rest with
    | '.' :: rest => do
      let (fraction, rest) ← digits? Char.isDigit rest
      match exponent? rest with
      | some (e, rest) => some (fraction, e, rest)
      | none => some (fraction, (0 : Int), rest)
    | rest => (exponent? rest).map fun (e, rest) => ([], e, rest)
  if negative || inFloatRange (whole ++ fraction) (exponent - fraction.length) then
    some (.float, rest)
  else none

def specialFloat? (cs : List Char) : Option (Toml × List Char) :=
  let rest := (sign? cs).2
  match startsWith? ['i', 'n', 'f'] rest, startsWith? ['n', 'a', 'n'] rest with
  | some rest, _ => some (.float, rest)
  | none, some rest => some (.float, rest)
  | none, none => none

/-! ### Dates -/

def field? (n least greatest : Nat) (cs : List Char) : Option (Nat × List Char) :=
  let ds := cs.take n
  if ds.length = n ∧ ds.all Char.isDigit ∧ least ≤ natOf 10 ds ∧ natOf 10 ds ≤ greatest then
    some (natOf 10 ds, cs.drop n)
  else none

def fraction? : List Char → Option (List Char)
  | '.' :: cs =>
    if (cs.takeWhile Char.isDigit).isEmpty then none else some (cs.dropWhile Char.isDigit)
  | cs => some cs

def time? (cs : List Char) : Option (List Char) := do
  let (_, cs) ← field? 2 0 23 cs
  let cs ← exactly? ':' cs
  let (_, cs) ← field? 2 0 59 cs
  let cs ← exactly? ':' cs
  let (_, cs) ← field? 2 0 60 cs
  fraction? cs

def offset? : List Char → Option (List Char)
  | [] => some []
  | c :: cs =>
    if c = 'Z' ∨ c = 'z' then some cs
    else if c = '+' ∨ c = '-' then do
      let (_, cs) ← field? 2 0 23 cs
      let cs ← exactly? ':' cs
      let (_, cs) ← field? 2 0 59 cs
      some cs
    else some (c :: cs)

def looksLikeDate (cs : List Char) : Bool :=
  (cs.take 4).length = 4 && (cs.take 4).all Char.isDigit && (cs.drop 4).head? = some '-'

def looksLikeTime (cs : List Char) : Bool :=
  (cs.take 2).length = 2 && (cs.take 2).all Char.isDigit && (cs.drop 2).head? = some ':'

def date? (cs : List Char) : Option (List Char) := do
  let (year, cs) ← field? 4 0 9999 cs
  let cs ← exactly? '-' cs
  let (month, cs) ← field? 2 1 12 cs
  let cs ← exactly? '-' cs
  let (day, cs) ← field? 2 1 31 cs
  if Date.isValid ⟨year, month, day⟩ then some cs else none

/-- A date, possibly with a time of day. After a space the time may be missing. -/
def dateTime? (cs : List Char) : Option (Toml × List Char) := do
  let rest ← date? cs
  match rest with
  | c :: after =>
    if (c = 'T' ∨ c = 't' ∨ c = ' ') && looksLikeTime after then
      let rest ← time? after
      let rest ← offset? rest
      return (.date, rest)
    else return (.date, rest)
  | [] => return (.date, [])

def number? (cs : List Char) : Option (Toml × List Char) :=
  if looksLikeDate cs then dateTime? cs
  else if looksLikeTime cs then (time? cs).map (.date, ·)
  else
    match specialFloat? cs, decimalFloat? cs with
    | some read, _ => some read
    | none, some read => some read
    | none, none => integer? cs

end Toml

end RequestLog
