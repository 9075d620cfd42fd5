import RequestLog.Text.Hex
import RequestLog.Json.Value
import RequestLog.Decimal.Reading

/-!
Reading JSON from bytes, left to right; the first fault met is the one reported. A value is read in
full (`readValue`) or only passed over (`skip`): skipping checks the grammar alone, so any nesting,
any number, unpaired surrogates and bytes that are not UTF-8 go by.
-/

namespace RequestLog

inductive Json.Fault where
  | endOfText
  | malformed
deriving DecidableEq, Repr

namespace Json

/-- What was read, and the bytes after it. -/
abbrev Read (α : Type) := Except Fault (α × Bytes)

def isSpace (b : UInt8) : Bool :=
  b == 0x20 || b == 0x09 || b == 0x0A || b == 0x0D

def skipSpace (s : Bytes) : Bytes :=
  s.dropWhile isSpace

def isDigit (b : UInt8) : Bool :=
  0x30 ≤ b && b ≤ 0x39

def digitValue (b : UInt8) : Nat := b.toNat - 0x30

/-! ### Words -/

/-- The rest of a word whose first letter is already read. -/
def word : Bytes → Bytes → Except Fault Bytes
  | [], s => .ok s
  | _ :: _, [] => .error .endOfText
  | w :: ws, b :: s => if b = w then word ws s else .error .malformed

/-! ### Strings -/

def hexValue? (b : UInt8) : Option Nat := Hex.valueOfCode? b.toNat

def hexUnit? (a b c d : UInt8) : Option Nat := do
  return (((← hexValue? a) * 16 + (← hexValue? b)) * 16 + (← hexValue? c)) * 16 + (← hexValue? d)

def isHighSurrogate (unit : Nat) : Bool := 0xD800 ≤ unit && unit < 0xDC00

def isLowSurrogate (unit : Nat) : Bool := 0xDC00 ≤ unit && unit < 0xE000

def pairedScalar (high low : Nat) : Nat :=
  (high - 0xD800) * 0x400 + (low - 0xDC00) + 0x10000

def shortEscape? (b : UInt8) : Option UInt8 :=
  if b = 0x22 then some 0x22
  else if b = 0x5C then some 0x5C
  else if b = 0x2F then some 0x2F
  else if b = 0x62 then some 0x08
  else if b = 0x66 then some 0x0C
  else if b = 0x6E then some 0x0A
  else if b = 0x72 then some 0x0D
  else if b = 0x74 then some 0x09
  else none

/-- Four hexadecimal digits; fewer bytes than that are a text that ends too early. -/
def hexUnit : Bytes → Read Nat
  | a :: b :: c :: d :: s =>
    match hexUnit? a b c d with
    | some unit => .ok (unit, s)
    | none => .error .malformed
  | _ => .error .endOfText

/-- The second half of a surrogate pair, from its backslash on. -/
def lowSurrogate : Bytes → Read Nat
  | [] => .error .endOfText
  | b :: s =>
    if b ≠ 0x5C then .error .malformed
    else
      match s with
      | [] => .error .endOfText
      | b :: s =>
        if b ≠ 0x75 then .error .malformed
        else
          match hexUnit s with
          | .error fault => .error fault
          | .ok (unit, s) => if isLowSurrogate unit then .ok (unit, s) else .error .malformed

def unicodeEscape (s : Bytes) : Read Bytes :=
  match hexUnit s with
  | .error fault => .error fault
  | .ok (unit, s) =>
    if isLowSurrogate unit then .error .malformed
    else if isHighSurrogate unit then
      match lowSurrogate s with
      | .error fault => .error fault
      | .ok (low, s) => .ok (String.utf8EncodeChar (Char.ofNat (pairedScalar unit low)), s)
    else .ok (String.utf8EncodeChar (Char.ofNat unit), s)

def escape : Bytes → Read Bytes
  | [] => .error .endOfText
  | b :: s =>
    match shortEscape? b with
    | some c => .ok ([c], s)
    | none => if b = 0x75 then unicodeEscape s else .error .malformed

/-- The bytes of a string after its opening quote, with the escapes resolved. -/
def stringBytes : Bytes → Read Bytes
  | [] => .error .endOfText
  | b :: rest =>
    if b = 0x22 then .ok ([], rest)
    else if b = 0x5C then
      match escape rest with
      | .error fault => .error fault
      | .ok (bytes, after) =>
        if _h : after.length ≤ rest.length then
          match stringBytes after with
          | .error fault => .error fault
          | .ok (more, after) => .ok (bytes ++ more, after)
        else .error .malformed
    else if b < 0x20 then .error .malformed
    else
      match stringBytes rest with
      | .error fault => .error fault
      | .ok (more, after) => .ok (b :: more, after)
termination_by s => s.length
decreasing_by all_goals simp only [List.length_cons]; omega

/-- The text of a string after its opening quote; its bytes must be UTF-8. -/
def readText (s : Bytes) : Read String :=
  match stringBytes s with
  | .error fault => .error fault
  | .ok (bytes, rest) =>
    match Utf8.decode? bytes with
    | some text => .ok (text, rest)
    | none => .error .malformed

/-! ### Numbers -/

def digits (missing : Fault) (s : Bytes) : Read (List Nat) :=
  match s.takeWhile isDigit with
  | [] => .error (if s.isEmpty then missing else .malformed)
  | ds => .ok (ds.map digitValue, s.dropWhile isDigit)

/-- The digits before the point: a zero stands alone. -/
def wholeDigits (missing : Fault) (s : Bytes) : Read (List Nat) :=
  match digits missing s with
  | .error fault => .error fault
  | .ok (ds, rest) =>
    if ds.head? = some 0 ∧ 1 < ds.length then .error .malformed else .ok (ds, rest)

def fractionDigits (missing : Fault) (s : Bytes) : Read (Option (List Nat)) :=
  match s with
  | [] => .ok (none, [])
  | b :: rest =>
    if b = 0x2E then
      match digits missing rest with
      | .error fault => .error fault
      | .ok (ds, rest) => .ok (some ds, rest)
    else .ok (none, s)

def natOfDigits (ds : List Nat) : Nat :=
  ds.foldl (fun n d => n * 10 + d) 0

def exponentSign : Bytes → Bool × Bytes
  | [] => (false, [])
  | b :: s => if b = 0x2D then (true, s) else if b = 0x2B then (false, s) else (false, b :: s)

def exponentPart (missing : Fault) (s : Bytes) : Read (Option Int) :=
  match s with
  | [] => .ok (none, [])
  | b :: rest =>
    if b = 0x65 ∨ b = 0x45 then
      let (negative, rest) := exponentSign rest
      match digits missing rest with
      | .error fault => .error fault
      | .ok (ds, rest) =>
        .ok (some (if negative then -(natOfDigits ds : Int) else natOfDigits ds), rest)
    else .ok (none, s)

structure Numeral where
  negative : Bool
  whole : List Nat
  fraction : Option (List Nat)
  exponent : Option Int
deriving Repr

/-- A number after its sign. `missing` is the fault of a text that ends where a digit must stand. -/
def numeral (missing : Fault) (negative : Bool) (s : Bytes) : Read Numeral :=
  match wholeDigits missing s with
  | .error fault => .error fault
  | .ok (whole, s) =>
    match fractionDigits missing s with
    | .error fault => .error fault
    | .ok (fraction, s) =>
      match exponentPart missing s with
      | .error fault => .error fault
      | .ok (exponent, s) => .ok (⟨negative, whole, fraction, exponent⟩, s)

/-- The least and the greatest integer that is kept exactly. -/
def isExact (n : Int) : Bool := Word.isSigned n || (0 ≤ n && n < Word.limit)

/-- The value of a numeral: an integer if it is written as one and is exact, the negative zero
apart, else a binary64 number; none beyond the range of those. -/
def Numeral.value? (n : Numeral) : Option Number :=
  let integer : Int := if n.negative then -(natOfDigits n.whole : Int) else natOfDigits n.whole
  if n.fraction.isNone && n.exponent.isNone && isExact integer && !(n.negative && integer == 0) then
    some (.integer integer)
  else
    (Decimal.ofDigits? n.negative n.whole (n.fraction.getD []) (n.exponent.getD 0)).map .real

def readNumber (negative : Bool) (s : Bytes) : Read Json :=
  match numeral .endOfText negative s with
  | .error fault => .error fault
  | .ok (n, rest) =>
    match n.value? with
    | some value => .ok (.number value, rest)
    | none => .error .malformed

/-! ### Values -/

/-- The items of an array: `first` says that none was read yet. `fuel` bounds their number. -/
def readItems (item : Bytes → Read Json) (first : Bool) : Nat → Bytes → Read (List Json)
  | 0, _ => .error .endOfText
  | fuel + 1, s =>
    match skipSpace s with
    | [] => .error .endOfText
    | b :: rest =>
      if b = 0x5D then .ok ([], rest)
      else
        let start : Except Fault Bytes :=
          if first then .ok (b :: rest)
          else if b = 0x2C then .ok (skipSpace rest)
          else .error .malformed
        match start with
        | .error fault => .error fault
        | .ok [] => .error .endOfText
        | .ok (b :: rest) =>
          if b = 0x5D then .error .malformed
          else
            match item (b :: rest) with
            | .error fault => .error fault
            | .ok (value, s) =>
              match readItems item false fuel s with
              | .error fault => .error fault
              | .ok (values, s) => .ok (value :: values, s)

def colon (s : Bytes) : Except Fault Bytes :=
  match skipSpace s with
  | [] => .error .endOfText
  | b :: rest => if b = 0x3A then .ok rest else .error .malformed

/-- The start of the next member, after its opening quote; none at the closing brace. -/
def nextMember (first : Bool) (s : Bytes) : Read Bool :=
  match skipSpace s with
  | [] => .error .endOfText
  | b :: rest =>
    if b = 0x7D then .ok (false, rest)
    else
      let start : Except Fault Bytes :=
        if first then .ok (b :: rest)
        else if b = 0x2C then .ok (skipSpace rest)
        else .error .malformed
      match start with
      | .error fault => .error fault
      | .ok [] => .error .endOfText
      | .ok (b :: rest) => if b = 0x22 then .ok (true, rest) else .error .malformed

def readMembers (item : Bytes → Read Json) (first : Bool) :
    Nat → Bytes → Read (List (String × Json))
  | 0, _ => .error .endOfText
  | fuel + 1, s =>
    match nextMember first s with
    | .error fault => .error fault
    | .ok (false, s) => .ok ([], s)
    | .ok (true, s) =>
      match readText s with
      | .error fault => .error fault
      | .ok (name, s) =>
        match colon s with
        | .error fault => .error fault
        | .ok s =>
          match item s with
          | .error fault => .error fault
          | .ok (value, s) =>
            match readMembers item false fuel s with
            | .error fault => .error fault
            | .ok (rest, s) => .ok ((name, value) :: rest, s)

/-- One value with at most `depth` levels of nesting. -/
def readValue (depth : Nat) (s : Bytes) : Read Json :=
  match skipSpace s with
  | [] => .error .endOfText
  | b :: rest =>
    if b = 0x6E then (word [0x75, 0x6C, 0x6C] rest).map (Json.null, ·)
    else if b = 0x74 then (word [0x72, 0x75, 0x65] rest).map (Json.bool true, ·)
    else if b = 0x66 then (word [0x61, 0x6C, 0x73, 0x65] rest).map (Json.bool false, ·)
    else if b = 0x2D then readNumber true rest
    else if isDigit b then readNumber false (b :: rest)
    else if b = 0x22 then (readText rest).map fun (text, s) => (.string text, s)
    else if b = 0x5B then
      match depth with
      | 0 => .error .malformed
      | depth + 1 =>
        (readItems (readValue depth) true (rest.length + 1) rest).map fun (values, s) =>
          (.array values, s)
    else if b = 0x7B then
      match depth with
      | 0 => .error .malformed
      | depth + 1 =>
        (readMembers (readValue depth) true (rest.length + 1) rest).map fun (pairs, s) =>
          (.object (Members.ofPairs pairs), s)
    else .error .malformed

/-- Nothing but space may follow. -/
def finish {α : Type} : Read α → Except Fault α
  | .error fault => .error fault
  | .ok (a, rest) => if (skipSpace rest).isEmpty then .ok a else .error .malformed

def depthLimit : Nat := 127

def ofBytes (s : Bytes) : Except Fault Json :=
  finish (readValue depthLimit s)

/-! ### Skipping -/

def skipString (s : Bytes) : Except Fault Bytes :=
  match s with
  | [] => .error .endOfText
  | b :: rest =>
    if b = 0x22 then .ok rest
    else if b = 0x5C then
      match rest with
      | [] => .error .endOfText
      | e :: rest =>
        if (shortEscape? e).isSome then skipString rest
        else if e = 0x75 then
          match rest with
          | a :: b :: c :: d :: rest =>
            if (hexUnit? a b c d).isSome then skipString rest else .error .malformed
          | _ => .error .endOfText
        else .error .malformed
    else if b < 0x20 then .error .malformed
    else skipString rest

inductive Frame where
  | array
  | object
deriving DecidableEq

def Frame.close : Frame → UInt8
  | .array => 0x5D
  | .object => 0x7D

/-- Where a skipped value stands: before a value, or after one (`true`) or an opening bracket
(`false`) in the innermost of the open frames. -/
inductive Place where
  | before
  | inside (afterValue : Bool)

def skipScalar (b : UInt8) (rest : Bytes) : Except Fault Bytes :=
  if b = 0x6E then word [0x75, 0x6C, 0x6C] rest
  else if b = 0x74 then word [0x72, 0x75, 0x65] rest
  else if b = 0x66 then word [0x61, 0x6C, 0x73, 0x65] rest
  else if b = 0x2D then (numeral .malformed true rest).map (·.2)
  else if isDigit b then (numeral .malformed false (b :: rest)).map (·.2)
  else if b = 0x22 then skipString rest
  else .error .malformed

/-- A member's name and colon, before its value. -/
def skipName (s : Bytes) : Except Fault Bytes :=
  match skipSpace s with
  | [] => .error .endOfText
  | b :: rest =>
    if b = 0x22 then
      match skipString rest with
      | .error fault => .error fault
      | .ok s => colon s
    else .error .malformed

/-- The next value of a frame: in an object its name comes first. -/
def skipToValue (frame : Frame) (s : Bytes) : Except Fault Bytes :=
  match frame with
  | .array => .ok s
  | .object => skipName s

/-- Passes over a value, with the frames open around it. Each round reads at least one byte or
turns from one place to the other, so twice the length bounds the rounds. -/
def skipFrom : Nat → Place → List Frame → Bytes → Except Fault Bytes
  | 0, _, _, _ => .error .endOfText
  | fuel + 1, .before, frames, s =>
    match skipSpace s with
    | [] => .error .endOfText
    | b :: rest =>
      if b = 0x5B then skipFrom fuel (.inside false) (.array :: frames) rest
      else if b = 0x7B then skipFrom fuel (.inside false) (.object :: frames) rest
      else
        match skipScalar b rest with
        | .error fault => .error fault
        | .ok s => skipFrom fuel (.inside true) frames s
  | _ + 1, .inside _, [], s => .ok s
  | fuel + 1, .inside afterValue, frame :: frames, s =>
    match skipSpace s with
    | [] => .error .endOfText
    | b :: rest =>
      if b = frame.close then skipFrom fuel (.inside true) frames rest
      else
        let start : Except Fault Bytes :=
          if !afterValue then .ok (b :: rest)
          else if b = 0x2C then .ok rest
          else .error .malformed
        match start with
        | .error fault => .error fault
        | .ok s =>
          match skipToValue frame s with
          | .error fault => .error fault
          | .ok s => skipFrom fuel .before (frame :: frames) s

def skip (s : Bytes) : Except Fault Bytes :=
  skipFrom (2 * s.length + 2) .before [] s

end Json

end RequestLog
