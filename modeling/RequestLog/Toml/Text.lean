import RequestLog.Text.Hex

/-!
The lexical grammar of TOML: space, comments, keys and strings. A scan gives what it read and the
characters after it, and nothing where the grammar is not met.
-/

namespace RequestLog

namespace Toml

abbrev Scan (α : Type) := List Char → Option (α × List Char)

def isSpace (c : Char) : Bool := c = ' ' || c = '\t'

def skipSpace (cs : List Char) : List Char := cs.dropWhile isSpace

def exactly? (c : Char) : List Char → Option (List Char)
  | d :: cs => if c = d then some cs else none
  | [] => none

def startsWith? (start : List Char) (cs : List Char) : Option (List Char) :=
  if start.isPrefixOf cs then some (cs.drop start.length) else none

/-- Characters of text: tabs and everything from the space on, but no delete character. -/
def isTextual (c : Char) : Bool :=
  c = '\t' || (0x20 ≤ c.toNat && c.toNat ≠ 0x7F)

def newline? : List Char → Option (List Char)
  | '\n' :: cs => some cs
  | '\r' :: '\n' :: cs => some cs
  | _ => none

def skipComment : List Char → List Char
  | '#' :: cs => cs.dropWhile isTextual
  | cs => cs

/-- What may stand between a value and the end of its line, with the line's end. -/
def lineEnd? (cs : List Char) : Option (List Char) :=
  match skipComment (skipSpace cs) with
  | [] => some []
  | cs => newline? cs

/-- Space, line ends and comments. A lone carriage return is none of them and stays. -/
def skipBlank (cs : List Char) : List Char :=
  match cs with
  | [] => []
  | '\n' :: rest => skipBlank rest
  | '\r' :: '\n' :: rest => skipBlank rest
  | '#' :: rest => skipBlank (rest.dropWhile isTextual)
  | c :: rest => if isSpace c then skipBlank rest else c :: rest
termination_by cs.length
decreasing_by
  all_goals simp only [List.length_cons]
  all_goals first
    | omega
    | exact Nat.lt_succ_of_le (List.dropWhile_suffix isTextual).length_le

/-! ### Strings -/

def hexDigits? : Nat → Nat → Scan Nat
  | 0, value, cs => some (value, cs)
  | _ + 1, _, [] => none
  | n + 1, value, c :: cs => (Hex.value? c).bind fun d => hexDigits? n (value * 16 + d) cs

def scalar? (n : Nat) : Option Char :=
  if n.isValidChar then some (Char.ofNat n) else none

def escape? : Scan Char
  | 'b' :: cs => some ('\x08', cs)
  | 't' :: cs => some ('\t', cs)
  | 'n' :: cs => some ('\n', cs)
  | 'f' :: cs => some ('\x0c', cs)
  | 'r' :: cs => some ('\r', cs)
  | '"' :: cs => some ('"', cs)
  | '\\' :: cs => some ('\\', cs)
  | 'u' :: cs => (hexDigits? 4 0 cs).bind fun (n, cs) => (scalar? n).map (·, cs)
  | 'U' :: cs => (hexDigits? 8 0 cs).bind fun (n, cs) => (scalar? n).map (·, cs)
  | _ => none

/-- The body of a one-line string with escapes, after its opening quote. `fuel` bounds the number
of characters. -/
def basicBody : Nat → Scan (List Char)
  | 0, _ => none
  | _, [] => none
  | _ + 1, '"' :: cs => some ([], cs)
  | fuel + 1, '\\' :: cs => do
    let (c, cs) ← escape? cs
    let (body, cs) ← basicBody fuel cs
    return (c :: body, cs)
  | fuel + 1, c :: cs => do
    if !isTextual c then none
    else
      let (body, cs) ← basicBody fuel cs
      return (c :: body, cs)

def literalBody (cs : List Char) : Option (List Char × List Char) :=
  let inside (c : Char) : Bool := isTextual c && c ≠ '\''
  (exactly? '\'' (cs.dropWhile inside)).map (cs.takeWhile inside, ·)

/-- The close of a string of several lines: three quotes, with up to two more of them inside. -/
def closing? (quote : Char) (cs : List Char) : Option (List Char × List Char) :=
  let quotes := (cs.takeWhile (· = quote)).length
  if quotes < 3 then none
  else
    let inside := min (quotes - 3) 2
    some (List.replicate inside quote, cs.drop (inside + 3))

def isSpaceOrLine (c : Char) : Bool := isSpace c || c = '\n'

def skipContinued (cs : List Char) : List Char :=
  match cs with
  | '\r' :: '\n' :: rest => skipContinued rest
  | c :: rest => if isSpaceOrLine c then skipContinued rest else c :: rest
  | [] => []

/-- The body of a string of several lines with escapes. Line ends read as line feeds, and a
backslash at the end of a line joins it to the next text. -/
def multiBasicBody : Nat → Scan (List Char)
  | 0, _ => none
  | fuel + 1, cs =>
    match closing? '"' cs with
    | some closed => some closed
    | none =>
      match cs with
      | [] => none
      | '\\' :: rest =>
        match newline? (skipSpace rest) with
        | some rest => multiBasicBody fuel (skipContinued rest)
        | none => do
          let (c, rest) ← escape? rest
          let (body, rest) ← multiBasicBody fuel rest
          return (c :: body, rest)
      | c :: rest =>
        match newline? cs with
        | some rest => (multiBasicBody fuel rest).map fun (body, cs) => ('\n' :: body, cs)
        | none =>
          if isTextual c then (multiBasicBody fuel rest).map fun (body, cs) => (c :: body, cs)
          else none

def multiLiteralBody : Nat → Scan (List Char)
  | 0, _ => none
  | fuel + 1, cs =>
    match closing? '\'' cs with
    | some closed => some closed
    | none =>
      match cs with
      | [] => none
      | c :: rest =>
        match newline? cs with
        | some rest => (multiLiteralBody fuel rest).map fun (body, cs) => ('\n' :: body, cs)
        | none =>
          if isTextual c then (multiLiteralBody fuel rest).map fun (body, cs) => (c :: body, cs)
          else none

/-- A line end right after the opening quotes is not part of the string. -/
def dropFirstLine (cs : List Char) : List Char := (newline? cs).getD cs

def oneLineString? : Scan (List Char)
  | '"' :: cs => basicBody (cs.length + 1) cs
  | '\'' :: cs => literalBody cs
  | _ => none

def string? (cs : List Char) : Option (List Char × List Char) :=
  match startsWith? ['"', '"', '"'] cs, startsWith? ['\'', '\'', '\''] cs with
  | some rest, _ => multiBasicBody (rest.length + 1) (dropFirstLine rest)
  | none, some rest => multiLiteralBody (rest.length + 1) (dropFirstLine rest)
  | none, none => oneLineString? cs

/-! ### Keys -/

def isBareKey (c : Char) : Bool :=
  ('a' ≤ c && c ≤ 'z') || ('A' ≤ c && c ≤ 'Z') || ('0' ≤ c && c ≤ '9') || c = '_' || c = '-'

def simpleKey? (cs : List Char) : Option (List Char × List Char) :=
  match cs with
  | '"' :: _ => oneLineString? cs
  | '\'' :: _ => oneLineString? cs
  | _ =>
    let bare := cs.takeWhile isBareKey
    if bare.isEmpty then none else some (bare, cs.dropWhile isBareKey)

def keyPath : Nat → Scan (List String)
  | 0, _ => none
  | fuel + 1, cs => do
    let (key, cs) ← simpleKey? (skipSpace cs)
    match skipSpace cs with
    | '.' :: cs =>
      let (path, cs) ← keyPath fuel cs
      return (String.ofList key :: path, cs)
    | cs => return ([String.ofList key], cs)

/-- Tables, arrays and keys may not be nested to this depth. -/
def depthLimit : Nat := 80

def key? (cs : List Char) : Option (List String × List Char) :=
  (keyPath (cs.length + 1) cs).filter fun (path, _) => path.length < depthLimit

end Toml

end RequestLog
