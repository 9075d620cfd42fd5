import RequestLog.Toml.Number
import RequestLog.Toml.Table

/-!
TOML documents. A text is first cut into sections, each a header with the pairs below it; then the
sections are joined into one table.
-/

namespace RequestLog

namespace Toml

def readItems (item : Scan Toml) : Nat → Scan (List Toml)
  | 0, _ => none
  | fuel + 1, cs =>
    match skipBlank cs with
    | ']' :: rest => some ([], rest)
    | cs => do
      let (value, cs) ← item cs
      match skipBlank cs with
      | ']' :: rest => return ([value], rest)
      | ',' :: rest =>
        let (values, rest) ← readItems item fuel rest
        return (value :: values, rest)
      | _ => none

def readPair (item : Scan Toml) : Scan (List String × Toml) := fun cs => do
  let (path, cs) ← key? cs
  let cs ← exactly? '=' cs
  let (value, cs) ← item (skipSpace cs)
  return ((path, value), cs)

def readPairs (item : Scan Toml) : Nat → Scan (List (List String × Toml))
  | 0, _ => none
  | fuel + 1, cs => do
    let (pair, cs) ← readPair item cs
    match skipSpace cs with
    | '\x7d' :: rest => return ([pair], rest)
    | ',' :: rest =>
      let (pairs, rest) ← readPairs item fuel rest
      return (pair :: pairs, rest)
    | _ => none

def readInlineTable (item : Scan Toml) : Scan Toml := fun cs =>
  match skipSpace cs with
  | '\x7d' :: rest => some (.table [], rest)
  | cs => do
    let (pairs, rest) ← readPairs item (cs.length + 1) cs
    let table ← Table.empty.insertAll pairs
    return (table.toToml, rest)

/-- One value, with arrays and inline tables nested less deeply than `depth`. -/
def readValue : Nat → Scan Toml
  | 0, _ => none
  | depth + 1, cs =>
    match cs with
    | '"' :: _ => (string? cs).map fun (text, cs) => (.string (String.ofList text), cs)
    | '\'' :: _ => (string? cs).map fun (text, cs) => (.string (String.ofList text), cs)
    | '[' :: rest =>
      if depth = 0 then none
      else (readItems (readValue depth) (rest.length + 1) rest).map fun (values, cs) =>
        (.array values, cs)
    | '\x7b' :: rest => if depth = 0 then none else readInlineTable (readValue depth) rest
    | 't' :: _ => (startsWith? ['t', 'r', 'u', 'e'] cs).map (.boolean true, ·)
    | 'f' :: _ => (startsWith? ['f', 'a', 'l', 's', 'e'] cs).map (.boolean false, ·)
    | _ => number? cs

/-- A header: the path of a table, or of a further table of an array. -/
inductive Header where
  | table (path : List String)
  | item (path : List String)

structure Section where
  header : Header
  pairs : List (List String × Toml)

def readHeader (cs : List Char) : Option (Header × List Char) :=
  match cs with
  | '[' :: '[' :: rest => do
    let (path, rest) ← key? rest
    let rest ← startsWith? [']', ']'] rest
    return (.item path, ← lineEnd? rest)
  | '[' :: rest => do
    let (path, rest) ← key? rest
    let rest ← exactly? ']' rest
    return (.table path, ← lineEnd? rest)
  | _ => none

/-- The lines of a document. A section without a header of its own belongs to the root. -/
def readSections : Nat → List Char → Option (List (List String × Toml) × List Section)
  | 0, _ => none
  | fuel + 1, cs =>
    match skipSpace cs with
    | [] => some ([], [])
    | '#' :: rest => do
      let rest ← lineEnd? ('#' :: rest)
      readSections fuel rest
    | '[' :: rest => do
      let (header, rest) ← readHeader ('[' :: rest)
      let (pairs, sections) ← readSections fuel rest
      return ([], ⟨header, pairs⟩ :: sections)
    | c :: rest =>
      match newline? (c :: rest) with
      | some rest => readSections fuel rest
      | none => do
        let (pair, rest) ← readPair (readValue depthLimit) (c :: rest)
        let rest ← lineEnd? rest
        let (pairs, sections) ← readSections fuel rest
        return (pair :: pairs, sections)

/-- The table that a header opens in its parent. A header may name a table that only stood on the
way to others, but none that was defined before. -/
def openTable (key : String) (pairs : List (List String × Toml)) (parent : Table) :
    Option Table :=
  match parent.entries.lookup key with
  | none => do return parent.put key (.table (← Table.empty.insertAll pairs))
  | some (.table t) =>
    if t.isImplicit && !t.isDotted then do
      return parent.put key (.table (← t.define.insertAll pairs))
    else none
  | some _ => none

def openItem (key : String) (pairs : List (List String × Toml)) (parent : Table) : Option Table :=
  match parent.entries.lookup key with
  | none => do return parent.put key (.tables [← Table.empty.insertAll pairs])
  | some (.tables tables) => do
    return parent.put key (.tables (tables ++ [← Table.empty.insertAll pairs]))
  | some _ => none

def addSection (root : Table) (s : Section) : Option Table :=
  match s.header with
  | .table path => root.update false (openTable (path.getLast?.getD "") s.pairs) path.dropLast
  | .item path => root.update false (openItem (path.getLast?.getD "") s.pairs) path.dropLast

def dropByteOrderMark : List Char → List Char
  | c :: cs => if c.toNat = 0xFEFF then cs else c :: cs
  | [] => []

def ofChars? (cs : List Char) : Option (List (String × Toml)) := do
  let (pairs, sections) ← readSections (cs.length + 1) (dropByteOrderMark cs)
  let root ← Table.empty.insertAll pairs
  let root ← sections.foldlM addSection root
  return Table.entriesToToml root.entries

end Toml

end RequestLog
