import RequestLog.Toml.Value

/-!
Tables while a document is read: each knows how it came about, which decides what may still be
added to it.
-/

namespace RequestLog

namespace Toml

mutual

inductive Item where
  | value (value : Toml)
  | table (table : Table)
  | tables (tables : List Table)

/-- A table is `implicit` until a header names it, and `dotted` if a key with points made it. -/
inductive Table where
  | mk (implicit dotted : Bool) (entries : List (String × Item))

end

namespace Table

def isImplicit : Table → Bool
  | .mk implicit _ _ => implicit

def isDotted : Table → Bool
  | .mk _ dotted _ => dotted

def entries : Table → List (String × Item)
  | .mk _ _ entries => entries

def empty : Table := .mk false false []

def define (table : Table) : Table := .mk false false table.entries

def putEntry (key : String) (item : Item) : List (String × Item) → List (String × Item)
  | [] => [(key, item)]
  | (k, i) :: rest => if k = key then (k, item) :: rest else (k, i) :: putEntry key item rest

def put (table : Table) (key : String) (item : Item) : Table :=
  .mk table.isImplicit table.isDotted (putEntry key item table.entries)

def updateLast (f : Table → Option Table) : List Table → Option (List Table)
  | [] => none
  | [t] => (f t).map ([·])
  | t :: rest => (updateLast f rest).map (t :: ·)

/-- Changes the table at the end of a path, making the tables on the way. A key with points must
not enter a table that a header defined. -/
def update (dotted : Bool) (f : Table → Option Table) : List String → Table → Option Table
  | [], t => f t
  | key :: path, t =>
    match t.entries.lookup key with
    | none => do
      let child ← update dotted f path (.mk true dotted [])
      return t.put key (.table child)
    | some (.value _) => none
    | some (.tables tables) => do
      return t.put key (.tables (← updateLast (update dotted f path) tables))
    | some (.table child) =>
      if dotted && !child.isImplicit then none
      else do return t.put key (.table (← update dotted f path child))

def insert (table : Table) (path : List String) (value : Toml) : Option Table :=
  match path.getLast? with
  | none => none
  | some key =>
    let way := path.dropLast
    let add (table : Table) : Option Table :=
      if table.isDotted = way.isEmpty then none
      else if (table.entries.lookup key).isSome then none
      else some (table.put key (.value value))
    table.update (!way.isEmpty) add way

def insertAll (table : Table) (pairs : List (List String × Toml)) : Option Table :=
  pairs.foldlM (fun table (path, value) => table.insert path value) table

mutual

def toToml : Table → Toml
  | .mk _ _ entries => .table (entriesToToml entries)

def entriesToToml : List (String × Item) → List (String × Toml)
  | [] => []
  | (key, item) :: rest => (key, itemToToml item) :: entriesToToml rest

def itemToToml : Item → Toml
  | .value v => v
  | .table t => toToml t
  | .tables ts => .array (tablesToToml ts)

def tablesToToml : List Table → List Toml
  | [] => []
  | t :: rest => toToml t :: tablesToToml rest

end

end Table

end Toml

end RequestLog
