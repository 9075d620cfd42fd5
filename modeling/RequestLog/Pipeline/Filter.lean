import RequestLog.Record.Basic

/-!
The kinds of records that become lines.
-/

namespace RequestLog

/-- Kinds in byte order, each once. -/
structure KindFilter where
  kinds : List String
deriving DecidableEq, Repr

namespace KindFilter

/-- Order of UTF-8 bytes, which is the order of code points. -/
def before (a b : String) : Bool := decide (a ≤ b)

def dropRepeats : List String → List String
  | [] => []
  | [kind] => [kind]
  | a :: b :: rest => if a = b then dropRepeats (b :: rest) else a :: dropRepeats (b :: rest)

def ofList (kinds : List String) : KindFilter :=
  ⟨dropRepeats (kinds.mergeSort before)⟩

def responses : KindFilter := ofList [Record.responseKind]

def accepts (filter : KindFilter) (record : Record) : Bool :=
  filter.kinds.contains record.kind

end KindFilter

end RequestLog
