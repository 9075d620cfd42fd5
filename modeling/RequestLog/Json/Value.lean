import RequestLog.Decimal.Binary64

/-!
JSON values. The members of an object keep their order; a name given again keeps its first place
and takes the last value.
-/

namespace RequestLog

inductive Json.Number where
  | integer (value : Int)
  | real (value : Binary64)
deriving DecidableEq, Repr

inductive Json where
  | null
  | bool (value : Bool)
  | number (value : Json.Number)
  | string (value : String)
  | array (items : List Json)
  | object (members : List (String × Json))
deriving Repr

namespace Json

abbrev Members := List (String × Json)

def Members.put (members : Members) (name : String) (value : Json) : Members :=
  match members with
  | [] => [(name, value)]
  | (n, v) :: rest => if n = name then (n, value) :: rest else (n, v) :: put rest name value

def Members.ofPairs (pairs : List (String × Json)) : Members :=
  pairs.foldl (fun members (name, value) => members.put name value) []

def get? (json : Json) (name : String) : Option Json :=
  match json with
  | .object members => members.lookup name
  | _ => none

def asString? : Json → Option String
  | .string s => some s
  | _ => none

def isNull : Json → Bool
  | .null => true
  | _ => false

end Json

end RequestLog
