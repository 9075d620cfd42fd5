import RequestLog.Json.Value
import RequestLog.Decimal.Shortest
import RequestLog.Text.Hex

/-!
The compact text of a JSON value: no space, members in their order, and in strings only quotes,
backslashes and control characters escaped.
-/

namespace RequestLog

namespace Json

/-- Numbers from 10⁻⁵ up to below 10¹⁶ have no exponent. -/
def numberLayout : Decimal.Layout := ⟨-4, 16, "+"⟩

def Number.toText : Number → String
  | .integer n => toString n
  | .real x => (if x.negative then "-" else "") ++ (Decimal.shortest x).write numberLayout

def controlEscape (c : Char) : List Char :=
  ['\\', 'u', '0', '0', Hex.lower (c.toNat / 16), Hex.lower (c.toNat % 16)]

def escapeChar (c : Char) : List Char :=
  if c = '"' then ['\\', '"']
  else if c = '\\' then ['\\', '\\']
  else if c = '\x08' then ['\\', 'b']
  else if c = '\x0c' then ['\\', 'f']
  else if c = '\n' then ['\\', 'n']
  else if c = '\r' then ['\\', 'r']
  else if c = '\t' then ['\\', 't']
  else if c.toNat < 0x20 then controlEscape c
  else [c]

def quoteChars (s : String) : List Char :=
  '"' :: s.toList.flatMap escapeChar ++ ['"']

mutual

def toChars : Json → List Char
  | .null => ['n', 'u', 'l', 'l']
  | .bool true => ['t', 'r', 'u', 'e']
  | .bool false => ['f', 'a', 'l', 's', 'e']
  | .number n => n.toText.toList
  | .string s => quoteChars s
  | .array values => '[' :: itemChars values ++ [']']
  | .object pairs => '\x7b' :: memberChars pairs ++ ['\x7d']

def itemChars : List Json → List Char
  | [] => []
  | [value] => toChars value
  | value :: values => toChars value ++ ',' :: itemChars values

def memberChars : List (String × Json) → List Char
  | [] => []
  | [(name, value)] => quoteChars name ++ ':' :: toChars value
  | (name, value) :: rest => quoteChars name ++ ':' :: toChars value ++ ',' :: memberChars rest

end

def toText (json : Json) : String :=
  String.ofList json.toChars

end Json

end RequestLog
