import RequestLog.Text.Utf8
import RequestLog.Json.Value
import RequestLog.Json.Printer

/-!
Query parameters, and their `application/x-www-form-urlencoded` form.
-/

namespace RequestLog

/-- Names and values in their order; a name may occur again. -/
abbrev Query := List (String × String)

namespace Query

/-- Letters, digits and `*-._` stand for themselves. -/
def isUnreserved (b : UInt8) : Bool :=
  (0x61 ≤ b && b ≤ 0x7A) || (0x41 ≤ b && b ≤ 0x5A) || (0x30 ≤ b && b ≤ 0x39)
    || b == 0x2A || b == 0x2D || b == 0x2E || b == 0x5F

def encodeByte (b : UInt8) : List Char :=
  if isUnreserved b then [Char.ofNat b.toNat]
  else if b = 0x20 then ['+']
  else ['%', Hex.upper (b.toNat / 16), Hex.upper (b.toNat % 16)]

def encodeText (s : String) : List Char :=
  (Utf8.encode s).flatMap encodeByte

def encodePair (pair : String × String) : List Char :=
  encodeText pair.1 ++ '=' :: encodeText pair.2

def encodeChars : Query → List Char
  | [] => []
  | [pair] => encodePair pair
  | pair :: rest => encodePair pair ++ '&' :: encodeChars rest

def encode (query : Query) : String :=
  String.ofList (encodeChars query)

/-- A parameter's value: text as it is, nothing for null, and compact JSON for all else. -/
def valueText : Json → String
  | .string s => s
  | .null => ""
  | other => other.toText

/-- The parameters of one member: an array repeats the name. -/
def ofMember (name : String) : Json → Query
  | .array items => items.map fun item => (name, valueText item)
  | other => [(name, valueText other)]

/-- Anything but an object has no parameters. -/
def ofJson : Json → Query
  | .object members => members.flatMap fun (name, value) => ofMember name value
  | _ => []

end Query

end RequestLog
