import RequestLog.Record.Basic
import RequestLog.Json.Reader

/-!
Reading a record from JSON. A record is one object; each known field is read on its own, and a
value of an unusable shape reads as absent. Unknown fields are passed over.
-/

namespace RequestLog

namespace Record

inductive Field where
  | kind
  | timestamp
  | method
  | path
  | query
  | status
  | client
  | payload
  | subEvents
deriving DecidableEq, Repr

namespace Field

def all : List Field :=
  [.kind, .timestamp, .method, .path, .query, .status, .client, .payload, .subEvents]

def name : Field → String
  | .kind => "event"
  | .timestamp => "timestamp"
  | .method => "method"
  | .path => "path"
  | .query => "query"
  | .status => "statusCode"
  | .client => "source"
  | .payload => "responsePayload"
  | .subEvents => "log"

def ofName? (name : String) : Option Field :=
  all.find? (·.name == name)

end Field

inductive Fault where
  | notAnObject
  | duplicate (field : Field)
  | json (fault : Json.Fault)
deriving DecidableEq, Repr

/-! ### Values of fields -/

/-- A status code: a whole number or its decimal text, blanks around it and one plus sign before it
allowed, if it is below 2¹⁶. -/
def statusOfNat? (n : Nat) : Option UInt16 :=
  if n < 65536 then some (UInt16.ofNat n) else none

def natOfChars? (cs : List Char) : Option Nat :=
  if cs.isEmpty || !cs.all Char.isDigit then none
  else some (cs.foldl (fun n c => n * 10 + (c.toNat - 48)) 0)

def statusOfChars? : List Char → Option UInt16
  | '+' :: cs => (natOfChars? cs).bind statusOfNat?
  | cs => (natOfChars? cs).bind statusOfNat?

def statusOf? : Json → Option UInt16
  | .number (.integer n) => if 0 ≤ n then statusOfNat? n.toNat else none
  | .number (.real x) =>
    if x.isWhole && (!x.negative || x.mantissa == 0) then statusOfNat? x.wholePart else none
  | .string s => statusOfChars? (Blank.trimChars s.toList)
  | _ => none

/-- A timestamp: milliseconds of the epoch, their fraction dropped, or RFC 3339 text. -/
def timestampOf? : Json → Option Timestamp
  | .number (.integer n) => if n < Word.signedLimit then Timestamp.ofMillis? n else none
  | .number (.real x) =>
    if x.wholePart < Word.signedLimit then Timestamp.ofMillis? x.truncate else none
  | .string s => Timestamp.ofRfc3339Chars? (Blank.trimChars s.toList)
  | _ => none

def clientOf (json : Json) : Client :=
  let text (name : String) : Option String := (json.get? name).bind Json.asString?
  { address := text "remoteAddress", referer := text "referer", userAgent := text "userAgent" }

def payloadOf? : Json → Option Payload
  | .null => none
  | value => some (Payload.ofJson value)

def tagsOf : Option Json → List String
  | some (.array items) => items.filterMap Json.asString?
  | _ => []

def subEventOf? : Json → Option SubEvent
  | .object members =>
    some
      { tags := tagsOf (members.lookup "tags")
        data := (members.lookup "data").filter (!·.isNull) }
  | _ => none

def subEventsOf : Json → List SubEvent
  | .array items => items.filterMap subEventOf?
  | _ => []

def set (record : Record) (field : Field) (value : Json) : Record :=
  match field with
  | .kind => { record with kind := value.asString?.getD "" }
  | .timestamp => { record with timestamp := timestampOf? value }
  | .method => { record with method := value.asString? }
  | .path => { record with path := value.asString? }
  | .query => { record with query := Query.ofJson value }
  | .status => { record with status := statusOf? value }
  | .client => { record with client := clientOf value }
  | .payload => { record with payload := payloadOf? value }
  | .subEvents => { record with subEvents := subEventsOf value }

def ofFields (fields : List (Field × Json)) : Record :=
  fields.foldl (fun record (field, value) => record.set field value) {}

/-! ### Text -/

def lift {α : Type} : Except Json.Fault α → Except Fault α :=
  Except.mapError .json

/-- The value of a known field; the record itself is one level of its nesting. -/
def readValue (s : Bytes) : Except Fault (Json × Bytes) :=
  lift (do
    let s ← Json.colon s
    Json.readValue (Json.depthLimit - 1) s)

def skipValue (s : Bytes) : Except Fault Bytes :=
  lift (do
    let s ← Json.colon s
    Json.skip s)

/-- The known fields of a record in the order of the text. A second value for a field is refused as
soon as its name is read. -/
def readFields (seen : List Field) (first : Bool) :
    Nat → Bytes → Except Fault (List (Field × Json) × Bytes)
  | 0, _ => .error (.json .endOfText)
  | fuel + 1, s => do
    let (more, s) ← lift (Json.nextMember first s)
    if !more then return ([], s)
    let (name, s) ← lift (Json.readText s)
    match Field.ofName? name with
    | some field =>
      if field ∈ seen then throw (.duplicate field)
      let (value, s) ← readValue s
      let (rest, s) ← readFields (field :: seen) false fuel s
      return ((field, value) :: rest, s)
    | none =>
      let s ← skipValue s
      readFields seen false fuel s

def readObject (s : Bytes) : Except Fault (List (Field × Json)) := do
  match Json.skipSpace s with
  | [] => throw (.json .endOfText)
  | b :: rest =>
    if b ≠ 0x7B then throw (.json .malformed)
    let (fields, rest) ← readFields [] true (rest.length + 1) rest
    if !(Json.skipSpace rest).isEmpty then throw (.json .malformed)
    return fields

/-- A record from the bytes of one JSON object, ASCII blanks around it allowed. -/
def ofBytes (s : Bytes) : Except Fault Record :=
  match s.dropWhile Blank.isAsciiBlank with
  | [] => .error .notAnObject
  | b :: _ => if b = 0x7B then (readObject s).map ofFields else .error .notAnObject

namespace Fault

/-- What the fault says. A text that is not JSON at all has the reader's own words, with the line
and the column where it gave up; those are left out here. -/
def message : Fault → String
  | .notAnObject => "event record must be a JSON object"
  | .duplicate field => "duplicate field `" ++ field.name ++ "`"
  | .json _ => ""

end Fault

end Record

end RequestLog
