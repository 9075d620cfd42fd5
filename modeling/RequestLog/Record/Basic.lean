import RequestLog.Time.Timestamp
import RequestLog.Record.Query

/-!
Event records: one observed request with its response.
-/

namespace RequestLog

structure Client where
  address : Option String := none
  referer : Option String := none
  userAgent : Option String := none
deriving DecidableEq, Repr

inductive Payload where
  | text (text : String)
  | bytes (bytes : Bytes)
  | structured (value : Json)
deriving Repr

namespace Payload

/-- Structured payloads are measured by their compact JSON. -/
def size : Payload → Nat
  | .text s => (Utf8.encode s).length
  | .bytes b => b.length
  | .structured value => (Utf8.encodeChars value.toChars).length

def isText : Payload → Bool
  | .text _ => true
  | _ => false

def ofJson : Json → Payload
  | .string s => .text s
  | other => .structured other

end Payload

structure SubEvent where
  tags : List String := []
  data : Option Json := none
deriving Repr

namespace SubEvent

def receivedTag : String := "received"

def received (url : String) : SubEvent :=
  { tags := [receivedTag], data := some (.object [("url", .string url)]) }

def hasTag (event : SubEvent) (tag : String) : Bool :=
  event.tags.contains tag

def url? (event : SubEvent) : Option String := do
  (← (← event.data).get? "url").asString?

end SubEvent

structure Record where
  kind : String := ""
  timestamp : Option Timestamp := none
  method : Option String := none
  path : Option String := none
  query : Query := []
  status : Option UInt16 := none
  client : Client := {}
  payload : Option Payload := none
  subEvents : List SubEvent := []
deriving Repr

namespace Record

def responseKind : String := "response"

/-- The URL of the first sub-event that has the received tag and a URL. -/
def receivedUrl? (record : Record) : Option String :=
  (record.subEvents.filter (·.hasTag SubEvent.receivedTag)).findSome? (·.url?)

/-- The path, and after a question mark the query unless it is empty. -/
def target? (record : Record) : Option String :=
  record.path.map fun path =>
    if record.query.isEmpty then path else path ++ "?" ++ record.query.encode

end Record

end RequestLog
