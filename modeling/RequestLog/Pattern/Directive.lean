import RequestLog.Record.Basic
import RequestLog.Text.UpperCase

/-!
Directives: what a code such as `%h` or `%{Referer}i` stands for, and its value in a record.
-/

namespace RequestLog

/-- Request headers that a record keeps. -/
inductive Header where
  | referer
  | userAgent
deriving DecidableEq, Repr

namespace Header

def name : Header → String
  | .referer => "referer"
  | .userAgent => "user-agent"

def asciiLower (c : Char) : Char :=
  if 'A' ≤ c ∧ c ≤ 'Z' then Char.ofNat (c.toNat + 32) else c

/-- The header of that name; case does not count in ASCII letters. -/
def ofChars? (cs : List Char) : Option Header :=
  let lower := cs.map asciiLower
  [referer, userAgent].find? fun header => header.name.toList == lower

def ofName? (name : String) : Option Header :=
  ofChars? name.toList

def value? (header : Header) (record : Record) : Option String :=
  match header with
  | .referer => record.client.referer
  | .userAgent => record.client.userAgent

end Header

inductive Directive where
  | percent
  | remoteHost
  | remoteLogname
  | remoteUser
  | requestTime
  | requestLine
  | status
  | responseSize
  | requestHeader (header : Header)
  | unknown
deriving DecidableEq, Repr

namespace Directive

def table : List (String × Directive) :=
  [ ("%%", percent), ("%h", remoteHost), ("%l", remoteLogname), ("%u", remoteUser),
    ("%t", requestTime), ("%r", requestLine), ("%s", status), ("%>s", status),
    ("%b", responseSize) ]

def headerName? : List Char → Option (List Char)
  | '%' :: '\x7b' :: rest =>
    match rest.reverse with
    | 'i' :: '\x7d' :: name => some name.reverse
    | _ => none
  | _ => none

/-- The directive of a code; a code without a rule is unknown. -/
def ofCode (code : List Char) : Directive :=
  match table.find? (fun (fixed, _) => fixed.toList == code) with
  | some (_, directive) => directive
  | none =>
    match (headerName? code).bind Header.ofChars? with
    | some header => .requestHeader header
    | none => .unknown

def isKnown (directive : Directive) : Bool :=
  directive ≠ .unknown

/-- The protocol shown in request lines; records do not keep the version. -/
def protocol : String := "HTTP/1.1"

/-- The method in upper case, the URL as it was received or else as rebuilt, and the protocol. -/
def requestLine? (record : Record) : Option String := do
  let method ← record.method
  if method.isEmpty then none
  else
    let url ← record.receivedUrl?.or record.target?
    return UpperCase.ofString method ++ " " ++ url ++ " " ++ protocol

def value? (directive : Directive) (record : Record) : Option String :=
  match directive with
  | .percent => some "%"
  | .remoteHost => record.client.address
  | .remoteLogname => some "-"
  | .remoteUser => some "-"
  | .requestTime => record.timestamp.map Timestamp.toLogText
  | .requestLine => requestLine? record
  | .status => record.status.map fun code => toString code.toNat
  | .responseSize => record.payload.map fun payload => toString payload.size
  | .requestHeader header => header.value? record
  | .unknown => none

end Directive

end RequestLog
