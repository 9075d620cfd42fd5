import RequestLog.Config.Validation
import RequestLog.Toml.Document
import RequestLog.Text.Utf8

/-!
Reading a configuration from TOML. In its sections every key must be known; at the top others are
passed over. A value of another type than its key's makes the configuration malformed.
-/

namespace RequestLog

namespace Config

/-! ### Values -/

def readText : Toml → Option String
  | .string s => some s
  | _ => none

def readFlag : Toml → Option Bool
  | .boolean b => some b
  | _ => none

def readSize : Toml → Option Nat
  | .integer n => if 0 ≤ n then some n.toNat else none
  | _ => none

def readTexts : Toml → Option (List String)
  | .array items => items.mapM readText
  | _ => none

def readDuration : Toml → Option Duration
  | .string s => Duration.ofText? s
  | _ => none

def readDestination : Toml → Option Destination
  | .string s => some ((Destination.keyword? s).getD (.file s))
  | _ => none

/-- A choice by its name. A table whose only key is the name also makes it, if nothing is in it. -/
def readChoice {α : Type} (ofName? : String → Option α) : Toml → Option α
  | .string name => ofName? name
  | .table [(name, .table [])] => ofName? name
  | .table [(name, .array [])] => ofName? name
  | _ => none

/-! ### Sections -/

def setAccessLog (a : AccessLog) (key : String) (value : Toml) : Option AccessLog :=
  match key with
  | "target" => (readDestination value).map fun v => { a with target := some v }
  | "pattern" => (readText value).map fun v => { a with delivery.pattern := v }
  | "separator" => (readText value).map fun v => { a with delivery.separator := v }
  | "rotate_on_signal" => (readFlag value).map fun v => { a with delivery.rotateOnSignal := v }
  | "event_kinds" => (readTexts value).map fun v => { a with delivery.eventKinds := v }
  | "queue_size" => (readSize value).map fun v => { a with delivery.queueSize := v }
  | "buffer_size" => (readSize value).map fun v => { a with delivery.bufferSize := v }
  | "flush_interval" => (readDuration value).map fun v => { a with delivery.flushInterval := v }
  | _ => none

/-- The section is a table, or the name of its target alone. -/
def readAccessLog : Toml → Option AccessLog
  | .string name => some { target := some (Destination.ofName name) }
  | .table entries => entries.foldlM (fun a (key, value) => setAccessLog a key value) {}
  | _ => none

def setLog (d : Diagnostics) (key : String) (value : Toml) : Option Diagnostics :=
  match key with
  | "level" => (readChoice Level.ofName? value).map fun v => { d with level := v }
  | "format" => (readChoice LogFormat.ofName? value).map fun v => { d with format := v }
  | "output" => (readDestination value).map fun v => { d with output := v }
  | _ => none

/-- The order of the keys when the section is written as an array of its values. -/
def logKeys : List String := ["level", "format", "output"]

/-- The section is a table, or its values in their order. -/
def readLog : Toml → Option Diagnostics
  | .table entries => entries.foldlM (fun d (key, value) => setLog d key value) {}
  | .array values => (logKeys.zip values).foldlM (fun d (key, value) => setLog d key value) {}
  | _ => none

def setPart (c : Config) (key : String) (value : Toml) : Option Config :=
  match key with
  | "log" => (readLog value).map fun v => { c with log := v }
  | "access_log" => (readAccessLog value).map fun v => { c with accessLog := v }
  | _ => some c

def ofEntries? (entries : List (String × Toml)) : Option Config :=
  entries.foldlM (fun c (key, value) => setPart c key value) {}

/-! ### Texts -/

def read (text : String) : Except ConfigError Config :=
  match (Toml.ofChars? text.toList).bind ofEntries? with
  | some config => .ok config
  | none => .error .malformed

/-- The configuration of a text, if it can be used. -/
def ofText (text : String) : Except ConfigError Config := do
  let config ← read text
  config.validate
  return config

def ofContent (path : String) (content : Except IoError Bytes) : Except ConfigError Config :=
  match content with
  | .error cause => .error (.read path cause)
  | .ok bytes =>
    match Utf8.decode? bytes with
    | some text => ofText text
    | none => .error (.read path .notUtf8)

end Config

end RequestLog
