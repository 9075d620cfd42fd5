import RequestLog.Diagnostics.Event
import RequestLog.Text.Blank

/-!
Which diagnostics are shown. A filter is written as rules with commas between them: a level for
everything, a target for all that begins with it, or both as `target=level`.
-/

namespace RequestLog

/-- One rule. Without a target it is for every target, and without a level it shows nothing. -/
structure LogRule where
  target : String := ""
  level : Option Level
deriving DecidableEq, Repr

abbrev LogFilter := List LogRule

namespace LogFilter

/-- Levels by name, in capitals or not, and by number. -/
def levelWords : List (List String × Option Level) :=
  [ (["off", "0"], none), (["error", "1"], some .error), (["warn", "2"], some .warn),
    (["info", "3"], some .info), (["debug", "4"], some .debug), (["trace", "5"], some .trace) ]

/-- A number may have a plus sign and leading zeros. -/
def plainNumber (word : String) : String :=
  let digits := if word.startsWith "+" then word.toList.drop 1 else word.toList
  if digits.isEmpty || !digits.all Char.isDigit then word
  else
    match digits.dropWhile (· = '0') with
    | [] => "0"
    | digits => String.ofList digits

def level? (word : String) : Option (Option Level) :=
  let word := plainNumber (word.map Char.toLower)
  (levelWords.find? fun (words, _) => words.contains word).map (·.2)

def startsRule (c : Char) : Bool :=
  c.isAlphanum || 0x80 ≤ c.toNat || c = '-' || c = ':' || c = '_'

/-- One rule from its text. What is for spans in brackets shows nothing outside of them. -/
def rule? (text : String) : Option (Option LogRule) :=
  match text.toList.dropWhile Blank.isBlank with
  | [] => none
  | '[' :: rest => if rest.contains ']' then some none else none
  | c :: _ =>
    if !startsRule c then none
    else
      let name := text.toList.takeWhile (fun c => c ≠ '=' && c ≠ '[')
      match text.toList.dropWhile (fun c => c ≠ '=' && c ≠ '[') with
      | [] =>
        match level? text with
        | some level => some (some { level })
        | none => some (some { target := text, level := some .trace })
      | '=' :: [] => some (some { target := String.ofList name, level := some .trace })
      | '=' :: word =>
        (level? (String.ofList word)).map fun level =>
          some { target := String.ofList name, level }
      | rest => if rest.contains ']' then some none else none

def errorsOnly : LogFilter := [{ level := some .error }]

def ofText? (text : String) : Option LogFilter := do
  let parts := (text.splitOn ",").filter (!·.isEmpty)
  if parts.isEmpty then return errorsOnly
  return (← parts.mapM rule?).filterMap id

def fallback : LogFilter := [{ level := some .info }]

def ofText (text : String) : LogFilter := (ofText? text).getD fallback

/-- Of two rules the one with the longer target wins, and then the later one. -/
def narrower (best : Option LogRule) (rule : LogRule) : Option LogRule :=
  match best with
  | none => some rule
  | some other =>
    if other.target.utf8ByteSize ≤ rule.target.utf8ByteSize then some rule else some other

/-- Whether diagnostics of a target and level are shown: the narrowest rule for the target
decides. -/
def shows (filter : LogFilter) (target : String) (level : Level) : Bool :=
  match (filter.filter fun rule => target.startsWith rule.target).foldl narrower none with
  | some { level := some least, .. } => least.severity ≤ level.severity
  | _ => false

end LogFilter

end RequestLog
