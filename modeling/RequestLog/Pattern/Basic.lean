import RequestLog.Pattern.Directive

/-!
Patterns: format strings cut into literal text and directives.

A directive is a percent sign, then possibly a parameter in braces without a line break or the
modifier `>`, then an ASCII letter or a percent sign. It is taken at the leftmost place where one
matches; all else is literal.
-/

namespace RequestLog

/-- A literal character, or the code of a directive that matched. -/
inductive Piece where
  | char (c : Char)
  | code (code : List Char)
deriving DecidableEq, Repr

inductive Token where
  | literal (text : List Char)
  | directive (code : List Char) (rule : Directive)
deriving DecidableEq, Repr

namespace Pattern

def isLetter (c : Char) : Bool :=
  ('a' ≤ c && c ≤ 'z') || ('A' ≤ c && c ≤ 'Z')

/-- Neither the end of a parameter nor a line break. -/
def isInside (c : Char) : Bool :=
  c ≠ '\x7d' && c ≠ '\n' && c ≠ '\r'

/-- The last character of a code that begins with `start`. -/
def terminator? (start : List Char) : List Char → Option (List Char × List Char)
  | [] => none
  | c :: rest => if isLetter c || c = '%' then some (start ++ [c], rest) else none

def afterPercent? : List Char → Option (List Char × List Char)
  | '\x7b' :: rest =>
    match rest.dropWhile isInside with
    | '\x7d' :: after => terminator? ('%' :: '\x7b' :: rest.takeWhile isInside ++ ['\x7d']) after
    | _ => none
  | '>' :: rest => terminator? ['%', '>'] rest
  | rest => terminator? ['%'] rest

def code? : List Char → Option (List Char × List Char)
  | '%' :: rest => afterPercent? rest
  | _ => none

theorem terminator?_length {start cs code after : List Char}
    (h : terminator? start cs = some (code, after)) : after.length < cs.length := by
  cases cs with
  | nil => simp [terminator?] at h
  | cons c rest =>
    simp only [terminator?] at h
    split at h
    · simp only [Option.some.injEq, Prod.mk.injEq] at h
      simp [← h.2]
    · simp at h

theorem dropWhile_length (p : Char → Bool) (cs : List Char) :
    (cs.dropWhile p).length ≤ cs.length :=
  (List.dropWhile_suffix p).length_le

theorem afterPercent?_length {cs code after : List Char}
    (h : afterPercent? cs = some (code, after)) : after.length < cs.length := by
  unfold afterPercent? at h
  split at h
  · rename_i rest
    split at h
    · rename_i heq
      have := terminator?_length h
      have := dropWhile_length isInside rest
      simp_all
      omega
    · simp at h
  · have := terminator?_length h
    simp only [List.length_cons]
    omega
  · exact terminator?_length h

theorem code?_length {cs code after : List Char} (h : code? cs = some (code, after)) :
    after.length < cs.length := by
  unfold code? at h
  split at h
  · have := afterPercent?_length h
    simp only [List.length_cons]
    omega
  · simp at h

def pieces (cs : List Char) : List Piece :=
  match cs with
  | [] => []
  | c :: rest =>
    match _h : code? (c :: rest) with
    | some (code, after) => .code code :: pieces after
    | none => .char c :: pieces rest
termination_by cs.length
decreasing_by
  · exact code?_length _h
  · simp

/-- Literal characters next to each other make one token. -/
def addPiece : Piece → List Token → List Token
  | .char c, .literal text :: tokens => .literal (c :: text) :: tokens
  | .char c, tokens => .literal [c] :: tokens
  | .code code, tokens => .directive code (Directive.ofCode code) :: tokens

def tokenize (cs : List Char) : List Token :=
  (pieces cs).foldr addPiece []

def combined : String := "%h %l %u %t \"%r\" %>s %b \"%\x7bReferer\x7di\" \"%\x7bUser-agent\x7di\""

def shorthands : List (String × String) := [("combined", combined)]

def expand (format : String) : String :=
  (shorthands.lookup format).getD format

def isShorthand (format : String) : Bool :=
  (shorthands.lookup format).isSome

end Pattern

structure Pattern where
  source : String
  tokens : List Token
deriving DecidableEq, Repr

namespace Pattern

/-- Every format string compiles. -/
def compile (format : String) : Pattern :=
  let source := expand format
  ⟨source, tokenize source.toList⟩

def unknownCodes (pattern : Pattern) : List String :=
  pattern.tokens.filterMap fun
    | .directive code .unknown => some (String.ofList code)
    | _ => none

end Pattern

end RequestLog
