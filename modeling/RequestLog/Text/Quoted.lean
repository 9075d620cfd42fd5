import RequestLog.Text.Hex
import RequestLog.Text.Printable

/-!
Text in double quotes, with escapes for what could not be told apart otherwise.
-/

namespace RequestLog

namespace Quoted

/-- Whether a single quote is escaped too. -/
structure Style where
  escapesSingle : Bool

def plain : Style := ⟨false⟩

/-- File paths escape both kinds of quote. -/
def path : Style := ⟨true⟩

def hexDigits (n : Nat) : List Char :=
  if n < 16 then [Hex.lower n] else hexDigits (n / 16) ++ [Hex.lower (n % 16)]

def codeEscape (c : Char) : List Char :=
  ['\\', 'u', '{'] ++ hexDigits c.toNat ++ ['}']

def escape (style : Style) (c : Char) : List Char :=
  if c = '\x00' then ['\\', '0']
  else if c = '\t' then ['\\', 't']
  else if c = '\n' then ['\\', 'n']
  else if c = '\r' then ['\\', 'r']
  else if c = '"' || c = '\\' then ['\\', c]
  else if c = '\'' && style.escapesSingle then ['\\', c]
  else if Printable.isVisible c && !Printable.isExtending c then [c]
  else codeEscape c

def quote (style : Style) (s : String) : String :=
  String.ofList ('"' :: s.toList.flatMap (escape style) ++ ['"'])

end Quoted

end RequestLog
