import RequestLog.Pattern.Renderer
import RequestLog.Diagnostics.Limiter

/-!
Formatting records into lines of bytes, with warnings about unknown directives.
-/

namespace RequestLog

/-- A rendered line and the number of directives that showed a dash in it. -/
structure Line where
  bytes : Bytes
  unresolved : Nat
deriving DecidableEq, Repr

structure Formatter where
  renderer : Renderer
  /-- The text of the latest line, which the next one replaces. -/
  buffer : String := ""
  limiter : Limiter := {}
deriving DecidableEq, Repr

namespace Formatter

/-- A formatter, and one warning for each unknown code of its pattern. -/
def create (renderer : Renderer) : Formatter × List Event :=
  ({ renderer },
    renderer.pattern.unknownCodes.map fun code =>
      { level := .warn
        message := "access log pattern contains an unknown directive, it will render as '-'"
        fields := [("code", .text code)] })

/-- Reports one directive; a value that is only missing goes unmentioned. -/
def warn (now : Nat) (limiter : Limiter) (entry : Unresolved) : Option Event × Limiter :=
  match entry.reason with
  | .unknownDirective =>
    limiter.report now .warn "unknown access log directive rendered as '-'" entry.code
  | .missingValue => (none, limiter)

def warnAll (now : Nat) : Limiter → List Unresolved → List Event × Limiter
  | limiter, [] => ([], limiter)
  | limiter, entry :: rest =>
    let (event, limiter) := warn now limiter entry
    let (events, limiter) := warnAll now limiter rest
    (event.toList ++ events, limiter)

def format (formatter : Formatter) (now : Nat) (record : Record) :
    Line × List Event × Formatter :=
  let out := formatter.renderer.renderInto record { text := formatter.buffer }
  let (events, limiter) := warnAll now formatter.limiter out.unresolved
  (⟨Utf8.encode out.text, out.unresolved.length⟩, events,
    { formatter with buffer := out.text, limiter })

/-- A line does not depend on those before it. -/
theorem format_line (formatter : Formatter) (now : Nat) (record : Record) :
    (formatter.format now record).1 =
      ⟨Utf8.encode (formatter.renderer.render record),
        (formatter.renderer.unresolved record).length⟩ := by
  simp [format, Renderer.renderInto_eq]

end Formatter

end RequestLog
