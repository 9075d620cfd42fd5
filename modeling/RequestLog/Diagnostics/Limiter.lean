import RequestLog.Diagnostics.Event

/-!
Rate limiting for diagnostics that repeat: at most one event goes out per interval, and it tells
how many were held back since the last one.
-/

namespace RequestLog

/-- Times are in nanoseconds. The two counts have no bound, where the program has words of 64 bits,
which begin again at 0 after `2 ^ 64` occurrences. -/
structure Limiter where
  interval : Nat := 10000000000
  last : Option Nat := none
  pending : Nat := 0
  total : Nat := 0
deriving DecidableEq, Repr

namespace Limiter

def isQuiet (limiter : Limiter) (now : Nat) : Bool :=
  match limiter.last with
  | some last => now - last < limiter.interval
  | none => false

/-- Counts one occurrence. If an event may go out, gives the number held back before it. -/
def count (limiter : Limiter) (now : Nat) : Option Nat × Limiter :=
  if limiter.isQuiet now then
    (none, { limiter with pending := limiter.pending + 1, total := limiter.total + 1 })
  else
    (some limiter.pending,
      { limiter with last := some now, pending := 0, total := limiter.total + 1 })

def subject : Level → String
  | .error => "error"
  | _ => "detail"

def eventOf (level : Level) (message detail : String) (suppressed total : Nat) : Event :=
  { level, message
    fields :=
      [(subject level, .text detail)]
        ++ (if suppressed = 0 then [] else [("suppressed", .count suppressed)])
        ++ [("total", .count total)] }

def report (limiter : Limiter) (now : Nat) (level : Level) (message detail : String) :
    Option Event × Limiter :=
  let (held, limiter) := limiter.count now
  (held.map fun suppressed => eventOf level message detail suppressed limiter.total, limiter)

end Limiter

end RequestLog
