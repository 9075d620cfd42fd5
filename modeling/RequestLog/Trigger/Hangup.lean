import RequestLog.Trigger.Hub
import RequestLog.Trigger.Error

/-!
The hangup signal as a trigger. Once a listener is installed every signal fires the hub; before
that a signal ends the process.
-/

namespace RequestLog

structure Hangup where
  hub : Hub := { name := "SIGHUP" }
  isInstalled : Bool := false
deriving DecidableEq, Repr

namespace Hangup

def signalName : String := "SIGHUP"

/-- Installs the listener unless it is already there, which takes a runtime. -/
def install (hasRuntime : Bool) (hangup : Hangup) : Except TriggerError Hangup :=
  if hangup.isInstalled then .ok hangup
  else if hasRuntime then .ok { hangup with isInstalled := true }
  else .error (.noRuntime signalName)

def subscribe (hasRuntime : Bool) (hangup : Hangup) :
    Except TriggerError (Subscription × Hangup) := do
  let hangup ← hangup.install hasRuntime
  let (subscription, hub) := hangup.hub.subscribe
  return (subscription, { hangup with hub })

/-- Receives one signal. None if there is no listener. -/
def raise (hangup : Hangup) : Option Hangup :=
  if hangup.isInstalled then some { hangup with hub := hangup.hub.fire.2 } else none

end Hangup

end RequestLog
