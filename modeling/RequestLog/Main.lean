import RequestLog.Diagnostics.Rendering
import RequestLog.Program.Basic

/-!
The command line program. The files that a run needs are taken into its world before it starts, and
what it writes there goes out to the real ones after each piece of input.
-/

namespace RequestLog

namespace Host

def lookAt (path : String) : IO (Bool × Bool) := do
  try
    let found ← IO.FS.realPath path
    return (true, ← found.isDir)
  catch _ => return (false, false)

/-- Takes a file into the tree, with what is in it or without, together with its directory. -/
def takeIn (path : String) (withContent : Bool) (files : Files) : IO Files := do
  let (isThere, isDirectory) ← lookAt path
  if isDirectory then return (files.makeDirectory path).toOption.getD files
  let directory := "/".intercalate ((path.splitOn "/").dropLast)
  let files :=
    if (← lookAt directory).2 then (files.makeDirectory directory).toOption.getD files else files
  if isThere then
    let content ← if withContent then IO.FS.readBinFile path else pure ByteArray.empty
    return (files.replace path content.toList).toOption.getD files
  else return files

def filesFor (arguments : List String) : IO Files := do
  match Request.ofArguments arguments with
  | .ok (.run options) =>
    let files ←
      match options.config with
      | some path => takeIn path true {}
      | none => pure {}
    match options.load files with
    | .ok config =>
      let outputs := [some config.log.output, config.accessLog.target].filterMap id
      (outputs.filterMap Destination.path?).foldlM (fun files path => takeIn path false files) files
    | .error _ => return files
  | _ => return {}

def diagnosticsOf : Program → Diagnostics × List Event
  | .running run => (run.config.log, run.log)
  | .ended ending => (ending.diagnostics, ending.log)

/-- How much of a program's output has gone out. -/
structure Progress where
  /-- Bytes of standard output and standard error. -/
  streams : List Nat := [0, 0]
  target : Nat := 0
  events : Nat := 0

def toByteArray (bytes : Bytes) : ByteArray := ⟨bytes.toArray⟩

def appendTo (path : String) (bytes : Bytes) : IO Unit := do
  let handle ← IO.FS.Handle.mk path .append
  handle.write (toByteArray bytes)
  handle.flush

def writeTo (destination : Destination) (text : String) : IO Unit := do
  match destination with
  | .stdout => (← IO.getStdout).putStr text
  | .stderr => (← IO.getStderr).putStr text
  | .file path => appendTo path (Utf8.encode text)

def sendStreams (world : World) (progress : Progress) : IO Progress := do
  let streams := [← IO.getStdout, ← IO.getStderr]
  for ((stream, device), sent) in (streams.zip world.devices).zip progress.streams do
    stream.write (toByteArray (device.content.drop sent))
    stream.flush
  return { progress with streams := world.devices.map Device.size }

def sendTarget (target : Option String) (world : World) (progress : Progress) : IO Progress := do
  match target.bind fun path => (world.files.read path).toOption.map ((path, ·)) with
  | some (path, content) =>
    appendTo path (content.drop progress.target)
    return { progress with target := content.length }
  | none => return progress

def sendEvents (program : Program) (progress : Progress) : IO Progress := do
  let (diagnostics, log) := diagnosticsOf program
  for event in log.drop progress.events do
    let line :=
      match diagnostics.format with
      | .console => event.consoleLine Program.logTarget
      | .json => event.jsonLine Program.logTarget
    writeTo diagnostics.output line
  return { progress with events := log.length }

def send (target : Option String) (program : Program) (progress : Progress) : IO Progress := do
  let progress ← sendEvents program progress
  let progress ← sendTarget target program.world progress
  sendStreams program.world progress

def targetOf : Program → Option String
  | .running run => run.config.accessLog.target.bind Destination.path?
  | .ended _ => none

def receive (input : IO.FS.Stream) (program : Program) : IO Program := do
  try
    let bytes ← input.read 65536
    if bytes.isEmpty then return program.endInput .complete
    else return program.feed bytes.toList
  catch error => return program.endInput (.failed (.failed error.toString))

partial def loop (input : IO.FS.Stream) (target : Option String) (time : Nat)
    (program : Program) (progress : Progress) : IO UInt32 := do
  let progress ← send target program progress
  match program with
  | .ended ending => return UInt32.ofNat ending.code
  | .running _ =>
    let program ← receive input program
    let now ← IO.monoNanosNow
    loop input target now (program.advance (now - time)) progress

def run (arguments : List String) : IO UInt32 := do
  let files ← filesFor arguments
  let program := Program.launch arguments { files, devices := [{}, {}] }
  loop (← IO.getStdin) (targetOf program) (← IO.monoNanosNow) program {}

end Host

end RequestLog

def main (arguments : List String) : IO UInt32 := RequestLog.Host.run arguments
