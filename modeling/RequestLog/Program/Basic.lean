import RequestLog.Diagnostics.Filter
import RequestLog.Output.World
import RequestLog.Pipeline.RunLoop
import RequestLog.Pipeline.Source
import RequestLog.Program.Loading
import RequestLog.Trigger.Hangup

/-!
The program: it reads records from its input, writes their lines to the target, rotates on a hangup,
and ends with its input or when it is told to. Devices 0 and 1 of its world are standard output and
standard error.
-/

namespace RequestLog

namespace Program

def name : String := "accesslog"

def version : String := "0.1.0"

def logTarget : String := "accesslog::run"

def stdoutDevice : Nat := 0

def stderrDevice : Nat := 1

def helpText : String :=
  "Writes Apache-style access log lines from JSON event records, reopening the file on SIGHUP\n\n"
    ++ "Usage: accesslog [OPTIONS]\n\nOptions:\n"
    ++ "  -c, --config <CONFIG>        Path to configuration file "
    ++ "(error if specified but not found)\n"
    ++ "  -o, --output <OUTPUT>        Access log target: a file path, \"stdout\" or \"stderr\". "
    ++ "Overrides config file\n"
    ++ "  -p, --pattern <PATTERN>      Format string or \"combined\". Overrides config file\n"
    ++ "      --no-rotate              Ignore SIGHUP instead of reopening the target\n"
    ++ "  -l, --log-level <LOG_LEVEL>  Log level (trace, debug, info, warn, error). "
    ++ "Overrides config file\n"
    ++ "  -h, --help                   Print help\n"
    ++ "  -V, --version                Print version\n"

structure Run where
  config : Config
  filter : LogFilter
  source : Source := {}
  loop : RunLoop World
  /-- The diagnostics that are shown. -/
  log : List Event

end Program

structure Program.Ending where
  code : Nat
  world : World
  /-- How diagnostics were to be shown, and those that were. -/
  diagnostics : Diagnostics := {}
  log : List Event := []

def Program.Ending.stream (ending : Program.Ending) (device : Nat) : Bytes :=
  (ending.world.devices[device]?.map Device.content).getD []

/-- The program, running or at its end. -/
inductive Program where
  | running (run : Program.Run)
  | ended (ending : Program.Ending)

namespace Program

def print (device : Nat) (text : String) (world : World) : World :=
  match world.devices[device]? with
  | some found => world.setDevice device (found.take (Utf8.encode text))
  | none => world

def fail (failure : Failure) (ending : Ending) : Program :=
  .ended { ending with code := 1, world := print stderrDevice failure.toText ending.world }

def shown (filter : LogFilter) (event : Event) : List Event :=
  if filter.shows logTarget event.level then [event] else []

namespace Run

def note (level : Level) (message : String) (fields : List (String × FieldValue)) (run : Run) :
    Run :=
  { run with log := run.log ++ shown run.filter { level, message, fields } }

end Run

/-! ### The beginning -/

def startEvent (options : Options) (config : Config) : Event :=
  let target := (config.accessLog.target.map Destination.toText).getD ""
  { level := .info, message := "accesslog starting"
    fields :=
      [ ("version", .text version),
        ("config", .text (options.config.getD "(flags)")),
        ("output", .text target),
        ("pattern", .text config.accessLog.delivery.pattern),
        ("rotate_on_signal", .flag config.accessLog.delivery.rotateOnSignal) ] }

def openStream (device : Nat) (settings : Settings) (world : World) :
    Except PipelineError (Pipeline World) × World :=
  let (handle, world) := world.addHandle (.device device)
  (Pipeline.adopt settings handle world, world)

def openTarget (accessLog : AccessLog) (world : World) :
    Except PipelineError (Pipeline World) × World :=
  let settings := Settings.ofAccessLog accessLog
  match accessLog.target with
  | some .stdout => openStream stdoutDevice settings world
  | some .stderr => openStream stderrDevice settings world
  | some (.file path) => Pipeline.openAt World.fileOutputs settings path world
  | none => (.error (.config (.missingField accessLogPart "target")), world)

/-- The trigger of a run. Without one there is a reason to tell. -/
def triggerOf (accessLog : AccessLog) (sink : Sink) : Except String Hub :=
  if !accessLog.delivery.rotateOnSignal then .error "SIGHUP rotation disabled"
  else if !sink.isRotatable then .error "target is a stream, SIGHUP rotation disabled"
  else
    let hangup : Hangup := {}
    .ok hangup.hub

/-- Opens the file for diagnostics, if they go to one. -/
def openLog (output : Destination) (world : World) : Except Failure World :=
  match output.path? with
  | none => .ok world
  | some path =>
    match world.openFile path with
    | (.ok _, world) => .ok world
    | (.error cause, _) =>
      .error { message := "failed to open log file: " ++ path, causes := [cause.message] }

def startRun (config : Config) (filter : LogFilter) (pipeline : Pipeline World)
    (log : List Event) : Program :=
  match Channel.create? config.accessLog.delivery.queueSize with
  | none =>
    .ended
      { code := 101, world := pipeline.session.outputs, diagnostics := config.log, log }
  | some channel =>
    match triggerOf config.accessLog pipeline.session.sink with
    | .ok hub => .running { config, filter, log, loop := .start pipeline (some hub) channel 0 }
    | .error reason =>
      let run : Run := { config, filter, log, loop := .start pipeline none channel 0 }
      .running (run.note .info reason [])

def start (options : Options) (world : World) : Program :=
  match options.load world.files with
  | .error failure => fail failure { code := 1, world }
  | .ok config =>
    let filter := LogFilter.ofText (options.logLevelText config)
    match openLog config.log.output world with
    | .error failure => fail failure { code := 1, world }
    | .ok world =>
      let log := shown filter (startEvent options config)
      match openTarget config.accessLog world with
      | (.ok pipeline, _) => startRun config filter pipeline log
      | (.error error, world) =>
        fail { message := "failed to open access log", causes := error.message :: error.causes }
          { code := 1, world, diagnostics := config.log, log }

/-! ### The end -/

/-- Why a run counts as failed: its output was not closed, or lines were lost. -/
def verdict (report : StopReport) : Except Failure Unit :=
  let lost := toString report.undelivered
  match report.closedCleanly, report.undelivered with
  | true, 0 => .ok ()
  | true, _ => .error { message := lost ++ " access log lines were never delivered" }
  | false, 0 => .error { message := "failed to close the access log output" }
  | false, _ =>
    .error
      { message :=
          "failed to close the access log output, " ++ lost ++ " lines were never delivered" }

namespace Run

def noteReport (report : StopReport) (run : Run) : Run :=
  let counters := report.counters
  let sink := report.sink
  let run := run.note .info "access log summary"
    [ ("received", .count counters.received), ("skipped", .count counters.skipped),
      ("written", .count counters.written), ("bytes", .count sink.bytesWritten),
      ("unresolved", .count counters.unresolved), ("rotations", .count sink.rotations),
      ("failed_rotations", .count sink.failedRotations) ]
  if report.undelivered = 0 then run
  else
    run.note .warn "access log lines were not delivered"
      [ ("undelivered", .count report.undelivered), ("dropped_by_sink", .count sink.linesDropped),
        ("write_errors", .count sink.writeErrors) ]

def ending (code : Nat) (run : Run) : Ending :=
  { code, world := run.loop.session.outputs, diagnostics := run.config.log, log := run.log }

/-- Stops the pipeline and ends. A run that was told to stop keeps its failure to its
diagnostics. -/
def finish (inputEnded : Bool) (run : Run) : Program :=
  let (report, loop) := run.loop.stop World.fileOutputs
  let run := { run with loop }
  match report with
  | .error error =>
    fail { message := "pipeline task failed", causes := error.message :: error.causes }
      (run.ending 1)
  | .ok report =>
    let run := (run.noteReport report).note .info "accesslog shutdown complete" []
    match verdict report, inputEnded with
    | .ok (), _ => .ended (run.ending 0)
    | .error failure, true => fail failure (run.ending 1)
    | .error failure, false =>
      let run := run.note .error "accesslog stopped with errors" [("error", .text failure.message)]
      .ended (run.ending 1)

/-- Goes on as long as source and loop have something to do. -/
def steps : Nat → Run → Run
  | 0, run => run
  | n + 1, run =>
    let loop := run.loop.settle World.fileOutputs
    match run.source.step loop.channel with
    | some (source, channel) => steps n { run with source, loop := { loop with channel } }
    | none => { run with loop }

def noteInput (run : Run) : Run :=
  match run.source.result with
  | .ok stats =>
    run.note .info "input ended"
      [ ("lines", .count stats.lines), ("records", .count stats.sent),
        ("malformed", .count stats.malformed) ]
  | .error cause => run.note .error "failed to read input" [("error", .text cause.message)]

end Run

/-- Works until there is nothing left to do. A program whose input has ended comes to its end. -/
def settle : Program → Program
  | .running run =>
    let run := run.steps run.source.effort
    if run.source.isRunning then .running run else run.noteInput.finish true
  | program => program

/-! ### What happens to a program -/

def launch (arguments : List String) (world : World) : Program :=
  match Request.ofArguments arguments with
  | .ok .help => .ended { code := 0, world := print stdoutDevice helpText world }
  | .ok .version =>
    .ended { code := 0, world := print stdoutDevice (name ++ " " ++ version ++ "\n") world }
  | .ok (.run options) => (start options world).settle
  | .error refusal =>
    .ended { code := 2, world := print stderrDevice (refusal.message ++ "\n") world }

def update (f : Run → Run) : Program → Program
  | .running run => settle (.running (f run))
  | program => program

def feed (bytes : Bytes) : Program → Program :=
  update fun run => { run with source := run.source.feed bytes }

def endInput (inputEnd : Source.InputEnd) : Program → Program :=
  update fun run => { run with source := run.source.endInput inputEnd }

/-- A hangup, which asks for a rotation if the run rotates at all. -/
def hangUp : Program → Program :=
  update fun run => { run with loop := run.loop.fire.2 }

def advance (nanos : Nat) : Program → Program :=
  update fun run =>
    { run with loop := (run.loop.advance nanos).elapse nanos, source := run.source.elapse nanos }

/-- Lets time pass, so many milliseconds at the most, until something holds. -/
def waitUntil (holds : Program → Bool) : Nat → Program → Program
  | 0, program => program
  | millis + 1, program =>
    if holds program then program else waitUntil holds millis (program.advance 1000000)

def terminate : Program → Program
  | .running run =>
    let run := run.note .info "shutdown signal received, stopping..." []
    { run with source := run.source.cancel }.finish false
  | program => program

def world : Program → World
  | .running run => run.loop.session.outputs
  | .ended ending => ending.world

def setFiles (files : Files) : Program → Program
  | .running run =>
    let session := run.loop.session
    .running
      { run with
        loop :=
          { run.loop with
            session := { session with outputs := { session.outputs with files } } } }
  | .ended ending => .ended { ending with world := { ending.world with files } }

end Program

end RequestLog
