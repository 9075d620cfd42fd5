import RequestLog.Config.Reader
import RequestLog.Output.Files
import RequestLog.Program.Options
import RequestLog.Program.Failure

/-!
The configuration of a run: a file, if one is named, with the command line's overrides.
-/

namespace RequestLog

namespace Options

/-- The configuration that the overrides are put on. A file has to hold on its own. -/
def base (options : Options) (files : Files) : Except Failure Config :=
  match options.config with
  | none => .ok {}
  | some path =>
    if !files.pathExists path then .error { message := "config file not found: " ++ path }
    else
      match Config.ofContent path (files.read path) with
      | .ok config => .ok config
      | .error error =>
        .error
          { message := "failed to load configuration", causes := error.message :: error.causes }

def override (options : Options) (config : Config) : Config :=
  let target :=
    match options.output with
    | some name => some (Destination.ofName name)
    | none => config.accessLog.target
  let delivery := config.accessLog.delivery
  { config with
    accessLog :=
      { target
        delivery :=
          { delivery with
            pattern := options.pattern.getD delivery.pattern
            rotateOnSignal := delivery.rotateOnSignal && !options.noRotate } } }

def load (options : Options) (files : Files) : Except Failure Config := do
  let config := options.override (← options.base files)
  match config.validate with
  | .ok () => .ok config
  | .error error =>
    .error { message := "invalid configuration", causes := error.message :: error.causes }

def logLevelText (options : Options) (config : Config) : String :=
  options.logLevel.getD config.log.level.name

end Options

end RequestLog
