/-!
The command line. Options are read from left to right; a request for help or for the version ends
the reading, and so does the first mistake.
-/

namespace RequestLog

structure Options where
  /-- The configuration file. -/
  config : Option String := none
  /-- What replaces the configured target. -/
  output : Option String := none
  pattern : Option String := none
  noRotate : Bool := false
  logLevel : Option String := none
deriving DecidableEq, Repr

inductive Request where
  | help
  | version
  | run (options : Options)
deriving DecidableEq, Repr

inductive Refusal where
  | unexpected (argument : String)
  | repeated (name : String)
  | missingValue (name : String)
  | unwantedValue (argument : String)
  | emptyValue (name : String)
deriving DecidableEq, Repr

namespace Refusal

def message : Refusal → String
  | .unexpected argument => "error: unexpected argument '" ++ argument ++ "' found"
  | .repeated name => "error: the argument '" ++ name ++ "' cannot be used multiple times"
  | .missingValue name => "error: a value is required for '" ++ name ++ "' but none was supplied"
  | .unwantedValue argument => "error: unexpected value in '" ++ argument ++ "'"
  | .emptyValue name => "error: a value is required for '" ++ name ++ "' but none was supplied"

end Refusal

namespace Options

inductive Key where
  | config
  | output
  | pattern
  | logLevel
deriving DecidableEq, Repr

namespace Key

def all : List Key := [.config, .output, .pattern, .logLevel]

def long : Key → String
  | .config => "config"
  | .output => "output"
  | .pattern => "pattern"
  | .logLevel => "log-level"

def short : Key → Char
  | .config => 'c'
  | .output => 'o'
  | .pattern => 'p'
  | .logLevel => 'l'

def ofLong? (name : String) : Option Key := all.find? (·.long == name)

def ofShort? (c : Char) : Option Key := all.find? (·.short == c)

def name (key : Key) : String := "--" ++ key.long

end Key

def value? (options : Options) : Key → Option String
  | .config => options.config
  | .output => options.output
  | .pattern => options.pattern
  | .logLevel => options.logLevel

def put (options : Options) (value : String) : Key → Options
  | .config => { options with config := some value }
  | .output => { options with output := some value }
  | .pattern => { options with pattern := some value }
  | .logLevel => { options with logLevel := some value }

/-- Gives an option its value, which it may get once. The name of a file is not empty. -/
def set (options : Options) (key : Key) (value : String) : Except Refusal Options :=
  if (options.value? key).isSome then .error (.repeated key.name)
  else if key = .config && value.isEmpty then .error (.emptyValue key.name)
  else .ok (options.put value key)

/-- What one argument is, seen alone. -/
inductive Word where
  /-- From here on nothing is an option. -/
  | separator
  | attached (key : Key) (value : String)
  /-- The value is the next argument. -/
  | expecting (key : Key)
  | noRotate
  | help
  | version
  | mistake (refusal : Refusal)
deriving DecidableEq, Repr

/-- An argument with two dashes before its name, and perhaps an equals sign after it. -/
def longWord (argument : String) (name : List Char) (value : Option (List Char)) : Word :=
  match Key.ofLong? (String.ofList name), value with
  | some key, some value => .attached key (String.ofList value)
  | some key, none => .expecting key
  | none, value =>
    let flag : Word :=
      match String.ofList name with
      | "no-rotate" => .noRotate
      | "help" => .help
      | "version" => .version
      | _ => .mistake (.unexpected argument)
    match flag, value with
    | .mistake refusal, _ => .mistake refusal
    | _, some _ => .mistake (.unwantedValue argument)
    | flag, none => flag

/-- An argument with one dash before a letter. What follows is the value. -/
def shortWord (argument : String) (c : Char) (rest : List Char) : Word :=
  match Key.ofShort? c, rest with
  | some key, [] => .expecting key
  | some key, '=' :: value => .attached key (String.ofList value)
  | some key, value => .attached key (String.ofList value)
  | none, _ =>
    match c with
    | 'h' => .help
    | 'V' => .version
    | _ => .mistake (.unexpected argument)

def word (argument : String) : Word :=
  match argument.toList with
  | ['-', '-'] => .separator
  | '-' :: '-' :: rest =>
    match rest.dropWhile (· ≠ '=') with
    | [] => longWord argument rest none
    | _ :: value => longWord argument (rest.takeWhile (· ≠ '=')) (some value)
  | '-' :: c :: rest => shortWord argument c rest
  | _ => .mistake (.unexpected argument)

/-- A value may be a dash, but not begin with one. -/
def isValue (argument : String) : Bool :=
  match argument.toList with
  | '-' :: _ :: _ => false
  | _ => true

def readFrom : Options → List String → Except Refusal Request
  | options, [] => .ok (.run options)
  | options, argument :: rest =>
    match word argument with
    | .separator =>
      match rest with
      | [] => .ok (.run options)
      | extra :: _ => .error (.unexpected extra)
    | .attached key value =>
      match options.set key value with
      | .ok options => readFrom options rest
      | .error refusal => .error refusal
    | .expecting key =>
      match rest with
      | [] => .error (.missingValue key.name)
      | value :: rest =>
        if isValue value then
          match options.set key value with
          | .ok options => readFrom options rest
          | .error refusal => .error refusal
        else .error (.missingValue key.name)
    | .noRotate =>
      if options.noRotate then .error (.repeated "--no-rotate")
      else readFrom { options with noRotate := true } rest
    | .help => .ok .help
    | .version => .ok .version
    | .mistake refusal => .error refusal

end Options

def Request.ofArguments (arguments : List String) : Except Refusal Request :=
  Options.readFrom {} arguments

end RequestLog
