import PushdownLexer.Settings.Basic

/-!
# Command line options

The arguments are read from left to right. The first one that cannot be accepted, or that asks for
the version or for help, decides; that there is no file at all is only found at the end.

## Main definitions

* `Options`: what the arguments say.
* `UsageError`: why arguments are not accepted.
* `Request.ofArguments`: what is asked for.
-/

namespace PushdownLexer

/-- The form of the log. The lines of the program are compact; the other forms are accepted. -/
inductive LogStyle where
  | pretty
  | compact
  | json
  deriving DecidableEq, Repr, Inhabited

namespace LogStyle

/-- All forms. -/
def all : List LogStyle := [pretty, compact, json]

/-- The name of a form. -/
def name : LogStyle → String
  | pretty => "pretty"
  | compact => "compact"
  | json => "json"

/-- The form with a name. -/
def ofName? (s : String) : Option LogStyle := all.find? (·.name = s)

end LogStyle

/-- What the arguments say. -/
structure Options where
  file : Option String := none
  settings : Option String := none
  format : Option TokenFormat := none
  logLevel : Option LogLevel := none
  scannerLogLevel : Option LogLevel := none
  apiLogLevel : Option LogLevel := none
  logStyle : Option LogStyle := none
  strict : Bool := false
  showSource : Bool := false
  deriving DecidableEq, Repr, Inhabited

/-- Why arguments are not accepted. -/
inductive UsageError where
  | unexpectedArgument (argument : String)
  | missingValue (option : String)
  | invalidValue (option value : String)
  /-- An option that takes no value was given one. -/
  | needlessValue (option value : String)
  | repeated (option : String)
  | missingFile
  deriving DecidableEq, Repr, Inhabited

/-- The wording of a usage error. -/
def UsageError.message : UsageError → String
  | unexpectedArgument argument => "unexpected argument '" ++ argument ++ "' found"
  | missingValue option => "a value is required for '--" ++ option ++ "' but none was supplied"
  | invalidValue option value => "invalid value '" ++ value ++ "' for '" ++ option ++ "'"
  | needlessValue option value =>
    "unexpected value '" ++ value ++ "' for '--" ++ option ++ "' found; no more were expected"
  | repeated option => "the argument '--" ++ option ++ "' cannot be used multiple times"
  | missingFile => "the following required arguments were not provided:\n  <FILE>"

/-- What the arguments ask for. -/
inductive Request where
  | version
  | help
  /-- Tokenize a file. -/
  | tokenize (options : Options) (file : String)
  deriving DecidableEq, Repr, Inhabited

/-- An argument by its form. -/
inductive Argument where
  /-- Two dashes alone: all that follows is files. -/
  | separator
  /-- Two dashes and a name, with a value after an equals sign if there is one. -/
  | long (name : String) (value : Option String)
  /-- One dash and at least one letter, of which the first decides. -/
  | short (letter : Char)
  | plain
  deriving DecidableEq, Repr, Inhabited

/-- The form of an argument. A dash alone is the name of a file. -/
def Argument.ofText (argument : String) : Argument :=
  match argument.toList with
  | ['-', '-'] => separator
  | '-' :: '-' :: text =>
    let name := text.takeWhile (· != '=')
    long (String.ofList name)
      (match text.drop name.length with
        | [] => none
        | _ :: value => some (String.ofList value))
  | '-' :: letter :: _ => short letter
  | _ => plain

namespace Options

/-- Set a field that was not set before. -/
def setOnce {α : Type} (name value : String) (read : String → Option α) (old : Option α) :
    Except UsageError (Option α) :=
  match old, read value with
  | some _, _ => .error (.repeated name)
  | none, some new => .ok (some new)
  | none, none => .error (.invalidValue name value)

/-- The path of a file, which is not empty. -/
def path? (s : String) : Option String := if s.isEmpty then none else some s

/-- How the option with the given name is set, if there is one that takes a value. -/
def assign? (o : Options) (name : String) :
    Option (String → Except UsageError Options) :=
  match name with
  | "config" => some fun v =>
    (setOnce name v path? o.settings).map fun settings => { o with settings }
  | "format" => some fun v =>
    (setOnce name v TokenFormat.ofName? o.format).map fun format => { o with format }
  | "log-level" => some fun v =>
    (setOnce name v LogLevel.ofName? o.logLevel).map fun logLevel => { o with logLevel }
  | "scanner-log-level" => some fun v =>
    (setOnce name v LogLevel.ofName? o.scannerLogLevel).map fun scannerLogLevel =>
      { o with scannerLogLevel }
  | "api-log-level" => some fun v =>
    (setOnce name v LogLevel.ofName? o.apiLogLevel).map fun apiLogLevel => { o with apiLogLevel }
  | "log-format" => some fun v =>
    (setOnce name v LogStyle.ofName? o.logStyle).map fun logStyle => { o with logStyle }
  | _ => none

/-- Set a file; there is only one. -/
def setFile (o : Options) (argument : String) : Except UsageError Options :=
  match o.file with
  | some _ => .error (.unexpectedArgument argument)
  | none => (setOnce "<FILE>" argument path? none).map fun file => { o with file }

/-- What is asked for after the last argument. -/
def finish (o : Options) : Except UsageError Request :=
  match o.file with
  | some file => .ok (.tokenize o file)
  | none => .error .missingFile

end Options

/-- What an argument leads to. -/
inductive ArgumentEffect where
  /-- The next argument is read with these options. -/
  | goOn (options : Options)
  /-- The next argument is the value of an option. -/
  | await (name : String) (assign : String → Except UsageError Options)
  /-- All further arguments are files. -/
  | onlyFiles
  /-- Nothing more is read. -/
  | decide (request : Request)

namespace Options

/-- The effect of an option that takes no value. -/
def flag (o : Options) (name : String) : Except UsageError ArgumentEffect :=
  match name with
  | "strict" =>
    if o.strict then .error (.repeated name) else .ok (.goOn { o with strict := true })
  | "show-source" =>
    if o.showSource then .error (.repeated name) else .ok (.goOn { o with showSource := true })
  | "version" => .ok (.decide .version)
  | "help" => .ok (.decide .help)
  | _ => .error (.unexpectedArgument ("--" ++ name))

/-- The effect of an argument that is not the value of an option before it. -/
def effect (o : Options) (argument : String) : Except UsageError ArgumentEffect :=
  match Argument.ofText argument with
  | .separator => .ok .onlyFiles
  | .plain => (o.setFile argument).map .goOn
  | .short 'V' => .ok (.decide .version)
  | .short 'h' => .ok (.decide .help)
  | .short _ => .error (.unexpectedArgument argument)
  | .long name value =>
    match o.assign? name, value with
    | some assign, some v => (assign v).map .goOn
    | some assign, none => .ok (.await name assign)
    | none, none => o.flag name
    | none, some v =>
      match o.flag name with
      | .error (.unexpectedArgument a) => .error (.unexpectedArgument a)
      | _ => .error (.needlessValue name v)

/-- Whether an argument can be the value of the option before it. -/
def isValue (argument : String) : Bool := Argument.ofText argument == .plain

/-- Read the arguments from left to right. -/
def read (o : Options) : List String → Except UsageError Request
  | [] => o.finish
  | argument :: arguments =>
    match o.effect argument with
    | .error e => .error e
    | .ok (.goOn o) => o.read arguments
    | .ok .onlyFiles =>
      match arguments.foldlM setFile o with
      | .error e => .error e
      | .ok o => o.finish
    | .ok (.decide request) => .ok request
    | .ok (.await name assign) =>
      match arguments with
      | [] => .error (.missingValue name)
      | value :: arguments =>
        if isValue value then
          match assign value with
          | .error e => .error e
          | .ok o => o.read arguments
        else .error (.missingValue name)

end Options

/-- What the arguments ask for. -/
def Request.ofArguments (arguments : List String) : Except UsageError Request :=
  ({} : Options).read arguments

end PushdownLexer
