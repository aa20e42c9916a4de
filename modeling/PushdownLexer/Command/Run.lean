import PushdownLexer.Command.Options
import PushdownLexer.Json.Printer
import PushdownLexer.Log.Directive
import PushdownLexer.Report.Context
import PushdownLexer.Report.Token
import PushdownLexer.Report.Tokenization

/-!
# Running a command

A run reads at most two files, first the settings and then the source. How files are read is left
open, so that a run is a pure function of their contents.

## Main definitions

* `CommandResult`: the exit code, and what is written.
* `Plan`: what options and settings together ask for.
* `runCommand`: the run for given arguments.
-/

namespace PushdownLexer

/-- The end of a run. -/
structure CommandResult where
  exitCode : Nat
  output : String
  errors : String
  deriving DecidableEq, Repr, Inhabited

/-- The name of the program and its version. -/
def versionText : String := "stacklex 0.1.0\n"

/-- How the program is used. -/
def usageText : String := "Usage: stacklex [OPTIONS] <FILE>\n"

/-- The explanation of all options. -/
def helpText : String :=
  "Stacklex - state-stack rule scanner for a small assembly dialect\n\n" ++ usageText ++
  "\nArguments:\n" ++
  "  <FILE>  Source file to tokenize\n" ++
  "\nOptions:\n" ++
  "      --config <CONFIG>            JSON configuration file\n" ++
  "      --format <FORMAT>            Token output format: text, json\n" ++
  "      --log-level <LEVEL>          Log level: silent, error, warn, info, debug, trace\n" ++
  "      --scanner-log-level <LEVEL>  Log level for the scanner phase only\n" ++
  "      --api-log-level <LEVEL>      Log level for the api phase only\n" ++
  "      --log-format <FORMAT>        Log output format: pretty, compact, json\n" ++
  "      --strict                     Fail if the input ends inside a nested state\n" ++
  "      --show-source                Print the source with line numbers before the tokens\n" ++
  "  -h, --help                       Print help\n" ++
  "  -V, --version                    Print version\n"

/-- The lines of a text with their numbers, from number `number` on. -/
def listingLines (number : Nat) : List (List Char) → List Char
  | [] => []
  | line :: lines => numberedLine 3 number line ++ listingLines (number + 1) lines

/-- The source with line numbers, between the headings of source and tokens. -/
def sourceListing (source : List Char) : String :=
  "[Source]\n" ++ String.ofList (listingLines 1 (splitLines source)) ++ "[Tokens]\n"

/-- The tokens in a format. -/
def TokenFormat.write (tokens : List (Token Assembly.Kind)) : TokenFormat → String
  | text => String.join (tokens.map fun t => t.kind.render ++ "\n")
  | json => (JsonValue.array (tokens.map fun t => (TokenRecord.ofToken t).toJson)).pretty ++ "\n"

/-- The log lines that pass a filter. -/
def LogFilter.write (filter : LogFilter) (log : List LogEntry) : String :=
  let kept := log.filter fun e => filter.enabled e.source.target e.fieldNames e.level
  String.join (kept.map fun e => e.line ++ "\n")

/-- The line of a failure in a text, and the source around it. -/
def Failure.write (f : Failure) (source : List Char) : String :=
  let context :=
    match f.line?, f.column? with
    | some line, some column => (sourceContext? source line column).getD []
    | _, _ => []
  "error: " ++ f.message ++ "\n" ++ String.ofList context

/-- The end of a run that failed before there was a source, after some lines of the log. -/
def CommandResult.ofFailure (log : String) (f : Failure) : CommandResult :=
  ⟨1, "", log ++ "Error: " ++ f.message ++ "\n"⟩

/-- What options and settings together ask for. -/
structure Plan where
  file : String
  format : TokenFormat
  run : RunSettings
  levels : LogLevels
  deriving DecidableEq, Repr, Inhabited

/-- Options win over settings; a flag that is set in either place is set. -/
def Plan.ofOptions (o : Options) (file : String) (s : Settings) : Plan where
  file
  format := o.format.getD s.format
  run :=
    let run := if o.strict then s.run.strict else s.run
    { run with showSource := o.showSource || run.showSource }
  levels :=
    { whole := (o.logLevel.or s.logLevel).getD .standard
      scanner := o.scannerLogLevel.or s.scannerLogLevel
      api := o.apiLogLevel.or s.apiLogLevel }

namespace Plan

/-- The filter of the log, with the complaints about the directives that take its place if there
are any. -/
def filter (p : Plan) (directives : Option String) : LogFilter × String :=
  match directives with
  | none => (p.levels.filter, "")
  | some s =>
    let (filter, complaints) := LogFilter.ofDirectives s
    (filter, String.join (complaints.map (· ++ "\n")))

/-- Carry out a plan, given the content of its file. -/
def carryOut (p : Plan) (directives : Option String) (content : Except ReadFault ByteArray) :
    CommandResult :=
  let (filter, complaints) := p.filter directives
  let opening : List LogEntry := [.programStarted p.file p.format.title, .readingSource p.file]
  match sourceText p.file content with
  | .error f => .ofFailure (complaints ++ filter.write opening) f
  | .ok text =>
    let source := text.toList
    let listing := if p.run.showSource then sourceListing source else ""
    let tokenization := tokenizeSource p.run source
    let log := complaints ++ filter.write (opening ++ tokenization.log)
    match tokenization.result with
    | .ok out => ⟨0, listing ++ p.format.write out.tokens, log⟩
    | .error f => ⟨1, listing, log ++ f.write source⟩

end Plan

/-- The settings that the options name. -/
def Options.loadSettings {m : Type → Type} [Monad m]
    (readFile : String → m (Except ReadFault ByteArray)) (o : Options) :
    m (Except Failure Settings) :=
  match o.settings with
  | none => pure (.ok {})
  | some path => do return PushdownLexer.loadSettings path (← readFile path)

/-- Run the program for the given arguments; `directives` are those of the log filter from the
environment, if it holds any. -/
def runCommand {m : Type → Type} [Monad m] (readFile : String → m (Except ReadFault ByteArray))
    (directives : Option String) (arguments : List String) : m CommandResult :=
  match Request.ofArguments arguments with
  | .error e => pure ⟨2, "", "error: " ++ e.message ++ "\n\n" ++ usageText⟩
  | .ok .version => pure ⟨0, versionText, ""⟩
  | .ok .help => pure ⟨0, helpText, ""⟩
  | .ok (.tokenize options file) => do
    match ← options.loadSettings readFile with
    | .error f => return .ofFailure "" f
    | .ok settings =>
      return (Plan.ofOptions options file settings).carryOut directives (← readFile file)

end PushdownLexer
