import PushdownLexer.Log.Level

/-!
# Which events are logged

A filter gives names of targets their least level. An event follows the longest name that begins the
name of its target, and among directives for one name one about a field that the event has.

## Main definitions

* `LogLevels`: the levels asked for, and `LogLevels.threshold` a part of the program.
* `LogFilter.enabled`: whether an event is logged.
* `LogLevels.filter`: the filter of levels.
-/

namespace PushdownLexer

/-- The levels asked for: for all events, and for those of two parts of the program. -/
structure LogLevels where
  whole : LogLevel := .standard
  scanner : Option LogLevel := none
  api : Option LogLevel := none
  deriving DecidableEq, Repr, Inhabited

/-- The level for a part of the program. -/
def LogLevels.threshold (l : LogLevels) : LogSource → LogLevel
  | .scanner => l.scanner.getD l.whole
  | .api => l.api.getD l.whole
  | .cli => l.whole

/-- The least level that is logged, `none` if nothing is, for targets whose name begins so; with a
field, for the events among them that have it. -/
structure LogDirective where
  target : String
  field : Option String := none
  level : Option LogLevel
  deriving DecidableEq, Repr, Inhabited

namespace LogDirective

/-- Whether a directive is about the events of a target with certain fields. -/
def concerns (d : LogDirective) (target : String) (fields : List String) : Bool :=
  d.target.toList.isPrefixOf target.toList && d.field.all fields.contains

/-- Whether a directive gives way to a later one about the same events: the one with the longer
target is followed, or else the one with a field, or else the one whose field comes later in
alphabetical order, or else the later one. -/
def yieldsTo (d later : LogDirective) : Bool :=
  if d.target.utf8ByteSize = later.target.utf8ByteSize then
    match d.field, later.field with
    | none, _ => true
    | some _, none => false
    | some f, some g => !(g < f)
  else d.target.utf8ByteSize < later.target.utf8ByteSize

end LogDirective

/-- The directives of a filter. -/
structure LogFilter where
  directives : List LogDirective
  deriving DecidableEq, Repr, Inhabited

namespace LogFilter

/-- The directive to follow out of the best one so far and a later one. -/
def preferred (best : Option LogDirective) (d : LogDirective) : Option LogDirective :=
  match best with
  | none => some d
  | some b => if b.yieldsTo d then some d else some b

/-- The directive that an event of a target follows. -/
def directiveFor? (f : LogFilter) (target : String) (fields : List String) :
    Option LogDirective :=
  (f.directives.filter (·.concerns target fields)).foldl preferred none

/-- Whether an event of a target, with certain fields and a level, is logged. -/
def enabled (f : LogFilter) (target : String) (fields : List String) (level : LogLevel) : Bool :=
  match (f.directiveFor? target fields).bind (·.level) with
  | some least => least.rank ≤ level.rank
  | none => false

end LogFilter

/-- The filter of the levels asked for. -/
def LogLevels.filter (l : LogLevels) : LogFilter :=
  ⟨⟨"", none, some l.whole⟩ :: LogSource.all.map fun s => ⟨s.target, none, some (l.threshold s)⟩⟩

end PushdownLexer
