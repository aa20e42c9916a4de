import PushdownLexer.Json.Reader
import PushdownLexer.Settings.Basic
import PushdownLexer.Text.Position

/-!
# Settings from JSON

A settings file holds a JSON object. Fields that are missing keep their standard value and unknown
ones are passed over, but a known field must have a value of its type and must not come twice. The
values of the fields may also stand in an array, in the order of the fields.

## Main definitions

* `Settings.ofDocument?`: the settings that a document describes.
-/

namespace PushdownLexer

namespace JsonValue

/-- A truth value. -/
def toBool? : JsonValue → Option Bool
  | bool b => some b
  | _ => none

/-- A string. -/
def toText? : JsonValue → Option String
  | text s => s.text?
  | _ => none

/-- A whole number that is a 64-bit word and written as such. -/
def toWord? : JsonValue → Option Nat
  | number digits =>
    if digits.all Char.isDigit then
      let n := digits.foldl (fun n c => 10 * n + (c.toNat - '0'.toNat)) 0
      if n ≤ maxWord then some n else none
    else none
  | _ => none

/-- One of several values with names: a string with the name, or an object whose only field has the
name and the value null. -/
def toNamed? {α : Type} (ofName? : String → Option α) : JsonValue → Option α
  | text s => s.text?.bind ofName?
  | object [(name, null)] => name.text?.bind ofName?
  | _ => none

/-- A value that may be null. -/
def toOptional? {α : Type} (decode : JsonValue → Option α) : JsonValue → Option (Option α)
  | null => some none
  | v => (decode v).map some

/-- The values of the fields with the given names, in this order, `none` for one that is missing. -/
def toFields? (names : List String) : JsonValue → Option (List (Option JsonValue))
  | object fields =>
    let known := fields.filterMap fun (name, _) => name.text?.filter names.contains
    if fields.all (·.1.text?.isSome) && known.eraseDups.length = known.length then
      some (names.map fun name => (fields.find? (·.1.text? = some name)).map (·.2))
    else none
  | array items =>
    if items.length ≤ names.length then
      some (items.map some ++ List.replicate (names.length - items.length) none)
    else none
  | _ => none

/-- Decode a field that may be missing. -/
def orStandard? {α : Type} (decode : JsonValue → Option α) (standard : α) :
    Option JsonValue → Option α
  | none => some standard
  | some v => decode v

end JsonValue

open JsonValue

/-- A level in a settings file; the names are the ones of the levels, in small letters. -/
def LogLevel.decode? : JsonValue → Option LogLevel :=
  toNamed? fun s => LogLevel.all.find? (·.name = s)

/-- The settings of a scan that a value describes. -/
def ScanSettings.decode? (v : JsonValue) : Option ScanSettings := do
  let names :=
    ["start_state", "snippet_len", "max_stack_depth", "require_start_state_at_end"]
  match ← v.toFields? names with
  | [start, preview, depth, strict] =>
    let standard : ScanSettings := {}
    return {
      startState := ← orStandard? toText? standard.startState start
      previewLength := ← orStandard? toWord? standard.previewLength preview
      maxDepth := ← orStandard? toWord? standard.maxDepth depth
      strict := ← orStandard? toBool? standard.strict strict }
  | _ => none

/-- The settings that a value describes. -/
def Settings.decode? (v : JsonValue) : Option Settings := do
  let names :=
    ["scanner", "log_level", "scanner_log_level", "api_log_level", "format", "show_source"]
  match ← v.toFields? names with
  | [scan, level, scannerLevel, apiLevel, format, showSource] =>
    let standard : Settings := {}
    let level? := orStandard? (toOptional? LogLevel.decode?) none
    return {
      scan := ← orStandard? ScanSettings.decode? standard.scan scan
      logLevel := ← level? level
      scannerLogLevel := ← level? scannerLevel
      apiLogLevel := ← level? apiLevel
      format := ← orStandard? (toNamed? TokenFormat.ofName?) standard.format format
      showSource := ← orStandard? toBool? standard.showSource showSource }
  | _ => none

/-- The settings that a document describes. -/
def Settings.ofDocument? (text : String) : Option Settings :=
  (JsonValue.ofDocument? text.toList).bind Settings.decode?

end PushdownLexer
