import Grok.Document.Json
import Grok.Document.Yaml
import Grok.Options
/-!
Options from documents. Every option may be given once, and no other entry is allowed. Of several
faults in a document the first one counts.
-/
namespace Grok.Options

/-- The options that a document can set, in the order in which a list gives them. -/
inductive Key where
  | patterns
  | dirs
  | filesGlob
  | definitions
  | namedOnly
  | keepEmpty
  | breakOnMatch
  | failureTags
  | timeoutTag
  | timeout
  | scope
  | overwrite
  | interval
  | builtins
  deriving DecidableEq, Repr

namespace Key

def all : List Key :=
  [patterns, dirs, filesGlob, definitions, namedOnly, keepEmpty, breakOnMatch, failureTags,
    timeoutTag, timeout, scope, overwrite, interval, builtins]

def name : Key → String
  | patterns => "match"
  | dirs => "patterns_dir"
  | filesGlob => "patterns_files_glob"
  | definitions => "pattern_definitions"
  | namedOnly => "named_captures_only"
  | keepEmpty => "keep_empty_captures"
  | breakOnMatch => "break_on_match"
  | failureTags => "tag_on_failure"
  | timeoutTag => "tag_on_timeout"
  | timeout => "timeout_millis"
  | scope => "timeout_scope"
  | overwrite => "overwrite"
  | interval => "monitor_interval_millis"
  | builtins => "include_builtin_patterns"

def ofName? (s : String) : Option Key := all.find? (·.name == s)

end Key

abbrev Decoded := Except ConfigFault

/-- What a document holds, or a fault that says what was expected. -/
def expect {α : Type} (what : String) : Option α → Decoded α
  | some a => .ok a
  | none => .error (.malformed s!"expected {what}")

/-- Fields and their patterns in the order of the document. A field must not come twice. -/
def decodePatterns (earlier : List (String × List String)) :
    List (Document × Document) → Decoded (List (String × List String))
  | [] => .ok earlier
  | (k, d) :: rest => do
    let field ← expect "the name of a field" k.asText?
    let ps ← expect "a pattern or a list of patterns" d.asOneOrMany?
    if earlier.any (·.1 == field) then throw (.duplicateField field)
    decodePatterns (earlier ++ [(field, ps)]) rest

/-- Names and definitions. The last definition of a name counts. -/
def decodeDefinitions (es : List (Document × Document)) : Decoded (Table String) := do
  let defs ← es.mapM fun (k, d) =>
    return (← expect "a name" k.asText?, ← expect "a pattern" d.asText?)
  return Table.putAll [] defs

/-- A scope is its name, or the only name of a map to null. -/
def decodeScope (d : Document) : Decoded Timeout.Scope :=
  let name := match d with
    | .map [(.text s, .null)] => some s
    | d => d.asText?
  expect "a timeout scope" (name.bind Timeout.Scope.ofName?)

def assign (o : Options) (d : Document) : Key → Decoded Options
  | .patterns =>
    return { o with patterns := ← decodePatterns [] (← expect "a map of fields" d.asEntries?) }
  | .dirs => return { o with dirs := ← expect "a list of paths" d.asTexts? }
  | .filesGlob => return { o with filesGlob := ← expect "a glob" d.asText? }
  | .definitions =>
    return { o with definitions := ← decodeDefinitions (← expect "a map of patterns" d.asEntries?) }
  | .namedOnly => return { o with namedOnly := ← expect "a boolean" d.asBool? }
  | .keepEmpty => return { o with keepEmpty := ← expect "a boolean" d.asBool? }
  | .breakOnMatch => return { o with breakOnMatch := ← expect "a boolean" d.asBool? }
  | .failureTags =>
    return { o with failureTags := ← expect "a tag or a list of tags" d.asOneOrMany? }
  | .timeoutTag => return { o with timeoutTag := ← expect "a tag" d.asText? }
  | .timeout => return { o with timeoutMillis := ← expect "milliseconds" d.asCount? }
  | .scope => return { o with scope := ← decodeScope d }
  | .overwrite => return { o with overwrite := ← expect "a list of fields" d.asTexts? }
  | .interval => return { o with intervalMillis := ← expect "milliseconds" d.asCount? }
  | .builtins => return { o with builtins := ← expect "a boolean" d.asBool? }

def decodeEntries (o : Options) (seen : List Key) : List (Document × Document) → Decoded Options
  | [] => .ok o
  | (k, d) :: rest => do
    let name ← expect "the name of an option" k.asText?
    let key ← expect "a known option" (Key.ofName? name)
    if seen.contains key then throw (.malformed s!"duplicate option {name}")
    decodeEntries (← assign o d key) (key :: seen) rest

def decodeItems (o : Options) : List Key → List Document → Decoded Options
  | _, [] => .ok o
  | [], _ :: _ => throw (.malformed "too many options")
  | key :: keys, d :: ds => do decodeItems (← assign o d key) keys ds

def ofReading (decode : Document → Decoded Options) (r : Reading) : Except Error Options := do
  let decoded : Decoded Options := do
    let o ← decode r.root
    if r.complete then return o else throw (.malformed "text behind the document")
  let o ← decoded.mapError .config
  o.validate
  return o

def ofJson (s : String) : Except Error Options :=
  ofReading (fun d =>
    match d with
    | .map es => decodeEntries initial [] es
    | .list ds => decodeItems initial Key.all ds
    | _ => throw (.malformed "expected options")) (Document.Json.read s)

/-- An empty text sets no option. -/
def ofYaml (s : String) : Except Error Options :=
  ofReading (fun d => do decodeEntries initial [] (← expect "options" d.asEntries?))
    (Document.Yaml.read s)

def ofYamlFile (tree : FileTree) (path : String) : Except Error Options :=
  match tree.readText path with
  | .ok s => ofYaml s
  | .error e => .error (.io e)

end Grok.Options
