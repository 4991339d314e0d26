import Grok.Library
import Grok.Number.Word
import Grok.Timeout.Deadline
/-!
The options of an engine: which patterns are tried on which fields, where definitions come from, how
captures are written back, and how much time an attempt may take.
-/
namespace Grok

structure Options where
  /-- The patterns of every field, in the order in which the fields are tried. -/
  patterns : List (String × List String)
  dirs : List String
  /-- Which files of a directory are read. -/
  filesGlob : String
  /-- Definitions that come after those of all files. -/
  definitions : Table String
  /-- Whether only references with a field are captured. -/
  namedOnly : Bool
  keepEmpty : Bool
  /-- Whether the first match of a field ends the work on it, and on the record. -/
  breakOnMatch : Bool
  failureTags : List String
  timeoutTag : String
  /-- The time for a unit of work. None sets no bound. -/
  timeoutMillis : Nat
  scope : Timeout.Scope
  /-- Fields whose value is replaced and not merged. -/
  overwrite : List String
  intervalMillis : Nat
  builtins : Bool
  deriving DecidableEq, Repr

inductive Setting where
  /-- Replaces the patterns of a field. -/
  | patterns (field : String) (ps : List String)
  | pattern (field p : String)
  | dir (path : String)
  | filesGlob (glob : String)
  | definition (name body : String)
  | namedOnly (on : Bool)
  | keepEmpty (on : Bool)
  | breakOnMatch (on : Bool)
  | failureTags (tags : List String)
  | timeoutTag (tag : String)
  | timeout (d : Timeout.Duration)
  | noTimeout
  | scope (s : Timeout.Scope)
  | overwrite (field : String)
  | interval (d : Timeout.Duration)
  | noBuiltins
  deriving DecidableEq, Repr

namespace Options

/-- The tag of records that no pattern matched. -/
def failureTag : String := "_grokparsefailure"

def initial : Options where
  patterns := []
  dirs := []
  filesGlob := "*"
  definitions := []
  namedOnly := true
  keepEmpty := false
  breakOnMatch := true
  failureTags := [failureTag]
  timeoutTag := "_groktimeout"
  timeoutMillis := 30000
  scope := .pattern
  overwrite := []
  intervalMillis := 250
  builtins := true

/-- Changes the patterns of a field. A field without patterns yet comes last. -/
def changePatterns (field : String) (change : List String → List String) :
    List (String × List String) → List (String × List String)
  | [] => [(field, change [])]
  | (f, ps) :: rest =>
    if f = field then (f, change ps) :: rest else (f, ps) :: changePatterns field change rest

/-- Milliseconds are kept in 64 bits. -/
def millis (d : Timeout.Duration) : Nat := d.toMillis % Number.wordCount

def set (o : Options) : Setting → Options
  | .patterns field ps => { o with patterns := changePatterns field (fun _ => ps) o.patterns }
  | .pattern field p => { o with patterns := changePatterns field (· ++ [p]) o.patterns }
  | .dir path => { o with dirs := o.dirs ++ [path] }
  | .filesGlob glob => { o with filesGlob := glob }
  | .definition name body => { o with definitions := o.definitions.put name body }
  | .namedOnly on => { o with namedOnly := on }
  | .keepEmpty on => { o with keepEmpty := on }
  | .breakOnMatch on => { o with breakOnMatch := on }
  | .failureTags tags => { o with failureTags := tags }
  | .timeoutTag tag => { o with timeoutTag := tag }
  | .timeout d => { o with timeoutMillis := millis d }
  | .noTimeout => { o with timeoutMillis := 0 }
  | .scope s => { o with scope := s }
  | .overwrite field => { o with overwrite := o.overwrite ++ [field] }
  | .interval d => { o with intervalMillis := max (millis d) 1 }
  | .noBuiltins => { o with builtins := false }

def build (settings : List Setting) : Options := settings.foldl set initial

def timeout (o : Options) : Option Timeout.Duration :=
  if o.timeoutMillis = 0 then none else some (.ofMillis o.timeoutMillis)

def interval (o : Options) : Timeout.Duration := .ofMillis o.intervalMillis

def overwrites (o : Options) (field : String) : Bool := o.overwrite.contains field

/-- Where the definitions come from, in the order of precedence: those that come later win. -/
def sources (o : Options) : List PatternSource :=
  (if o.builtins then [.builtin] else []) ++ o.dirs.map (.path · o.filesGlob) ++
    (if o.definitions.isEmpty then [] else [.inline o.definitions])

def validatePatterns : List (String × List String) → Except Error Unit
  | [] => .ok ()
  | (field, ps) :: rest =>
    if field.isEmpty then .error (.config .emptyFieldName)
    else if ps.isEmpty then .error (.config (.noPatterns field))
    else validatePatterns rest

/-- What the types of the options do not rule out. -/
def validate (o : Options) : Except Error Unit := do
  validatePatterns o.patterns
  if o.intervalMillis = 0 then throw (.config .zeroInterval)
  match Glob.ofText o.filesGlob with
  | .ok _ => return
  | .error f => throw (.invalidGlob o.filesGlob f.message)

end Options

end Grok
