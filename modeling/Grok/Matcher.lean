import Grok.Expansion
import Grok.Regex.Search
import Grok.Text.Quoted
import Grok.Timeout.Duration
/-!
Matchers: patterns made ready to match texts.
-/
namespace Grok

structure Matcher where
  /-- The pattern as it was written. -/
  source : String
  /-- The pattern without references. -/
  expression : String
  regex : Regex.Node
  captures : List CaptureField

inductive MatchOutcome where
  | matched (captures : List Capture)
  | notMatched
  /-- The time ran out, after the given span. -/
  | timedOut (elapsed : Timeout.Duration)

namespace MatchOutcome

def isMatched : MatchOutcome → Bool
  | .matched _ => true
  | _ => false

def isTimedOut : MatchOutcome → Bool
  | .timedOut _ => true
  | _ => false

def captures? : MatchOutcome → Option (List Capture)
  | .matched cs => some cs
  | _ => none

def ofCaptures : Option (List Capture) → MatchOutcome
  | some cs => .matched cs
  | none => .notMatched

/-- A matcher that failed has not matched. -/
def ofResult : Except Error (Option (List Capture)) → MatchOutcome
  | .ok captures => .ofCaptures captures
  | .error _ => .notMatched

@[simp] theorem ofResult_ne_timedOut (r : Except Error (Option (List Capture)))
    (d : Timeout.Duration) : ofResult r ≠ .timedOut d := by
  cases r with
  | ok captures => cases captures <;> simp [ofResult, ofCaptures]
  | error e => simp [ofResult]

end MatchOutcome

/-- How an attempt with a limited number of steps ends. -/
inductive Attempt where
  | done (captures : Option (List Capture)) (steps : Nat)
  /-- The limit was reached first. -/
  | cutOff

namespace Matcher

def ofExpression (source expression : String) (captures : List CaptureField) :
    Except Error Matcher :=
  match Regex.Node.ofText expression.toList with
  | .ok n => .ok ⟨source, expression, n, captures⟩
  | .error f => .error (.invalidRegex expression f.message)

/-- What a match put into a field. A group that does not exist took no part. -/
def captureOf (m : Matcher) (text : Array Char) (bs : Regex.Bindings) (c : CaptureField) :
    Capture :=
  let span := (m.regex.groups.find? fun g => g.2 == some c.group).bind fun g => bs.get? g.1
  ⟨c.field, span.map fun s => c.coercion.apply (String.ofList (s.text text))⟩

/-- Looks for the first match in a text. -/
def attempt (m : Matcher) (limit : Option Nat) (text : String) : Attempt :=
  let chars := text.toList.toArray
  match Regex.search ⟨chars, limit⟩ m.regex with
  | .found f steps => .done (some (m.captures.map (m.captureOf chars f.bindings))) steps
  | .absent steps => .done none steps
  | .exhausted => .cutOff

/-- The captures of the first match in a text, in the order of the capture table. -/
def execute (m : Matcher) (text : String) : Option (List Capture) :=
  match m.attempt none text with
  | .done captures _ => captures
  | .cutOff => none

def isMatch (m : Matcher) (text : String) : Bool := (m.execute text).isSome

def describe (m : Matcher) : String :=
  let coercion : Coercion → String
    | .text => "None"
    | .int => "Int"
    | .float => "Float"
  let field (c : CaptureField) : String :=
    "CaptureField \x7b group: " ++ Text.quoted c.group ++ ", field: " ++ Text.quoted c.field ++
      ", coercion: " ++ coercion c.coercion ++ " \x7d"
  "CompiledMatcher \x7b source: " ++ Text.quoted m.source ++ ", expression: " ++
    Text.quoted m.expression ++ ", captures: [" ++ ", ".intercalate (m.captures.map field) ++
    "] \x7d"

end Matcher

def Library.compile (library : Library) (namedOnly : Bool) (pattern : String) :
    Except Error Matcher := do
  let x ← library.expand namedOnly pattern
  Matcher.ofExpression pattern x.expression x.captures

end Grok
