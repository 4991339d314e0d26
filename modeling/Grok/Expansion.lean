import Grok.Reference
import Grok.Capture
import Grok.Capture.Groups
import Grok.Library
/-!
Expansion of references into one expression. A reference becomes a group around the expansion of
the pattern that it names: a numbered group if it feeds a field, a group without a name otherwise.
-/
namespace Grok

/-- The longest chain of references inside references. -/
def maxExpansionDepth : Nat := 64

namespace Expansion

/-- The beginning of the names of numbered groups. -/
def groupPrefix : String := "__grok"

def groupName (k : Nat) : String := groupPrefix ++ toString k

structure Target where
  field : String
  coercion : Coercion
  deriving DecidableEq, Repr

/-- What an expansion keeps track of. -/
structure State where
  /-- Patterns defined in place. They go before those of the library. -/
  local_ : Table String
  /-- What the numbered groups feed. -/
  targets : Table Target
  nextGroup : Nat
  deriving DecidableEq, Repr

/-- What stays the same during an expansion. -/
structure Setting where
  library : Library
  /-- Whether references without a field feed none. -/
  namedOnly : Bool
  source : String

def Setting.resolve (s : Setting) (st : State) (name : String) : Option String :=
  (st.local_.get? name).orElse fun _ => s.library.resolve name

def Setting.target (s : Setting) (r : Reference) : Except Error (Option Target) :=
  match r.field, r.coercion with
  | some field, some type =>
    let field := String.ofList field
    (Coercion.ofType (String.ofList type) field).map fun c => some ⟨field, c⟩
  | some field, none => .ok (some ⟨String.ofList field, .text⟩)
  | none, _ => .ok (if s.namedOnly then none else some ⟨String.ofList r.name, .text⟩)

/-- The pattern behind a reference. A definition in place is in force from here on. -/
def Setting.body (s : Setting) (r : Reference) (st : State) : Except Error (List Char × State) :=
  let name := String.ofList r.name
  match r.definition with
  | some d => .ok (d, { st with local_ := st.local_.put name (String.ofList d) })
  | none =>
    match s.resolve st name with
    | some body => .ok (body.toList, st)
    | none => .error (.unresolvedPattern name s.source)

/-- Numbers a group, so that a group comes before the groups inside it. -/
def State.number (st : State) : Option Target → Option String × State
  | none => (none, st)
  | some t =>
    let g := groupName st.nextGroup
    (some g, { st with targets := st.targets.put g t, nextGroup := st.nextGroup + 1 })

def wrap (group : Option String) (inner : List Char) : List Char :=
  match group with
  | some g => "(?<".toList ++ g.toList ++ '>' :: inner ++ [')']
  | none => "(?:".toList ++ inner ++ [')']

/-- Expands a text from left to right. `path` holds the names that are being expanded; a name may
not stand on it twice, nor may it grow beyond the limit. -/
def expandPieces (s : Setting) (path : List String) (ps : List Piece) (st : State) :
    Except Error (List Char × State) :=
  match ps with
  | [] => .ok ([], st)
  | .plain c :: ps => do
    let (out, st) ← expandPieces s path ps st
    return (c :: out, st)
  | .reference r :: ps => do
    let name := String.ofList r.name
    if path.contains name || maxExpansionDepth ≤ path.length then
      .error (.cyclicReference s.source (path.length + 1))
    else
      let (body, st) ← s.body r st
      let target ← s.target r
      let (group, st) := st.number target
      let (inner, st) ← expandPieces s (name :: path) (Piece.ofText body) st
      let (out, st) ← expandPieces s path ps st
      return (wrap group inner ++ out, st)
termination_by (maxExpansionDepth - path.length, ps.length)
decreasing_by
  all_goals simp_wf
  · exact .right _ (by omega)
  · simp_all; exact .left _ _ (by omega)
  · exact .right _ (by omega)

/-- The definitions that stand in the pattern itself, the last one of a name in force. -/
def localDefinitions (ps : List Piece) : Table String :=
  Table.putAll [] <| (ps.filterMap Piece.reference?).filterMap fun r =>
    r.definition.map fun d => (String.ofList r.name, String.ofList d)

/-- What a group of the expression feeds: a numbered group its target, any other the field of its
own name. Groups that only look numbered feed nothing. -/
def captureOf (targets : Table Target) (group : String) : Option CaptureField :=
  match targets.get? group with
  | some t => some ⟨group, t.field, t.coercion⟩
  | none => if group.startsWith groupPrefix then none else some ⟨group, group, .text⟩

def captureTable (targets : Table Target) (expression : List Char) : List CaptureField :=
  (Capture.namedGroups expression).filterMap (captureOf targets)

end Expansion

/-- An expression without references, and what its groups feed. -/
structure Expanded where
  expression : String
  captures : List CaptureField
  deriving DecidableEq, Repr

def Library.expand (library : Library) (namedOnly : Bool) (pattern : String) :
    Except Error Expanded := do
  let setting : Expansion.Setting := ⟨library, namedOnly, pattern⟩
  let pieces := Piece.ofText pattern.toList
  let (expression, st) ←
    Expansion.expandPieces setting [] pieces ⟨Expansion.localDefinitions pieces, [], 0⟩
  match firstMalformed (Piece.ofText expression) with
  | some rest => .error (.invalidReference (String.ofList (rest.take 32)))
  | none => return ⟨String.ofList expression, Expansion.captureTable st.targets expression⟩

end Grok
