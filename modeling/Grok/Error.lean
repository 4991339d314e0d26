/-!
Everything that can go wrong, each cause with its own constructor, and the one place where a cause
is put into words.
-/
namespace Grok

inductive ConfigFault where
  | emptyFieldName
  | noPatterns (field : String)
  | zeroInterval
  | unknownScope (text : String)
  | duplicateField (field : String)
  /-- The document could not be read as options at all. -/
  | malformed (detail : String)
  | stated (text : String)
  deriving DecidableEq, Repr

def ConfigFault.message : ConfigFault → String
  | .emptyFieldName => "match field name is empty"
  | .noPatterns field => s!"match field '{field}' has no patterns"
  | .zeroInterval => "monitor_interval_millis must be greater than zero"
  | .unknownScope text => s!"unknown timeout_scope '{text}' (expected pattern, field or event)"
  | .duplicateField field => s!"duplicate match field '{field}'"
  | .malformed detail => detail
  | .stated text => text

inductive Error where
  /-- A reference names a pattern that is neither in the library nor defined in place. -/
  | unresolvedPattern (name pattern : String)
  /-- A reference stands inside its own expansion, or too deep. -/
  | cyclicReference (pattern : String) (passes : Nat)
  /-- The type of a reference is neither `int` nor `float`. -/
  | unknownCoercion (coercion field : String)
  | invalidRegex (pattern detail : String)
  /-- Text opens a reference but is none. -/
  | invalidReference (text : String)
  | missingFile (path : String)
  | invalidGlob (glob detail : String)
  | io (detail : String)
  | config (fault : ConfigFault)
  | matchRuntime (detail : String)
  | executorUnavailable (detail : String)
  deriving DecidableEq, Repr

namespace Error

def message : Error → String
  | .unresolvedPattern name pattern => s!"Unresolved pattern %\x7b{name}\x7d in '{pattern}'"
  | .cyclicReference pattern passes =>
    s!"Cyclic pattern reference in '{pattern}' (no fixed point after {passes} passes)"
  | .unknownCoercion coercion field => s!"Unknown coercion '{coercion}' for field '{field}'"
  | .invalidRegex pattern detail => s!"Invalid regex pattern '{pattern}': {detail}"
  | .invalidReference text => s!"Invalid pattern reference: {text}"
  | .missingFile path => s!"Grok pattern file does not exist: {path}"
  | .invalidGlob glob detail => s!"Invalid pattern file glob '{glob}': {detail}"
  | .io detail => s!"IO error: {detail}"
  | .config fault => s!"Configuration error: {fault.message}"
  | .matchRuntime detail => s!"Match runtime error: {detail}"
  | .executorUnavailable detail => s!"Match executor unavailable: {detail}"

def isCompileError : Error → Bool
  | .unresolvedPattern .. | .cyclicReference .. | .unknownCoercion .. | .invalidRegex ..
  | .invalidReference .. => true
  | _ => false

end Error

end Grok
