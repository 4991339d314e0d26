/-!
Log entries. Operations that log return their entries, oldest first.
-/
namespace Grok

inductive LogLevel where
  | info | debug | warn | error
  deriving DecidableEq, Repr

structure LogEntry where
  level : LogLevel
  message : String
  /-- Named details, every value as text. -/
  fields : List (String × String)
  deriving DecidableEq, Repr

abbrev Log := List LogEntry

end Grok
