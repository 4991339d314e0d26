/-!
Outcomes of filtering a record, field by field.
-/
namespace Grok

inductive FieldOutcome where
  /-- Some pattern matched some text of the field. -/
  | matched
  | notMatched
  /-- An attempt ran over its deadline. -/
  | timedOut
  /-- The record has no such field. -/
  | missing
  deriving DecidableEq, Repr

/-- The outcome of every field that was tried, in order. -/
structure FilterOutcome where
  fields : List (String × FieldOutcome)
  deriving DecidableEq, Repr

namespace FilterOutcome

def isMatched (o : FilterOutcome) : Bool := o.fields.any (·.2 == .matched)

def isTimedOut (o : FilterOutcome) : Bool := o.fields.any (·.2 == .timedOut)

/-- Nothing matched, and a field failed for another reason than time, or none was tried. -/
def isFailed (o : FilterOutcome) : Bool :=
  !o.isMatched &&
    (o.fields.isEmpty || o.fields.any fun f => f.2 == .notMatched || f.2 == .missing)

def field? (o : FilterOutcome) (name : String) : Option FieldOutcome :=
  (o.fields.find? (·.1 == name)).map (·.2)

end FilterOutcome

end Grok
