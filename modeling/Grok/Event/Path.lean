/-!
Field names as key paths. A name such as `[http][status]` leads through nested objects, any other
name is a single key.
-/
namespace Grok.Event

/-- The texts between the borders `][`. -/
def splitKeys : List Char → List (List Char)
  | ']' :: '[' :: r => [] :: splitKeys r
  | c :: r =>
    match splitKeys r with
    | [] => [[c]]
    | k :: ks => (c :: k) :: ks
  | [] => [[]]

/-- What stands between an opening and a closing bracket at the two ends, if anything does. -/
def bracketed? : List Char → Option (List Char)
  | '[' :: r => if 2 ≤ r.length && r.getLast? == some ']' then some r.dropLast else none
  | _ => none

/-- The keys on the way to a field. Empty keys are left out. -/
def keyPath (name : String) : List String :=
  match bracketed? name.toList with
  | some inner => ((splitKeys inner).filter (!·.isEmpty)).map String.ofList
  | none => [name]

end Grok.Event
