import Grok.Event.Path
import Grok.Event.Store
/-!
Records: objects whose fields are named by key paths, with rules for merging and for tags.
-/
namespace Grok

/-- What a field holds at the time of a merge. A stored null counts as absent. -/
inductive FieldValue where
  | absent
  | scalar (v : Value)
  | array (vs : List Value)

namespace FieldValue

def ofStored : Option Value → FieldValue
  | none | some .null => .absent
  | some (.array vs) => .array vs
  | some v => .scalar v

/-- Adds a new value: an absent field becomes it, an array gets it appended, and a scalar becomes
the first of two. -/
def merge : FieldValue → Value → Value
  | .absent, new => new
  | .array vs, new => .array (vs ++ [new])
  | .scalar v, new => .array [v, new]

end FieldValue

structure Event where
  fields : Table Value

namespace Event

def tagsField : String := "tags"

def empty : Event := ⟨[]⟩

def get (e : Event) (name : String) : Option Value := getAt e.fields (keyPath name)

def getField (e : Event) (name : String) : FieldValue := .ofStored (e.get name)

def contains (e : Event) (name : String) : Bool := (e.get name).isSome

def set (e : Event) (name : String) (v : Value) : Event := ⟨setAt e.fields (keyPath name) v⟩

def merge (e : Event) (name : String) (v : Value) : Event :=
  e.set name ((e.getField name).merge v)

/-- Takes a field away and says what it held. -/
def remove (e : Event) (name : String) : Option Value × Event :=
  let (taken, fields) := takeAt e.fields (keyPath name)
  (taken, ⟨fields⟩)

def withMessage (message : String) : Event := empty.set "message" (.string message)

/-- A record from a value, which must be an object. -/
def ofValue? : Value → Option Event
  | .object fields => some ⟨fields⟩
  | _ => none

/-- The tags. Only texts are tags, and a single text is a single tag. -/
def tags (e : Event) : List String :=
  match e.fields.get? tagsField with
  | some (.array vs) => vs.filterMap fun
    | .string s => some s
    | _ => none
  | some (.string s) => [s]
  | _ => []

def hasTag (e : Event) (tag : String) : Bool := e.tags.contains tag

/-- What the tag field holds, as a list to which a tag can be added. -/
def tagValues (e : Event) : List Value :=
  match e.fields.get? tagsField with
  | none => []
  | some (.array vs) => vs
  | some v => [v]

/-- Adds a tag unless the record has it. -/
def tag (e : Event) (t : String) : Event :=
  if e.hasTag t then e
  else ⟨e.fields.put tagsField (.array (e.tagValues ++ [.string t]))⟩

end Event

end Grok
