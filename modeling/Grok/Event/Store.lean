import Grok.Value
/-!
Reading and writing along key paths in nested objects.
-/
namespace Grok.Event

/-- The value at the end of a path. Only objects can be passed through. -/
def getAt : Table Value → List String → Option Value
  | _, [] => none
  | t, [k] => t.get? k
  | t, k :: k' :: p =>
    match t.get? k with
    | some (.object inner) => getAt inner (k' :: p)
    | _ => none

/-- The object under a key, or an empty one where there is none. -/
def innerObject (t : Table Value) (k : String) : Table Value :=
  match t.get? k with
  | some (.object inner) => inner
  | _ => []

/-- Writes a value at the end of a path. Objects are made on the way where they are missing, and
put in place of anything else. -/
def setAt : Table Value → List String → Value → Table Value
  | t, [], _ => t
  | t, [k], v => t.put k v
  | t, k :: k' :: p, v => t.put k (.object (setAt (innerObject t k) (k' :: p) v))

/-- Takes away what is at the end of a path, if the path leads there. -/
def takeAt : Table Value → List String → Option Value × Table Value
  | t, [] => (none, t)
  | t, [k] => (t.get? k, t.erase k)
  | t, k :: k' :: p =>
    match t.get? k with
    | some (.object inner) =>
      let (taken, inner) := takeAt inner (k' :: p)
      (taken, t.put k (.object inner))
    | _ => (none, t)

theorem getAt_setAt_self (t : Table Value) (v : Value) {p : List String} (h : p ≠ []) :
    getAt (setAt t p v) p = some v := by
  fun_induction setAt t p v with
  | case1 => contradiction
  | case2 t v k => simp [getAt]
  | case3 t v k k' p ih => simpa [getAt] using ih

end Grok.Event
