import Mathlib.Data.Multiset.OrderedMonoid
import Mathlib.Tactic.Abel
import Grok.Event
/-!
The leaves of a record: its scalars other than null, each as often as it is there. Main statement:
a merge adds the leaves of the new value, and takes away those of what stands in the way, where
the path runs into something other than an object.
-/
namespace Grok

/-- What moves from one place to the next balances. -/
theorem balance_trans {α : Type} {a b i s v w : Multiset α} (h : a + i = b + s)
    (h' : s + w = i + v) : a + w = b + v := by
  refine add_right_cancel (b := i) ?_
  calc
    a + w + i = a + i + w := by abel
    _ = b + (s + w) := by rw [h, add_assoc]
    _ = b + v + i := by rw [h']; abel

namespace Value

mutual

/-- The scalars of a value, nulls left out. -/
def leaves : Value → Multiset Value
  | .null => 0
  | .bool b => {.bool b}
  | .int n => {.int n}
  | .float x => {.float x}
  | .string s => {.string s}
  | .array vs => leavesOfList vs
  | .object fields => leavesOfTable fields

def leavesOfList : List Value → Multiset Value
  | [] => 0
  | v :: vs => v.leaves + leavesOfList vs

def leavesOfTable : List (String × Value) → Multiset Value
  | [] => 0
  | (_, v) :: t => v.leaves + leavesOfTable t

end

/-- The leaves of what may be there. -/
def leavesOf (stored : Option Value) : Multiset Value := stored.elim 0 leaves

variable {t : Table Value} {k : String} {v old : Value} {vs ws : List Value}

@[simp] theorem leavesOf_none : leavesOf none = 0 := rfl

@[simp] theorem leavesOf_some : leavesOf (some v) = v.leaves := rfl

theorem leavesOfList_append : leavesOfList (vs ++ ws) = leavesOfList vs + leavesOfList ws := by
  induction vs with
  | nil => simp [leavesOfList]
  | cons v vs ih => simp [leavesOfList, ih, add_assoc]

theorem leavesOfTable_insertNew :
    leavesOfTable (Table.insertNew k v t) = leavesOfTable t + v.leaves := by
  induction t with
  | nil => simp [Table.insertNew, leavesOfTable]
  | cons p t ih =>
    obtain ⟨k', v'⟩ := p
    rw [Table.insertNew]
    split
    · simp only [leavesOfTable]
      abel
    · simp only [leavesOfTable, ih]
      abel

theorem leavesOfTable_replace (h : t.get? k = some old) :
    leavesOfTable (Table.replace k v t) + old.leaves = leavesOfTable t + v.leaves := by
  induction t with
  | nil => cases h
  | cons p t ih =>
    obtain ⟨k', v'⟩ := p
    rw [Table.get?_cons] at h
    rw [Table.replace]
    split at h
    · next hk =>
      cases h
      simp only [hk, if_true, leavesOfTable]
      abel
    · next hk =>
      simp only [hk, if_false, leavesOfTable, add_assoc, ih h]

theorem leavesOfTable_put :
    leavesOfTable (t.put k v) + leavesOf (t.get? k) = leavesOfTable t + v.leaves := by
  rw [Table.put]
  cases h : t.get? k with
  | none => simp [leavesOfTable_insertNew]
  | some old => exact leavesOfTable_replace h

end Value

namespace FieldValue

open Value

/-- Merging keeps what is stored. -/
theorem leaves_merge (stored : Option Value) (new : Value) :
    ((ofStored stored).merge new).leaves = leavesOf stored + new.leaves := by
  obtain _ | (_ | _ | _ | _ | _ | _ | _) := stored <;>
    simp [ofStored, merge, leaves, leavesOfList, leavesOfList_append]

end FieldValue

namespace Event

open Value

/-- What a path runs into in place of an object, and a value at its end replaces. -/
def inTheWay : Table Value → List String → Multiset Value
  | _, [] => 0
  | _, [_] => 0
  | t, k :: k' :: p =>
    match t.get? k with
    | some (.object inner) => inTheWay inner (k' :: p)
    | stored => leavesOf stored

/-- Every value on the way along a path is an object or has no leaves. -/
def Clear (t : Table Value) (p : List String) : Prop :=
  ∀ q v, q <+: p → q ≠ p → getAt t q = some v → (∃ fields, v = .object fields) ∨ v.leaves = 0

variable {t inner : Table Value} {k k' name : String} {p : List String} {v : Value} {e : Event}

/-! ### One step of a path -/

theorem innerObject_of_object (h : t.get? k = some (.object inner)) : innerObject t k = inner := by
  rw [innerObject, h]

theorem innerObject_of_ne (h : ∀ inner, t.get? k ≠ some (.object inner)) :
    innerObject t k = [] := by
  unfold innerObject
  split
  · next inner hk => exact absurd hk (h inner)
  · rfl

theorem getAt_of_object (h : t.get? k = some (.object inner)) :
    getAt t (k :: k' :: p) = getAt inner (k' :: p) := by
  rw [getAt, h]

theorem getAt_of_ne (h : ∀ inner, t.get? k ≠ some (.object inner)) :
    getAt t (k :: k' :: p) = none := by
  rw [getAt]
  split
  · next inner hk => exact absurd hk (h inner)
  · rfl

theorem inTheWay_of_object (h : t.get? k = some (.object inner)) :
    inTheWay t (k :: k' :: p) = inTheWay inner (k' :: p) := by
  rw [inTheWay, h]

theorem inTheWay_of_ne (h : ∀ inner, t.get? k ≠ some (.object inner)) :
    inTheWay t (k :: k' :: p) = leavesOf (t.get? k) := by
  rw [inTheWay]
  split
  · next inner hk => exact absurd hk (h inner)
  · rfl

theorem inTheWay_nil : ∀ p, inTheWay [] p = 0
  | [] | [_] => rfl
  | _ :: _ :: _ => rfl

theorem getAt_nil : ∀ p, getAt [] p = none
  | [] | [_] => rfl
  | _ :: _ :: _ => rfl

/-! ### Writing along a path -/

/-- Writing at the end of a path takes away what is stored there and what stands in the way. -/
theorem leaves_setAt (hp : p ≠ []) :
    leavesOfTable (setAt t p v) + (leavesOf (getAt t p) + inTheWay t p) =
      leavesOfTable t + v.leaves := by
  fun_induction setAt t p v with
  | case1 => contradiction
  | case2 t v k => simpa [getAt, inTheWay] using leavesOfTable_put
  | case3 t k k' p v ih =>
    have hinner := ih (by simp)
    refine balance_trans leavesOfTable_put ?_
    by_cases h : ∃ inner, t.get? k = some (.object inner)
    · obtain ⟨inner, h⟩ := h
      rw [innerObject_of_object h] at hinner ⊢
      rw [getAt_of_object h, inTheWay_of_object h, h]
      exact hinner
    · -- The path goes on in an empty object, and all that was stored under the key goes.
      rw [not_exists] at h
      rw [innerObject_of_ne h, getAt_nil, inTheWay_nil] at hinner
      rw [innerObject_of_ne h, getAt_of_ne h, inTheWay_of_ne h]
      simp only [leavesOf_none, leavesOfTable, zero_add, add_zero] at hinner
      rw [leaves, hinner, leavesOf_none, zero_add, add_comm]

theorem clear_of_length_le (h : p.length ≤ 1) : Clear t p := by
  intro q v hq hne hv
  cases q with
  | nil => cases hv
  | cons k q => exact absurd (hq.eq_of_length_le (h.trans (by simp))) hne

theorem clear_of_object (h : t.get? k = some (.object inner)) :
    Clear t (k :: k' :: p) ↔ Clear inner (k' :: p) := by
  constructor
  · intro hclear q v hq hne hv
    cases q with
    | nil => cases hv
    | cons k₁ q =>
      obtain ⟨rfl, hq'⟩ := List.cons_prefix_cons.1 hq
      refine hclear (k :: k₁ :: q) v (List.cons_prefix_cons.2 ⟨rfl, hq⟩) (by simpa using hne) ?_
      rw [getAt_of_object h, hv]
  · intro hclear q v hq hne hv
    obtain _ | ⟨k₀, _ | ⟨k₁, q⟩⟩ := q
    · cases hv
    · obtain ⟨rfl, -⟩ := List.cons_prefix_cons.1 hq
      cases h.symm.trans hv
      exact .inl ⟨inner, rfl⟩
    · obtain ⟨rfl, hq'⟩ := List.cons_prefix_cons.1 hq
      rw [getAt_of_object h] at hv
      exact hclear _ v hq' (by simpa using hne) hv

theorem clear_of_ne (h : ∀ inner, t.get? k ≠ some (.object inner)) :
    Clear t (k :: k' :: p) ↔ leavesOf (t.get? k) = 0 := by
  constructor
  · intro hclear
    cases hk : t.get? k with
    | none => rfl
    | some v =>
      obtain ⟨fields, rfl⟩ | hv := hclear [k] v ⟨_, rfl⟩ (by simp) hk
      · exact absurd hk (h fields)
      · exact hv
  · intro hleaves q v hq hne hv
    obtain _ | ⟨k₀, _ | ⟨k₁, q⟩⟩ := q
    · cases hv
    · obtain ⟨rfl, -⟩ := List.cons_prefix_cons.1 hq
      rw [show t.get? k₀ = some v from hv] at hleaves
      exact .inr hleaves
    · obtain ⟨rfl, -⟩ := List.cons_prefix_cons.1 hq
      rw [getAt_of_ne h] at hv
      cases hv

theorem inTheWay_eq_zero_iff : ∀ {t : Table Value} {p : List String}, inTheWay t p = 0 ↔ Clear t p
  | t, [] | t, [_] => ⟨fun _ => clear_of_length_le (by simp), fun _ => rfl⟩
  | t, k :: k' :: p => by
    by_cases h : ∃ inner, t.get? k = some (.object inner)
    · obtain ⟨inner, h⟩ := h
      rw [inTheWay_of_object h, clear_of_object h]
      exact inTheWay_eq_zero_iff
    · rw [not_exists] at h
      rw [inTheWay_of_ne h, clear_of_ne h]

/-! ### Merging -/

/-- The leaves of all fields. -/
def leaves (e : Event) : Multiset Value := leavesOfTable e.fields

theorem leaves_merge (h : keyPath name ≠ []) :
    (e.merge name v).leaves + inTheWay e.fields (keyPath name) = e.leaves + v.leaves := by
  have hset : (e.merge name v).leaves + (leavesOf (e.get name) + inTheWay e.fields (keyPath name)) =
      e.leaves + (leavesOf (e.get name) + v.leaves) := by
    rw [← FieldValue.leaves_merge]
    exact leaves_setAt h
  rw [add_left_comm, add_left_comm e.leaves] at hset
  exact add_left_cancel hset

theorem merge_of_keyless (h : keyPath name = []) : e.merge name v = e := by
  rw [merge, set, h]
  rfl

end Event

end Grok
