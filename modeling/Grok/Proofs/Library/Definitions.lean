import Mathlib
import Grok.Table
/-!
Tables filled from a sequence of definitions. Main statement: a name is bound to what the last of
its definitions says, and a table holds as many names as its definitions have different ones.
-/
namespace Grok

universe u

variable {α : Type u} {k name : String} {v body : α} {t : Table α} {defs defs' : List (String × α)}

/-- What the last definition of a name says. -/
def lastOf (name : String) : List (String × α) → Option α
  | [] => none
  | (k, v) :: defs => (lastOf name defs).or (if k = name then some v else none)

theorem lastOf_append : lastOf name (defs ++ defs') = (lastOf name defs').or (lastOf name defs) := by
  induction defs with
  | nil => simp [lastOf]
  | cons d defs ih => simp only [List.cons_append, lastOf, ih, Option.or_assoc]

theorem lastOf_eq_none_iff : lastOf name defs = none ↔ ∀ d ∈ defs, d.1 ≠ name := by
  induction defs with
  | nil => simp [lastOf]
  | cons d defs ih => simp [lastOf, ih, and_comm]

theorem lastOf_eq_some_iff :
    lastOf name defs = some v ↔
      ∃ before after, defs = before ++ (name, v) :: after ∧ ∀ d ∈ after, d.1 ≠ name := by
  constructor
  · intro h
    induction defs with
    | nil => cases h
    | cons d defs ih =>
      obtain ⟨k, w⟩ := d
      cases hdefs : lastOf name defs with
      | some w' =>
        rw [lastOf, hdefs, Option.some_or, ← hdefs] at h
        obtain ⟨before, after, rfl, hafter⟩ := ih h
        exact ⟨(k, w) :: before, after, rfl, hafter⟩
      | none =>
        rw [lastOf, hdefs, Option.none_or] at h
        obtain ⟨rfl, hw⟩ := Option.ite_none_right_eq_some.1 h
        cases hw
        exact ⟨[], defs, rfl, lastOf_eq_none_iff.1 hdefs⟩
  · rintro ⟨before, after, rfl, hafter⟩
    rw [lastOf_append, lastOf, lastOf_eq_none_iff.2 hafter, Option.none_or, if_pos rfl,
      Option.some_or]

namespace Table

theorem get?_put (t : Table α) (k : String) (v : α) (name : String) :
    (t.put k v).get? name = if k = name then some v else t.get? name := by
  split
  · next h => rw [h, get?_put_self]
  · next h => exact get?_put_of_ne t h v

theorem get?_putAll (t : Table α) (defs : List (String × α)) (name : String) :
    (t.putAll defs).get? name = (lastOf name defs).or (t.get? name) := by
  induction defs generalizing t with
  | nil => rfl
  | cons d defs ih =>
    obtain ⟨k, v⟩ := d
    rw [putAll, List.foldl_cons, ← putAll, ih, get?_put, lastOf, Option.or_assoc]
    split <;> rfl

theorem putAll_append (t : Table α) (defs defs' : List (String × α)) :
    t.putAll (defs ++ defs') = (t.putAll defs).putAll defs' :=
  List.foldl_append

theorem mem_names_iff : k ∈ t.names ↔ (t.get? k).isSome := by
  induction t with
  | nil => simp [names]
  | cons p t ih =>
    rw [names, List.map_cons, List.mem_cons, ← names, ih, get?_cons]
    by_cases h : p.1 = k
    · simp [h]
    · simp [h, Ne.symm h]

theorem names_replace (k : String) (v : α) (t : Table α) : (replace k v t).names = t.names := by
  induction t with
  | nil => rfl
  | cons p t ih =>
    rw [replace]
    split
    · next h => simp [names, h]
    · exact congrArg (p.1 :: ·) ih

theorem names_insertNew (k : String) (v : α) (t : Table α) :
    (insertNew k v t).names.Perm (k :: t.names) := by
  induction t with
  | nil => exact .refl _
  | cons p t ih =>
    rw [insertNew]
    split
    · exact .refl _
    · exact (ih.cons p.1).trans (.swap _ _ _)

theorem nodup_names_put (h : t.names.Nodup) (k : String) (v : α) : (t.put k v).names.Nodup := by
  unfold put
  cases hk : t.get? k with
  | some w => rwa [names_replace]
  | none =>
    rw [(names_insertNew k v t).nodup_iff, List.nodup_cons, mem_names_iff, hk]
    exact ⟨nofun, h⟩

theorem nodup_names_putAll (h : t.names.Nodup) (defs : List (String × α)) :
    (t.putAll defs).names.Nodup := by
  induction defs generalizing t with
  | nil => exact h
  | cons d defs ih => exact ih (nodup_names_put h d.1 d.2)

/-- A table has one entry for each name that its definitions define. -/
theorem length_putAll (defs : List (String × α)) :
    (putAll [] defs).length = (defs.map Prod.fst).dedup.length := by
  have hnodup : (putAll [] defs).names.Nodup := nodup_names_putAll (t := []) List.nodup_nil defs
  have hperm : (putAll [] defs).names.Perm (defs.map Prod.fst).dedup := by
    refine (List.perm_ext_iff_of_nodup hnodup (List.nodup_dedup _)).2 fun name => ?_
    rw [mem_names_iff, get?_putAll, get?_nil, Option.or_none, List.mem_dedup, List.mem_map,
      Option.isSome_iff_ne_none, ne_eq, lastOf_eq_none_iff]
    push Not
    rfl
  rw [← hperm.length_eq, names, List.length_map]

end Table

end Grok
