import Grok.Proofs.Event.Leaves
/-!
Key paths that are apart, so that neither leads to the other. Main statements: what is written along
one path is not seen along another, and a merge adds one value to those that a field holds.
-/
namespace Grok.Event

/-- Neither path is the other one or a way to it. -/
def Apart (p q : List String) : Prop := ¬ p <+: q ∧ ¬ q <+: p

instance (p q : List String) : Decidable (Apart p q) := inferInstanceAs (Decidable (_ ∧ _))

variable {t u : Table Value} {k k' name name' : String} {p q : List String} {v : Value}
  {e : Event}

theorem Apart.symm (h : Apart p q) : Apart q p := ⟨h.2, h.1⟩

theorem apart_cons_cons : Apart (k :: p) (k' :: q) ↔ k = k' → Apart p q := by
  by_cases hk : k = k'
  · subst hk
    simp [Apart, List.cons_prefix_cons]
  · simp [Apart, List.cons_prefix_cons, hk, Ne.symm hk]

theorem Apart.exists_cons (h : Apart p q) : ∃ k p', p = k :: p' := by
  cases p with
  | nil => exact absurd List.nil_prefix h.1
  | cons k p => exact ⟨k, p, rfl⟩

/-- A key path that is a single key is apart from those that start with another key. -/
theorem apart_singleton : Apart (k :: p) [k'] ↔ k ≠ k' := by
  rw [apart_cons_cons]
  exact ⟨fun h hk => (h hk).2 List.nil_prefix, fun h hk => absurd hk h⟩

/-! ### Reading -/

theorem getAt_congr (h : t.get? k = u.get? k) (p : List String) :
    getAt t (k :: p) = getAt u (k :: p) := by
  cases p with
  | nil => exact h
  | cons k' p => rw [getAt, getAt, h]

theorem getAt_innerObject : getAt (innerObject t k) (k' :: p) = getAt t (k :: k' :: p) := by
  by_cases h : ∃ inner, t.get? k = some (.object inner)
  · obtain ⟨inner, h⟩ := h
    rw [innerObject_of_object h, getAt_of_object h]
  · rw [not_exists] at h
    rw [innerObject_of_ne h, getAt_of_ne h, getAt_nil]

/-- What is written at the end of one path is not seen along a path that is apart from it, also
where objects are put in place of something else on the way. -/
theorem getAt_setAt_of_apart (h : Apart p q) : getAt (setAt t p v) q = getAt t q := by
  obtain ⟨k₁, q, rfl⟩ := h.symm.exists_cons
  fun_induction setAt t p v generalizing k₁ q with
  | case1 => exact absurd List.nil_prefix h.1
  | case2 t k v =>
    have hk : k ≠ k₁ := (apart_singleton.1 h.symm).symm
    exact getAt_congr (t.get?_put_of_ne hk v) q
  | case3 t k k' p v ih =>
    by_cases hk : k = k₁
    · subst hk
      have hinner : Apart (k' :: p) q := apart_cons_cons.1 h rfl
      obtain ⟨k₂, q, rfl⟩ := hinner.symm.exists_cons
      rw [getAt_of_object (Table.get?_put_self ..), ih k₂ q hinner, getAt_innerObject]
    · exact getAt_congr (t.get?_put_of_ne hk _) q

theorem get_set_of_apart (h : Apart (keyPath name) (keyPath name')) :
    (e.set name' v).get name = e.get name :=
  getAt_setAt_of_apart h.symm

theorem get_merge_of_apart (h : Apart (keyPath name) (keyPath name')) :
    (e.merge name' v).get name = e.get name :=
  get_set_of_apart h

theorem get_set_self (h : keyPath name ≠ []) : (e.set name v).get name = some v :=
  getAt_setAt_self _ v h

theorem get_tag_of_apart (h : Apart (keyPath name) [tagsField]) (label : String) :
    (e.tag label).get name = e.get name := by
  unfold tag
  split
  · rfl
  · exact getAt_setAt_of_apart h.symm

theorem get_foldl_tag_of_apart (h : Apart (keyPath name) [tagsField]) (e : Event)
    (labels : List String) : (labels.foldl Event.tag e).get name = e.get name := by
  induction labels generalizing e with
  | nil => rfl
  | cons label labels ih => rw [List.foldl_cons, ih, get_tag_of_apart h]

/-! ### Collecting -/

/-- The values that a field holds: those of an array, or the one that is stored. A stored null
counts as none. -/
def content : Option Value → List Value
  | none | some .null => []
  | some (.array vs) => vs
  | some v => [v]

theorem content_some (hnull : v ≠ .null) (harray : ∀ vs, v ≠ .array vs) :
    content (some v) = [v] := by
  cases v with
  | null => exact absurd rfl hnull
  | array vs => exact absurd rfl (harray vs)
  | bool | int | float | string | object => rfl

theorem content_merge (hnull : v ≠ .null) (harray : ∀ vs, v ≠ .array vs)
    (stored : Option Value) :
    content (some ((FieldValue.ofStored stored).merge v)) = content stored ++ [v] := by
  obtain _ | (_ | _ | _ | _ | _ | _ | _) := stored
  · exact content_some hnull harray
  · exact content_some hnull harray
  all_goals rfl

theorem content_get_merge (h : keyPath name ≠ []) (hnull : v ≠ .null)
    (harray : ∀ vs, v ≠ .array vs) :
    content ((e.merge name v).get name) = content (e.get name) ++ [v] := by
  rw [merge, get_set_self h]
  exact content_merge hnull harray (e.get name)

end Grok.Event
