import Grok.Proofs.Event.Apart
/-!
Records as stores. Main statement: a field reads as it was last set or removed, whatever it held
before and whatever stood on the way to it, setting it twice is setting it once, setting what is
there changes nothing, and fields on paths that are apart do not see each other.
-/
namespace Grok.Event

variable {t : Table Value} {k : String} {p q : List String} {v : Value}

/-! ### Writing -/

theorem setAt_setAt (t : Table Value) (p : List String) (v w : Value) :
    setAt (setAt t p v) p w = setAt t p w := by
  fun_induction setAt t p v with
  | case1 => rfl
  | case2 t k v => exact Table.put_put t k v w
  | case3 t k k' p v ih =>
    rw [setAt, innerObject_of_object (Table.get?_put_self ..), ih, Table.put_put, setAt]

theorem setAt_of_getAt (h : getAt t p = some v) : setAt t p v = t := by
  fun_induction setAt t p v with
  | case1 => cases h
  | case2 => exact Table.put_of_get? h
  | case3 t k k' p v ih =>
    obtain ⟨inner, hk⟩ : ∃ inner, t.get? k = some (.object inner) := by
      by_contra hno
      rw [getAt_of_ne (not_exists.1 hno)] at h
      cases h
    rw [getAt_of_object hk] at h
    rw [innerObject_of_object hk] at ih ⊢
    rw [ih h, Table.put_of_get? hk]

/-! ### Taking away -/

theorem fst_takeAt (t : Table Value) (p : List String) : (takeAt t p).1 = getAt t p := by
  fun_induction takeAt t p with
  | case1 | case2 => rfl
  | case3 t k k' p inner hk taken inner' htake ih =>
    rw [getAt_of_object hk, ← ih, htake]
  | case4 t k k' p hno => exact (getAt_of_ne hno).symm

theorem getAt_takeAt_self (t : Table Value) (p : List String) : getAt (takeAt t p).2 p = none := by
  fun_induction takeAt t p with
  | case1 => rfl
  | case2 t k => exact Table.get?_erase_self k t
  | case3 t k k' p inner hk taken inner' htake ih =>
    rw [htake] at ih
    rw [getAt_of_object (Table.get?_put_self ..), ih]
  | case4 t k k' p hno => exact getAt_of_ne hno

theorem takeAt_of_getAt_eq_none (h : getAt t p = none) : (takeAt t p).2 = t := by
  fun_induction takeAt t p with
  | case1 => rfl
  | case2 t k => exact Table.erase_of_get?_eq_none h
  | case3 t k k' p inner hk taken inner' htake ih =>
    rw [getAt_of_object hk] at h
    rw [htake] at ih
    have hinner : inner' = inner := ih h
    rw [hinner]
    exact Table.put_of_get? hk
  | case4 => rfl

theorem getAt_takeAt_of_apart (h : Apart p q) : getAt (takeAt t p).2 q = getAt t q := by
  obtain ⟨k₁, q, rfl⟩ := h.symm.exists_cons
  fun_induction takeAt t p generalizing k₁ q with
  | case1 => rfl
  | case2 t k =>
    have hk : k ≠ k₁ := (apart_singleton.1 h.symm).symm
    exact getAt_congr (Table.get?_erase_of_ne hk t) q
  | case3 t k k' p inner hinner taken inner' htake ih =>
    rw [htake] at ih
    by_cases hk : k = k₁
    · subst hk
      have hrest : Apart (k' :: p) q := apart_cons_cons.1 h rfl
      obtain ⟨k₂, q, rfl⟩ := hrest.symm.exists_cons
      rw [getAt_of_object (Table.get?_put_self ..), getAt_of_object hinner, ih k₂ q hrest]
    · exact getAt_congr (t.get?_put_of_ne hk _) q
  | case4 => rfl

/-! ### Fields -/

/-- A field that has keys holds what it was set to last and nothing once it is removed. Removing
it gives what it held, and changes nothing if that was nothing; setting it to what it holds changes
nothing either. Fields on paths that are apart do not notice, whatever is made or replaced on the
way. -/
theorem set_merge_remove (e : Event) (v w : Value) {name : String} (h : keyPath name ≠ []) :
    (e.set name v).get name = some v ∧
      (e.set name v).set name w = e.set name w ∧
      (e.get name = some v → e.set name v = e) ∧
      (e.remove name).1 = e.get name ∧
      (e.remove name).2.get name = none ∧
      ((e.remove name).1 = none → (e.remove name).2 = e) ∧
      ∀ other, Apart (keyPath name) (keyPath other) →
        (e.set name v).get other = e.get other ∧
          (e.merge name v).get other = e.get other ∧
          (e.remove name).2.get other = e.get other := by
  have hremove : (e.remove name).1 = e.get name := fst_takeAt e.fields (keyPath name)
  refine ⟨get_set_self h, ?_, fun hv => ?_, hremove, getAt_takeAt_self .., fun hnone => ?_,
    fun other hother => ⟨get_set_of_apart hother.symm, get_merge_of_apart hother.symm,
      getAt_takeAt_of_apart hother⟩⟩
  · exact congrArg mk (setAt_setAt e.fields (keyPath name) v w)
  · exact congrArg mk (setAt_of_getAt hv)
  · rw [hremove] at hnone
    exact congrArg mk (takeAt_of_getAt_eq_none hnone)

/-- A text stands in the place of an object on the way to one of two fields. -/
theorem set_merge_remove_nested :
    let e : Event :=
      ⟨[("http", .object [("method", .string "GET"), ("request", .string "old")])]⟩
    (e.set "[http][request][id]" (.int 7)).get "[http][request][id]" = some (.int 7) ∧
      e.remove "[http][request][id]" = (none, e) ∧
      (e.merge "[http][request][id]" (.int 7)).get "[http][method]" =
        some (.string "GET") := by
  intro e
  have hpath : keyPath "[http][request][id]" ≠ [] := by decide
  obtain ⟨hself, -, -, hremove, -, hnothing, hothers⟩ := set_merge_remove e (.int 7) .null hpath
  have hnone : (e.remove "[http][request][id]").1 = none := hremove.trans rfl
  refine ⟨hself, Prod.ext hnone (hnothing hnone), ?_⟩
  exact (hothers "[http][method]" (by decide)).2.1

end Grok.Event
