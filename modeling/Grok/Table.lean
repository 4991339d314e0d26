/-!
Tables from names to values, kept in the order of their names. The order is part of the value, so
two tables that hold the same bindings are equal however they were filled.
-/
namespace Grok

universe u

abbrev Table (α : Type u) := List (String × α)

namespace Table

variable {α : Type u}

def get? (k : String) : Table α → Option α
  | [] => none
  | (k', v) :: t => if k' = k then some v else get? k t

def contains (t : Table α) (k : String) : Bool := (t.get? k).isSome

/-- Gives a name that is bound already its new value. -/
def replace (k : String) (v : α) : Table α → Table α
  | [] => []
  | (k', v') :: t => if k' = k then (k, v) :: t else (k', v') :: replace k v t

/-- Binds a new name in front of the first name after it. -/
def insertNew (k : String) (v : α) : Table α → Table α
  | [] => [(k, v)]
  | (k', v') :: t => if k < k' then (k, v) :: (k', v') :: t else (k', v') :: insertNew k v t

/-- Binds a name. The last binding of a name is the one that counts. -/
def put (t : Table α) (k : String) (v : α) : Table α :=
  match t.get? k with
  | some _ => replace k v t
  | none => insertNew k v t

/-- Unbinds a name. -/
def erase (k : String) : Table α → Table α
  | [] => []
  | (k', v) :: t => if k' = k then erase k t else (k', v) :: erase k t

def names (t : Table α) : List String := t.map (·.1)

def putAll (t : Table α) (defs : List (String × α)) : Table α :=
  defs.foldl (fun t d => t.put d.1 d.2) t

@[simp] theorem get?_nil (k : String) : get? k ([] : Table α) = none := rfl

theorem get?_cons (k k' : String) (v : α) (t : Table α) :
    get? k ((k', v) :: t) = if k' = k then some v else get? k t := rfl

theorem mem_names_of_get? {k : String} {v : α} {t : Table α} (h : t.get? k = some v) :
    k ∈ t.names := by
  induction t with
  | nil => cases h
  | cons p t ih =>
    obtain ⟨k', v'⟩ := p
    rw [get?_cons] at h
    split at h
    · next hk => simp [names, hk]
    · exact .tail _ (ih h)

/-- A binding is in force if no name is bound twice. -/
theorem get?_of_mem {k : String} {v : α} {t : Table α} (h : t.names.Nodup) (hmem : (k, v) ∈ t) :
    t.get? k = some v := by
  induction t with
  | nil => cases hmem
  | cons p t ih =>
    obtain ⟨hp, ht⟩ := List.nodup_cons.1 h
    obtain rfl | hmem := List.mem_cons.1 hmem
    · rw [get?_cons, if_pos rfl]
    · have hne : p.1 ≠ k := fun heq => hp (List.mem_map.2 ⟨(k, v), hmem, heq.symm⟩)
      rw [get?_cons, if_neg hne]
      exact ih ht hmem

theorem get?_replace_self {k : String} {v : α} {t : Table α} (h : (t.get? k).isSome) :
    get? k (replace k v t) = some v := by
  induction t with
  | nil => simp at h
  | cons p t ih =>
    obtain ⟨k', v'⟩ := p
    by_cases hk : k' = k
    · simp [replace, hk, get?]
    · simp only [get?, hk, if_false] at h
      simp [replace, hk, get?, ih h]

theorem get?_replace_of_ne {k k' : String} (h : k ≠ k') (v : α) (t : Table α) :
    get? k' (replace k v t) = get? k' t := by
  induction t with
  | nil => rfl
  | cons p t ih =>
    obtain ⟨k₀, v₀⟩ := p
    by_cases hk : k₀ = k
    · subst hk; simp [replace, get?, h]
    · simp [replace, hk, get?, ih]

theorem get?_insertNew_self (k : String) (v : α) {t : Table α} (h : t.get? k = none) :
    get? k (insertNew k v t) = some v := by
  induction t with
  | nil => simp [insertNew, get?]
  | cons p t ih =>
    obtain ⟨k', v'⟩ := p
    by_cases hk : k' = k
    · simp [get?, hk] at h
    · simp only [get?, hk, if_false] at h
      by_cases hlt : k < k' <;> simp [insertNew, hlt, get?, hk, ih h]

theorem get?_insertNew_of_ne {k k' : String} (h : k ≠ k') (v : α) (t : Table α) :
    get? k' (insertNew k v t) = get? k' t := by
  induction t with
  | nil => simp [insertNew, get?, h]
  | cons p t ih =>
    obtain ⟨k₀, v₀⟩ := p
    by_cases hlt : k < k₀ <;> simp [insertNew, hlt, get?, h, ih]

@[simp] theorem get?_put_self (t : Table α) (k : String) (v : α) : (t.put k v).get? k = some v := by
  unfold put
  cases h : t.get? k with
  | some _ => exact get?_replace_self (by simp [h])
  | none => exact get?_insertNew_self k v h

theorem get?_put_of_ne (t : Table α) {k k' : String} (h : k ≠ k') (v : α) :
    (t.put k v).get? k' = t.get? k' := by
  unfold put
  cases t.get? k with
  | some _ => exact get?_replace_of_ne h v t
  | none => exact get?_insertNew_of_ne h v t

theorem replace_replace (k : String) (v w : α) (t : Table α) :
    replace k w (replace k v t) = replace k w t := by
  induction t with
  | nil => rfl
  | cons p t ih =>
    obtain ⟨k', v'⟩ := p
    by_cases hk : k' = k
    · simp [replace, hk]
    · simp [replace, hk, ih]

theorem replace_insertNew {k : String} (v w : α) {t : Table α} (h : t.get? k = none) :
    replace k w (insertNew k v t) = insertNew k w t := by
  induction t with
  | nil => simp [insertNew, replace]
  | cons p t ih =>
    obtain ⟨k', v'⟩ := p
    by_cases hk : k' = k
    · simp [get?, hk] at h
    · simp only [get?, hk, if_false] at h
      by_cases hlt : k < k' <;> simp [insertNew, hlt, replace, hk, ih h]

@[simp] theorem put_put (t : Table α) (k : String) (v w : α) :
    (t.put k v).put k w = t.put k w := by
  have hbound : (t.put k v).put k w = replace k w (t.put k v) := by
    rw [put.eq_1 (t.put k v), get?_put_self]
  rw [hbound, put, put]
  cases h : t.get? k with
  | some _ => exact replace_replace k v w t
  | none => exact replace_insertNew v w h

theorem put_of_get? {k : String} {v : α} {t : Table α} (h : t.get? k = some v) : t.put k v = t := by
  have hreplace : replace k v t = t := by
    induction t with
    | nil => rfl
    | cons p t ih =>
      obtain ⟨k', v'⟩ := p
      rw [get?_cons] at h
      rw [replace]
      split at h
      · next hk =>
        cases h
        rw [if_pos hk, hk]
      · next hk => rw [if_neg hk, ih h]
  rw [put, h]
  exact hreplace

@[simp] theorem get?_erase_self (k : String) (t : Table α) : get? k (erase k t) = none := by
  induction t with
  | nil => rfl
  | cons p t ih =>
    obtain ⟨k', v'⟩ := p
    by_cases hk : k' = k <;> simp [erase, get?, hk, ih]

theorem get?_erase_of_ne {k k' : String} (h : k ≠ k') (t : Table α) :
    get? k' (erase k t) = get? k' t := by
  induction t with
  | nil => rfl
  | cons p t ih =>
    obtain ⟨k₀, v₀⟩ := p
    by_cases hk : k₀ = k
    · subst hk; simp [erase, get?, h, ih]
    · simp [erase, hk, get?, ih]

theorem erase_of_get?_eq_none {k : String} {t : Table α} (h : t.get? k = none) :
    erase k t = t := by
  induction t with
  | nil => rfl
  | cons p t ih =>
    obtain ⟨k', v'⟩ := p
    by_cases hk : k' = k
    · simp [get?, hk] at h
    · simp only [get?, hk, if_false] at h
      simp [erase, hk, ih h]

end Table

end Grok
