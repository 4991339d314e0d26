import Grok.Event
/-!
Tags. Main statement: adding tags one after another puts those that the record does not have yet
behind what its tag field holds, each of them once, and touches nothing else.
-/
namespace Grok

/-- Only texts are tags. -/
def Value.tag? : Value → Option String
  | .string s => some s
  | _ => none

@[simp] theorem Value.filterMap_tag?_map (ts : List String) :
    (ts.map Value.string).filterMap Value.tag? = ts := by
  induction ts with
  | nil => rfl
  | cons t ts ih => rw [List.map_cons, List.filterMap_cons, ih, Value.tag?]

namespace Event

variable {e : Event} {t : String} {ts us : List String}

/-- Those of some tags that a record does not have, each where it comes first. -/
def newTags (e : Event) (ts : List String) : List String := (ts.filter (!e.hasTag ·)).eraseDups

/-- The record with tags put behind what its tag field holds. -/
def withTags (e : Event) (ts : List String) : Event :=
  if ts = [] then e
  else ⟨e.fields.put tagsField (.array (e.tagValues ++ ts.map .string))⟩

/-! ### What the tag field holds -/

theorem tags_eq (e : Event) : e.tags = e.tagValues.filterMap Value.tag? := by
  rw [tags, tagValues]
  obtain _ | (_ | _ | _ | _ | _ | vs | _) := e.fields.get? tagsField <;> rfl

@[simp] theorem withTags_nil (e : Event) : e.withTags [] = e := rfl

theorem withTags_of_ne_nil (h : ts ≠ []) :
    e.withTags ts = ⟨e.fields.put tagsField (.array (e.tagValues ++ ts.map .string))⟩ :=
  if_neg h

@[simp] theorem tagValues_withTags (e : Event) (ts : List String) :
    (e.withTags ts).tagValues = e.tagValues ++ ts.map .string := by
  by_cases h : ts = []
  · simp [h]
  · rw [withTags_of_ne_nil h, tagValues, Table.get?_put_self]

@[simp] theorem tags_withTags (e : Event) (ts : List String) :
    (e.withTags ts).tags = e.tags ++ ts := by
  rw [tags_eq, tagValues_withTags, List.filterMap_append, Value.filterMap_tag?_map, ← tags_eq]

theorem get?_withTags_of_ne {k : String} (h : k ≠ tagsField) (e : Event) (ts : List String) :
    (e.withTags ts).fields.get? k = e.fields.get? k := by
  by_cases hts : ts = []
  · rw [hts, withTags_nil]
  · rw [withTags_of_ne_nil hts]
    exact Table.get?_put_of_ne _ h.symm _

theorem withTags_withTags (e : Event) (ts us : List String) :
    (e.withTags ts).withTags us = e.withTags (ts ++ us) := by
  by_cases hts : ts = []
  · rw [hts, withTags_nil, List.nil_append]
  · by_cases hus : us = []
    · rw [hus, withTags_nil, List.append_nil]
    · have happend : ts ++ us ≠ [] := List.append_ne_nil_of_left_ne_nil hts us
      rw [withTags_of_ne_nil hus, tagValues_withTags, withTags_of_ne_nil hts,
        withTags_of_ne_nil happend, Table.put_put, List.map_append, List.append_assoc]

/-! ### One tag after another -/

theorem newTags_cons_of_hasTag (h : e.hasTag t) : e.newTags (t :: ts) = e.newTags ts := by
  simp [newTags, h]

theorem newTags_cons_of_not_hasTag (h : ¬ e.hasTag t) :
    e.newTags (t :: ts) = t :: (e.withTags [t]).newTags ts := by
  have hrest : ts.filter (!(e.withTags [t]).hasTag ·) =
      (ts.filter (!e.hasTag ·)).filter (!· == t) := by
    rw [List.filter_filter]
    refine List.filter_congr fun u _ => ?_
    by_cases hu : u = t <;> simp [hasTag, hu]
  rw [newTags, newTags, List.filter_cons_of_pos (by simpa using h), List.eraseDups_cons, hrest]

/-- Tags that are added one after another are those that are new, put in place at once. -/
theorem foldl_tag (e : Event) (ts : List String) : ts.foldl tag e = e.withTags (e.newTags ts) := by
  induction ts generalizing e with
  | nil => rfl
  | cons t ts ih =>
    rw [List.foldl_cons, ih]
    by_cases h : e.hasTag t
    · rw [tag, if_pos h, newTags_cons_of_hasTag h]
    · have htag : e.tag t = e.withTags [t] := if_neg h
      rw [htag, withTags_withTags, newTags_cons_of_not_hasTag h, List.singleton_append]

end Event

end Grok
