import Mathlib
import Grok.Proofs.Filter.Verdict
/-!
The course of the work on a field. Main statement: the trials on a field form rows, one for each of
the texts that the field held at the start, and whatever a trial comes to, these rows settle what is
tried next, what is written, and the outcome of the field.
-/
namespace Grok

open Trial (IsRow AreRows isLast isTimedOut isMatched)

namespace Trial

variable {o : Options} {ms : List Matcher} {text : String} {texts : List String} {row : List Trial}
  {rows : List (List Trial)} {t : Trial}

theorem IsRow.not_isLast (h : IsRow o ms text row) (ht : t ∈ row.dropLast) : ¬ t.isLast o := by
  have hlength : row.length ≤ row.findIdx (isLast o) + 1 := by
    rw [← List.length_map (f := matcher), h.matchers_eq]
    exact List.length_take_le _ _
  obtain ⟨i, hi, rfl⟩ := List.mem_iff_getElem.1 ht
  rw [List.length_dropLast] at hi
  rw [List.getElem_dropLast]
  exact Bool.not_eq_true _ ▸ List.not_of_lt_findIdx (by omega)

/-- Only the last trial of a field can have run out of time. -/
theorem AreRows.not_isTimedOut (h : AreRows o ms texts rows) (ht : t ∈ rows.flatten.dropLast) :
    ¬ t.isTimedOut := by
  induction rows generalizing texts with
  | nil => cases ht
  | cons row rows ih =>
    rw [AreRows, List.findIdx_cons] at h
    cases texts with
    | nil => cases h
    | cons text texts =>
      obtain ⟨hrow, hrows⟩ := List.forall₂_cons.1 h
      have hinside : t ∈ row.dropLast → ¬ t.isTimedOut := fun ht htimed =>
        hrow.not_isLast ht (by simp [isLast, htimed])
      cases hlate : row.any isTimedOut with
      | true =>
        rw [hlate] at hrows
        obtain rfl : rows = [] := List.forall₂_nil_left_iff.1 hrows
        exact hinside (by simpa using ht)
      | false =>
        rw [hlate] at hrows
        rw [List.flatten_cons] at ht
        by_cases hnil : rows.flatten = []
        · rw [hnil, List.append_nil] at ht
          exact hinside ht
        · rw [List.dropLast_append_of_ne_nil hnil, List.mem_append] at ht
          obtain ht | ht := ht
          · exact fun htimed => absurd (List.any_eq_true.2 ⟨t, ht, htimed⟩) (by simp [hlate])
          · exact ih hrows ht

end Trial

/-- A piece of work on a field, with and without a record of it, took this course: it made the
trials of these rows on these texts, wrote the captures of the matches among them in order, stopped
for good where the time ran out, and came to the outcome that they settle. -/
structure Course {σ : Type} (o : Options) (ms : List Matcher) (texts : List String)
    (p : Progress σ) (plain : FieldOutcome × Progress σ)
    (recorded : List Trial → FieldOutcome × Progress (σ × List Trial))
    (rows : List (List Trial)) : Prop extends Makes o p plain recorded rows.flatten where
  areRows : AreRows o ms texts rows
  stops : ∀ t ∈ rows.flatten.dropLast, ¬ t.isTimedOut
  outcome_eq : plain.1 =
    if ∃ t ∈ rows.flatten, t.isTimedOut then .timedOut
    else if ∃ t ∈ rows.flatten, t.isMatched then .matched else .notMatched

namespace Filter

variable {σ : Type}

theorem exists_course (r : Runner σ) (o : Options) (f : FieldMatchers) (pooled : Timeout.Deadline)
    (texts : List String) (p : Progress σ) :
    ∃ rows, Course o f.matchers texts p (matchField r o f pooled texts p)
      (fun before => matchField r.recording o f pooled texts (p.recorded before)) rows := by
  obtain ⟨rows, hrows, hanswer, hmakes⟩ := exists_rows_tryTexts r o f pooled texts p
  refine ⟨rows, ?_, hrows, fun t => hrows.not_isTimedOut, ?_⟩
  · simp only [matchField_eq]
    exact hmakes.map _
  · rw [matchField_eq, hanswer]
    exact Visit.outcome_some f.field rows.flatten

/-- The work on a field, for every way in which trials may come out. Any texts are tried in rows,
and those of a field are the texts of the value that it has before the first of them is tried. -/
theorem course_of_field (r : Runner σ) (o : Options) (f : FieldMatchers) (p : Progress σ) :
    (∀ pooled texts, ∃ rows, Course o f.matchers texts p (matchField r o f pooled texts p)
      (fun before => matchField r.recording o f pooled texts (p.recorded before)) rows) ∧
    ∀ whole v, p.event.get f.field = some v →
      ∃ rows, Course o f.matchers v.texts p (tryField r o whole f p)
        (fun before => tryField r.recording o whole f (p.recorded before)) rows := by
  refine ⟨fun pooled texts => exists_course r o f pooled texts p, fun whole v hv => ?_⟩
  obtain ⟨rows, hcourse⟩ := exists_course r o f (fieldDeadline r o whole p.state) v.texts p
  refine ⟨rows, ?_⟩
  simp only [tryField, Progress.recorded, hv]
  exact hcourse

/-- The captures go into the field that is being tried. It holds four values in the end, but only
the two that it held before are tried. -/
theorem course_of_growing_field :
    let m : Matcher := ⟨"", "", .empty, []⟩
    let f : FieldMatchers := ⟨"message", [m]⟩
    let r : Runner Unit := scripted fun _ => .matched [⟨"message", some (.string "c")⟩]
    let p : Progress Unit := ⟨⟨[("message", .array [.string "a", .string "b"])]⟩, (), []⟩
    (tryField r .initial .unbounded f p).2.event.get "message" =
        some (.array [.string "a", .string "b", .string "c", .string "c"]) ∧
      ∃ rows, Course .initial [m] ["a", "b"] p (tryField r .initial .unbounded f p)
        (fun before => tryField r.recording .initial .unbounded f (p.recorded before)) rows := by
  intro m f r p
  have hget : p.event.get f.field = some (.array [.string "a", .string "b"]) := by
    subst m f p
    cbv
  have hend : (tryField r .initial .unbounded f p).2.event.get "message" =
      some (.array [.string "a", .string "b", .string "c", .string "c"]) := by
    subst m f r p
    cbv
  exact ⟨hend, (course_of_field r .initial f p).2 .unbounded _ hget⟩

end Filter

end Grok
