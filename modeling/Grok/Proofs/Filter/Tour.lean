import Mathlib
import Grok.Proofs.Event.Tags
import Grok.Proofs.Filter.Invariant
import Grok.Proofs.Filter.Configured
/-!
The tour of a filter through the fields of a record, and what is put on the record at its end. Main
statement: the fields are tried in the order of the options, up to the first match if the options
say so, and in the end the tags that are due and new are put behind those that the record has.
-/
namespace Grok

open Trial (written)

namespace Tour

variable {o : Options} {e : Event} {fs : List FieldMatchers} {vs us : List Visit} {v : Visit}

theorem isPrefix (h : Tour o e fs vs) : vs.map Visit.field <+: fs.map FieldMatchers.field := by
  induction h with
  | done => exact List.prefix_rfl
  | stop hv =>
    rw [List.map_cons, List.map_cons, hv.field_eq, List.cons_prefix_cons]
    exact ⟨rfl, List.nil_prefix⟩
  | go hv _ _ ih =>
    rw [List.map_cons, List.map_cons, hv.field_eq, List.cons_prefix_cons]
    exact ⟨rfl, ih⟩

/-- Only a match can keep fields from being tried. -/
theorem fields_eq (h : Tour o e fs vs)
    (hgo : (∀ v ∈ vs, v.outcome ≠ .matched) ∨ o.breakOnMatch = false) :
    vs.map Visit.field = fs.map FieldMatchers.field := by
  induction h with
  | done => rfl
  | stop hv hmatched hbreak =>
    obtain hgo | hgo := hgo
    · exact absurd hmatched (hgo _ List.mem_cons_self)
    · exact absurd hbreak (by simp [hgo])
  | go hv _ _ ih =>
    rw [List.map_cons, List.map_cons, hv.field_eq, ih]
    exact hgo.imp (fun hgo v hv => hgo v (List.mem_cons_of_mem _ hv)) id

/-- A tour goes on from every visit as a tour of the fields that are left. -/
theorem drop (h : Tour o e fs (us ++ v :: vs)) :
    Tour o (written o e (us.flatMap Visit.trials)) (fs.drop us.length) (v :: vs) := by
  induction us generalizing e fs with
  | nil => exact h
  | cons u us ih =>
    rw [List.cons_append] at h
    generalize hrest : us ++ v :: vs = rest at h
    cases h with
    | stop => exact absurd hrest (by simp)
    | go hv _ htour =>
      subst hrest
      rw [List.flatMap_cons, Trial.written_append]
      exact ih htour

theorem eq_nil_of_matched (h : Tour o e fs (us ++ v :: vs)) (hmatched : v.outcome = .matched)
    (hbreak : o.breakOnMatch = true) : vs = [] := by
  have hdrop := h.drop
  generalize fs.drop us.length = left at hdrop
  cases hdrop with
  | stop => rfl
  | go _ hn => exact absurd ⟨hmatched, hbreak⟩ hn

/-- If the options say so, a match is the only one and the end of the tour. -/
theorem exists_eq_append (h : Tour o e fs vs) (hv : v ∈ vs) (hmatched : v.outcome = .matched)
    (hbreak : o.breakOnMatch = true) :
    ∃ us, vs = us ++ [v] ∧ ∀ u ∈ us, u.outcome ≠ .matched := by
  obtain ⟨us, rest, rfl⟩ := List.append_of_mem hv
  obtain rfl := h.eq_nil_of_matched hmatched hbreak
  refine ⟨us, rfl, fun u hu houtcome => ?_⟩
  obtain ⟨before, after, rfl⟩ := List.append_of_mem hu
  rw [List.append_assoc, List.cons_append] at h
  exact absurd (h.eq_nil_of_matched houtcome hbreak) (by simp)

end Tour

namespace FilterOutcome

theorem isMatched_or_isTimedOut_or_isFailed (o : FilterOutcome) :
    o.isMatched ∨ o.isTimedOut ∨ o.isFailed := by
  by_cases hmatched : o.isMatched
  · exact .inl hmatched
  by_cases htimed : o.isTimedOut
  · exact .inr (.inl htimed)
  refine .inr (.inr ?_)
  obtain ⟨_ | ⟨⟨x, outcome⟩, fields⟩⟩ := o
  · rfl
  · -- A field that neither matched nor ran out of time failed.
    rw [isFailed, Bool.and_eq_true, Bool.not_eq_true']
    refine ⟨Bool.eq_false_iff.2 hmatched, ?_⟩
    cases outcome with
    | matched => exact absurd rfl hmatched
    | timedOut => exact absurd rfl htimed
    | notMatched | missing => rfl

theorem not_isFailed_of_isMatched {o : FilterOutcome} (h : o.isMatched) : ¬ o.isFailed := by
  simp [isFailed, h]

end FilterOutcome

namespace Filter

open Event

variable {σ : Type}

/-- The tags that a record gets for its outcome, whether it has them or not. -/
def dueTags (o : Options) (outcome : FilterOutcome) : List String :=
  (if ∃ d ∈ outcome.fields, d.2 = .timedOut then [o.timeoutTag] else []) ++
    if outcome.isFailed then o.failureTags else []

theorem tagEvent_eq (o : Options) (outcome : FilterOutcome) (e : Event) :
    tagEvent o outcome e = e.withTags (e.newTags (dueTags o outcome)) := by
  have htimed : outcome.isTimedOut ↔ ∃ d ∈ outcome.fields, d.2 = .timedOut := by
    simp [FilterOutcome.isTimedOut]
  rw [← Event.foldl_tag, dueTags, List.foldl_append, tagEvent]
  simp only [htimed]
  split <;> split <;> rfl

/-- Which fields are tried, and what a record gets for their outcomes. The fields are those of the
options in their order, as many of them as there are, or up to the first match if the options say
so. In the end the record has the tags that are due and that the captures have not left it with,
each of them once, behind what its tag field held, and nothing else is touched. -/
theorem outcome_and_tags (r : Runner σ) (f : Filter) (p : Progress σ) :
    let outcome := (apply r f p).1
    let left := written f.options p.event (trials r f p)
    let tags := left.newTags (dueTags f.options outcome)
    let e := (apply r f p).2.event
    (∀ tree, (ofOptions tree f.options).1 = .ok f →
        f.fields.map FieldMatchers.field = f.options.patterns.map Prod.fst) ∧
      outcome.fields.map Prod.fst <+: f.fields.map FieldMatchers.field ∧
      ((∀ d ∈ outcome.fields, d.2 ≠ .matched) ∨ f.options.breakOnMatch = false →
        outcome.fields.map Prod.fst = f.fields.map FieldMatchers.field) ∧
      (f.options.breakOnMatch = true → ∀ d ∈ outcome.fields, d.2 = .matched →
        ∃ before, outcome.fields = before ++ [d] ∧ ∀ d' ∈ before, d'.2 ≠ .matched) ∧
      (outcome.isMatched ∨ outcome.isTimedOut ∨ outcome.isFailed) ∧
      ¬ (outcome.isMatched ∧ outcome.isFailed) ∧
      e = left.withTags tags ∧ e.tags = left.tags ++ tags ∧
      e.tagValues = left.tagValues ++ tags.map .string ∧
      ∀ k, k ≠ tagsField → e.fields.get? k = left.fields.get? k := by
  intro outcome left tags e
  obtain ⟨vs, htour, hfields, -⟩ := exists_tour r f p
  have hnames : outcome.fields.map Prod.fst = vs.map Visit.field := by
    rw [hfields, List.map_map]
    rfl
  have hevent : e = left.withTags tags := by
    rw [← tagEvent_eq]
    exact event_apply r f p
  refine ⟨fun tree h => ?_, hnames ▸ htour.isPrefix, fun hgo => ?_, fun hbreak d hd hmatched => ?_,
    outcome.isMatched_or_isTimedOut_or_isFailed,
    fun h => FilterOutcome.not_isFailed_of_isMatched h.1 h.2, hevent, ?_, ?_, ?_⟩
  · rw [← configured_ofOptions h, List.map_map]
    rfl
  · rw [hnames]
    refine htour.fields_eq (hgo.imp (fun hno v hv => ?_) id)
    exact hno (v.field, v.outcome) (hfields ▸ List.mem_map_of_mem hv)
  · rw [hfields] at hd
    obtain ⟨v, hv, rfl⟩ := List.mem_map.1 hd
    obtain ⟨us, rfl, hus⟩ := htour.exists_eq_append hv hmatched hbreak
    refine ⟨us.map fun v => (v.field, v.outcome), by rw [hfields, List.map_append]; rfl, ?_⟩
    exact List.forall_mem_map.2 hus
  · rw [hevent, tags_withTags]
  · rw [hevent, tagValues_withTags]
  · intro k hk
    rw [hevent, get?_withTags_of_ne hk]

/-- One field runs out of time, one does not match and one is missing, in a record whose tag field
holds a number: it gets the tag of time, and of the tags of failure the one that is new. -/
theorem outcome_and_tags_number :
    let o : Options := { Options.initial with
      patterns := [("late", ["a"]), ("message", ["a"]), ("other", ["a"])]
      builtins := false
      failureTags := ["_groktimeout", "odd", "odd"] }
    let ms : List Matcher := [⟨"a", "a", .char (.exactly 97), []⟩]
    let f : Filter := ⟨o, .empty, [⟨"late", ms⟩, ⟨"message", ms⟩, ⟨"other", ms⟩]⟩
    let r : Runner Unit :=
      scripted fun text => if text = "b" then .notMatched else .timedOut ⟨150000000⟩
    let p : Progress Unit :=
      ⟨⟨[("late", .string "aaa"), ("message", .string "b"), ("tags", .int 7)]⟩, (), []⟩
    (ofOptions .empty o).1 = .ok f ∧
      f.fields.map FieldMatchers.field = o.patterns.map Prod.fst ∧
      (apply r f p).1.fields =
        [("late", .timedOut), ("message", .notMatched), ("other", .missing)] ∧
      (apply r f p).2.event.tagValues = [.int 7, .string "_groktimeout", .string "odd"] := by
  intro o ms f r p
  have hf : (ofOptions .empty o).1 = .ok f := by
    subst o ms f
    cbv
  have hfields : (apply r f p).1.fields =
      [("late", .timedOut), ("message", .notMatched), ("other", .missing)] := by decide +kernel
  obtain ⟨hpatterns, -, -, -, -, -, -, -, htags, -⟩ := outcome_and_tags r f p
  refine ⟨hf, hpatterns .empty hf, hfields, ?_⟩
  rw [htags]
  subst o ms f r p
  rfl

end Filter

end Grok
