import Grok.Proofs.Filter.Verdict
/-!
Invariants of the state in which attempts are made. Main statements: what every attempt on a record
keeps is kept when the record is filtered, and a trial on a record is an attempt of the runner with
a matcher of the filter.
-/
namespace Grok

variable {σ : Type}

/-- Every attempt with one of these matchers keeps what holds of the state. Attempts that share a
budget over a whole record are made in front of its deadline. -/
def Runner.Keeps (r : Runner σ) (o : Options) (whole : Timeout.Deadline) (M : Matcher → Prop)
    (I : σ → Prop) : Prop :=
  ∀ s m text d, M m → (o.scope = .event → d = whole) → I s → I (r.run s m text d).2.2

namespace Filter

variable {r : Runner σ} {o : Options} {f : FieldMatchers} {g : Filter} {field text : String}
  {pooled whole : Timeout.Deadline} {ms : List Matcher} {p : Progress σ} {M : Matcher → Prop}
  {I : σ → Prop}

theorem attemptDeadline_eq_whole (h : o.scope = .event → pooled = whole) (s : σ)
    (hscope : o.scope = .event) : attemptDeadline r o pooled s = whole := by
  rw [attemptDeadline, hscope, ← h hscope]
  rfl

theorem fieldDeadline_eq_whole (s : σ) (hscope : o.scope = .event) :
    fieldDeadline r o whole s = whole := by
  rw [fieldDeadline, hscope]

theorem tryText_keeps (hI : r.Keeps o whole M I) (hM : ∀ m ∈ ms, M m)
    (hpooled : o.scope = .event → pooled = whole) (h : I p.state) :
    I (tryText r o field pooled text ms p).2.state := by
  induction ms generalizing p with
  | nil => exact h
  | cons m ms ih =>
    obtain ⟨hm, hms⟩ := List.forall_mem_cons.1 hM
    have hstep := hI p.state m text _ hm (attemptDeadline_eq_whole (r := r) hpooled p.state) h
    rcases hrun : r.run p.state m text (attemptDeadline r o pooled p.state) with ⟨outcome, log, s⟩
    rw [hrun] at hstep
    cases outcome with
    | matched cs =>
      rw [tryText_of_matched hrun]
      dsimp only
      split
      · exact hstep
      · exact ih hms hstep
    | notMatched =>
      rw [tryText_of_notMatched hrun]
      exact ih hms hstep
    | timedOut elapsed =>
      rw [tryText_of_timedOut hrun]
      exact hstep

theorem tryTexts_keeps {texts : List String} (hI : r.Keeps o whole M I)
    (hM : ∀ m ∈ f.matchers, M m) (hpooled : o.scope = .event → pooled = whole) (h : I p.state) :
    I (tryTexts r o f pooled texts p).2.state := by
  induction texts generalizing p with
  | nil => exact h
  | cons text texts ih =>
    have hfirst : I (tryText r o f.field pooled text f.matchers p).2.state :=
      tryText_keeps hI hM hpooled h
    rw [tryTexts]
    generalize tryText r o f.field pooled text f.matchers p = x at hfirst ⊢
    obtain ⟨_ | found, p'⟩ := x
    · exact hfirst
    · exact ih hfirst

theorem tryField_keeps (hI : r.Keeps o whole M I) (hM : ∀ m ∈ f.matchers, M m) (h : I p.state) :
    I (tryField r o whole f p).2.state := by
  rw [tryField]
  cases p.event.get f.field with
  | none => exact h
  | some v =>
    simp only [matchField_eq]
    exact tryTexts_keeps hI hM (fieldDeadline_eq_whole p.state) h

theorem tryFields_keeps {fs : List FieldMatchers} (hI : r.Keeps o whole M I)
    (hM : ∀ f ∈ fs, ∀ m ∈ f.matchers, M m) (h : I p.state) :
    I (tryFields r o whole fs p).2.state := by
  induction fs generalizing p with
  | nil => exact h
  | cons f fs ih =>
    obtain ⟨hf, hfs⟩ := List.forall_mem_cons.1 hM
    have hfirst : I (tryField r o whole f p).2.state := tryField_keeps hI hf h
    rw [tryFields]
    generalize tryField r o whole f p = x at hfirst ⊢
    obtain ⟨outcome, p'⟩ := x
    dsimp only
    split
    · exact hfirst
    · exact ih hfs hfirst

theorem apply_keeps
    (hI : r.Keeps g.options (r.deadline p.state) (fun m => ∃ f ∈ g.fields, m ∈ f.matchers) I)
    (h : I p.state) : I (apply r g p).2.state := by
  have hwhole : g.options.scope = .event →
      eventDeadline r g.options p.state = r.deadline p.state := fun hscope => by
    rw [eventDeadline, hscope]
  have hkeeps : r.Keeps g.options (eventDeadline r g.options p.state)
      (fun m => ∃ f ∈ g.fields, m ∈ f.matchers) I := fun s m text d hm hd =>
    hI s m text d hm fun hscope => (hd hscope).trans (hwhole hscope)
  rw [apply_eq]
  exact tryFields_keeps hkeeps (fun f hf m hm => ⟨f, hf, hm⟩) h

/-! ### Trials -/

/-- The trials that are made while a record is filtered, in order. -/
def trials (r : Runner σ) (f : Filter) (p : Progress σ) : List Trial :=
  (apply r.recording f (p.recorded [])).2.state.2

theorem exists_tour (r : Runner σ) (f : Filter) (p : Progress σ) :
    ∃ vs : List Visit, Tour f.options p.event f.fields vs ∧
      (apply r f p).1.fields = vs.map (fun v => (v.field, v.outcome)) ∧
      trials r f p = vs.flatMap Visit.trials := by
  obtain ⟨vs, htour, hfields, hrec, -⟩ := exists_visits r f p
  exact ⟨vs, htour, hfields, by rw [trials, hrec]; rfl⟩

theorem event_apply (r : Runner σ) (f : Filter) (p : Progress σ) : (apply r f p).2.event =
    tagEvent f.options (apply r f p).1 (Trial.written f.options p.event (trials r f p)) := by
  obtain ⟨vs, -, -, hrec, hevent⟩ := exists_visits r f p
  rw [hevent, trials, hrec]
  rfl

/-- A trial is an attempt of the runner with a matcher of the filter. -/
theorem attempt_of_mem_trials {t : Trial} (h : t ∈ trials r g p) :
    (∃ f ∈ g.fields, t.matcher ∈ f.matchers) ∧
      ∃ s d, (r.run s t.matcher t.text d).1 = t.outcome := by
  refine apply_keeps (r := r.recording) (p := p.recorded [])
    (I := fun s => ∀ t ∈ s.2, (∃ f ∈ g.fields, t.matcher ∈ f.matchers) ∧
      ∃ s d, (r.run s t.matcher t.text d).1 = t.outcome) ?_ nofun t h
  intro s m text d hm _ hs t ht
  obtain ht | ht := List.mem_append.1 ht
  · exact hs t ht
  · obtain rfl := List.mem_singleton.1 ht
    exact ⟨hm, s.1, d, rfl⟩

end Filter

end Grok
