import Grok.Proofs.Filter.Invariant
/-!
Runners with more in their state. Main statements: a runner that makes the attempts of another one,
and keeps something besides, makes the same of a record and the same trials on it.
-/
namespace Grok

variable {σ τ : Type}

/-- Every attempt is the one that another runner makes on a part of the state. -/
structure Runner.Projects (R : Runner τ) (r : Runner σ) (π : τ → σ) : Prop where
  deadline_eq : ∀ t, r.deadline (π t) = R.deadline t
  run_eq : ∀ t m text d, r.run (π t) m text d =
    ((R.run t m text d).1, (R.run t m text d).2.1, π (R.run t m text d).2.2)

def Progress.map (π : τ → σ) (p : Progress τ) : Progress σ := ⟨p.event, π p.state, p.log⟩

theorem Runner.Projects.recording {R : Runner τ} {r : Runner σ} {π : τ → σ}
    (h : R.Projects r π) : R.recording.Projects r.recording (Prod.map π id) where
  deadline_eq t := h.deadline_eq t.1
  run_eq t m text d := by
    have hrun := h.run_eq t.1 m text d
    simp only [Runner.recording, Prod.map, hrun]
    rfl

theorem Runner.recording_projects (r : Runner σ) : r.recording.Projects r Prod.fst where
  deadline_eq _ := rfl
  run_eq _ _ _ _ := rfl

namespace Filter

variable {R : Runner τ} {r : Runner σ} {π : τ → σ} {o : Options} {f : FieldMatchers} {g : Filter}
  {field text : String} {texts : List String} {pooled whole : Timeout.Deadline} {ms : List Matcher}
  {fs : List FieldMatchers} {p : Progress τ}

theorem tryText_map (h : R.Projects r π) : tryText r o field pooled text ms (p.map π) =
    ((tryText R o field pooled text ms p).1, (tryText R o field pooled text ms p).2.map π) := by
  induction ms generalizing p with
  | nil => rfl
  | cons m ms ih =>
    have hdeadline : attemptDeadline r o pooled (p.map π).state =
        attemptDeadline R o pooled p.state := by
      rw [attemptDeadline, attemptDeadline, ← h.deadline_eq]
      rfl
    rcases hrun : R.run p.state m text (attemptDeadline R o pooled p.state) with ⟨outcome, log, s⟩
    have hrun' : r.run (p.map π).state m text (attemptDeadline r o pooled (p.map π).state) =
        (outcome, log, π s) := by
      rw [hdeadline, ← congrArg (fun x => (x.1, x.2.1, π x.2.2)) hrun]
      exact h.run_eq ..
    cases outcome with
    | matched cs =>
      rw [tryText_of_matched hrun, tryText_of_matched hrun']
      dsimp only
      split
      · rfl
      · have hrest := ih (p := ⟨applyCaptures o p.event cs, s, p.log ++ log⟩)
        simp only [Progress.map] at hrest ⊢
        rw [hrest]
    | notMatched =>
      rw [tryText_of_notMatched hrun, tryText_of_notMatched hrun']
      exact ih (p := ⟨p.event, s, p.log ++ log⟩)
    | timedOut elapsed =>
      rw [tryText_of_timedOut hrun, tryText_of_timedOut hrun']
      rfl

theorem tryTexts_map (h : R.Projects r π) : tryTexts r o f pooled texts (p.map π) =
    ((tryTexts R o f pooled texts p).1, (tryTexts R o f pooled texts p).2.map π) := by
  induction texts generalizing p with
  | nil => rfl
  | cons text texts ih =>
    rw [tryTexts, tryTexts, tryText_map h]
    generalize tryText R o f.field pooled text f.matchers p = x
    obtain ⟨_ | found, p'⟩ := x
    · rfl
    · dsimp only
      rw [ih]

theorem tryField_map (h : R.Projects r π) : tryField r o whole f (p.map π) =
    ((tryField R o whole f p).1, (tryField R o whole f p).2.map π) := by
  have hdeadline : fieldDeadline r o whole (p.map π).state = fieldDeadline R o whole p.state := by
    rw [fieldDeadline, fieldDeadline, ← h.deadline_eq]
    rfl
  have hevent : (p.map π).event = p.event := rfl
  rw [tryField, tryField, hdeadline, hevent]
  cases p.event.get f.field with
  | none => rfl
  | some v => simp only [matchField_eq, tryTexts_map h]

theorem tryFields_map (h : R.Projects r π) : tryFields r o whole fs (p.map π) =
    ((tryFields R o whole fs p).1, (tryFields R o whole fs p).2.map π) := by
  induction fs generalizing p with
  | nil => rfl
  | cons f fs ih =>
    rw [tryFields, tryFields, tryField_map h]
    generalize tryField R o whole f p = x
    obtain ⟨outcome, p'⟩ := x
    dsimp only
    split
    · rfl
    · rw [ih]

theorem apply_map (h : R.Projects r π) (g : Filter) (p : Progress τ) :
    apply r g (p.map π) = ((apply R g p).1, (apply R g p).2.map π) := by
  have hdeadline : eventDeadline r g.options (p.map π).state =
      eventDeadline R g.options p.state := by
    rw [eventDeadline, eventDeadline, ← h.deadline_eq]
    rfl
  have hfields : tryFields r g.options (eventDeadline R g.options p.state) g.fields
      ((g.begin p).map π) = _ := tryFields_map h
  rw [apply_eq, apply_eq, hdeadline]
  exact congrArg (finish g.options) hfields

theorem trials_map (h : R.Projects r π) (g : Filter) (p : Progress τ) :
    trials r g (p.map π) = trials R g p := by
  have hrun : apply r.recording g ((p.map π).recorded []) = _ :=
    apply_map h.recording g (p.recorded [])
  rw [trials, hrun]
  rfl

end Filter

end Grok
