import Mathlib.Tactic.SplitIfs
import Grok.Proofs.Filter.Trials
/-!
The verdict on a record, from the trials on its fields. Main statement: a record counts as matched
exactly if a field of it has a match and no trial that ran out of time, and then it gets no tag of
failure. A match in a field that later runs out of time is kept in the record, but not in the
verdict.
-/
namespace Grok

open Trial (answer written)

/-- A field that was tried, with the trials on it if the record has the field. -/
structure Visit where
  field : String
  trials? : Option (List Trial)

namespace FieldOutcome

def ofAnswer : Option Bool → FieldOutcome
  | none => .timedOut
  | some true => .matched
  | some false => .notMatched

end FieldOutcome

namespace Visit

def trials (v : Visit) : List Trial := v.trials?.getD []

def outcome (v : Visit) : FieldOutcome :=
  match v.trials? with
  | none => .missing
  | some ts => .ofAnswer (answer ts)

/-- A match, and no trial that ran out of time. -/
def Matches (v : Visit) : Prop :=
  (∃ t ∈ v.trials, t.isMatched) ∧ ∀ t ∈ v.trials, ¬ t.isTimedOut

variable {v : Visit}

theorem outcome_some (field : String) (ts : List Trial) : outcome ⟨field, some ts⟩ =
    if ∃ t ∈ ts, t.isTimedOut then .timedOut
    else if ∃ t ∈ ts, t.isMatched then .matched else .notMatched := by
  simp only [outcome, answer, ← List.any_eq_true]
  cases ts.any Trial.isTimedOut <;> cases ts.any Trial.isMatched <;> rfl

theorem outcome_eq_matched_iff : v.outcome = .matched ↔ v.Matches := by
  obtain ⟨field, _ | ts⟩ := v
  · simp [outcome, Matches, trials]
  · rw [outcome_some, Matches, trials, Option.getD_some]
    split_ifs with htimed hmatched
    · exact ⟨nofun, fun h => absurd htimed (by simpa using h.2)⟩
    · exact ⟨fun _ => ⟨hmatched, by simpa using htimed⟩, fun _ => rfl⟩
    · exact ⟨nofun, fun h => absurd h.1 hmatched⟩

theorem outcome_eq_timedOut_iff : v.outcome = .timedOut ↔ ∃ t ∈ v.trials, t.isTimedOut := by
  obtain ⟨field, _ | ts⟩ := v
  · simp [outcome, trials]
  · rw [outcome_some, trials, Option.getD_some]
    split_ifs with htimed hmatched <;> simp_all

theorem outcome_eq_failed_iff : v.outcome = .notMatched ∨ v.outcome = .missing ↔
    (∀ t ∈ v.trials, ¬ t.isMatched) ∧ ∀ t ∈ v.trials, ¬ t.isTimedOut := by
  obtain ⟨field, _ | ts⟩ := v
  · simp [outcome, trials]
  · rw [outcome_some, trials, Option.getD_some]
    split_ifs with htimed hmatched <;> simp_all

/-- How a field is visited on a record. If the record has it, its texts are tried. -/
inductive On (o : Options) (e : Event) (f : FieldMatchers) : Visit → Prop
  | missing : e.get f.field = none → On o e f ⟨f.field, none⟩
  | tried {value : Value} {rows : List (List Trial)} : e.get f.field = some value →
      Trial.AreRows o f.matchers value.texts rows → On o e f ⟨f.field, some rows.flatten⟩

theorem On.field_eq {o : Options} {e : Event} {f : FieldMatchers} (h : v.On o e f) :
    v.field = f.field := by
  cases h <;> rfl

end Visit

/-- The visits to some fields in order, each on the record as those before it have left it. A field
that matched is the last one if the options say so. -/
inductive Tour (o : Options) : Event → List FieldMatchers → List Visit → Prop
  | done {e : Event} : Tour o e [] []
  | stop {e : Event} {f : FieldMatchers} {fs : List FieldMatchers} {v : Visit} : v.On o e f →
      v.outcome = .matched → o.breakOnMatch = true → Tour o e (f :: fs) [v]
  | go {e : Event} {f : FieldMatchers} {fs : List FieldMatchers} {v : Visit} {vs : List Visit} :
      v.On o e f → ¬ (v.outcome = .matched ∧ o.breakOnMatch = true) →
      Tour o (written o e v.trials) fs vs → Tour o e (f :: fs) (v :: vs)

namespace Filter

variable {σ : Type} {r : Runner σ} {o : Options} {f : FieldMatchers} {p : Progress σ}
  {texts : List String} {pooled : Timeout.Deadline}

theorem matchField_eq : matchField r o f pooled texts p =
    (.ofAnswer (tryTexts r o f pooled texts p).1, (tryTexts r o f pooled texts p).2) := by
  unfold matchField
  rcases tryTexts r o f pooled texts p with ⟨_ | _ | _, p'⟩ <;> rfl

theorem exists_visit (r : Runner σ) (o : Options) (whole : Timeout.Deadline) (f : FieldMatchers)
    (p : Progress σ) :
    ∃ v : Visit, v.On o p.event f ∧ (tryField r o whole f p).1 = v.outcome ∧
      Makes o p (tryField r o whole f p)
        (fun before => tryField r.recording o whole f (p.recorded before)) v.trials := by
  cases hget : p.event.get f.field with
  | none =>
    refine ⟨⟨f.field, none⟩, .missing hget, by simp [tryField, hget, Visit.outcome], ?_⟩
    simp only [tryField, hget, Progress.recorded]
    exact .nothing
  | some value =>
    obtain ⟨rows, hrows, hanswer, hmakes⟩ :=
      exists_rows_tryTexts r o f (fieldDeadline r o whole p.state) value.texts p
    refine ⟨⟨f.field, some rows.flatten⟩, .tried hget hrows, ?_, ?_⟩
    · simp [tryField, hget, matchField_eq, hanswer, Visit.outcome]
    · simp only [tryField, hget, Progress.recorded, matchField_eq]
      exact hmakes.map _

theorem exists_tour_tryFields (r : Runner σ) (o : Options) (whole : Timeout.Deadline)
    (fs : List FieldMatchers) (p : Progress σ) :
    ∃ vs : List Visit, Tour o p.event fs vs ∧
      (tryFields r o whole fs p).1 = vs.map (fun v => (v.field, v.outcome)) ∧
      Makes o p (tryFields r o whole fs p)
        (fun before => tryFields r.recording o whole fs (p.recorded before))
        (vs.flatMap Visit.trials) := by
  induction fs generalizing p with
  | nil => exact ⟨[], .done, rfl, .nothing⟩
  | cons f fs ih =>
    obtain ⟨v, hon, houtcome, hfirst⟩ := exists_visit r o whole f p
    have hfield := hon.field_eq
    rcases htry : tryField r o whole f p with ⟨outcome, p'⟩
    rw [htry] at houtcome hfirst
    obtain rfl : outcome = v.outcome := houtcome
    have hrec : ∀ before, tryField r.recording o whole f (p.recorded before) =
        (v.outcome, p'.recorded (before ++ v.trials)) := hfirst.recorded_eq
    by_cases hbreak : (v.outcome = .matched && o.breakOnMatch) = true
    · obtain ⟨hmatched, hoption⟩ : v.outcome = .matched ∧ o.breakOnMatch = true := by
        simpa using hbreak
      refine ⟨[v], .stop hon hmatched hoption, ?_, fun before => ?_, ?_⟩
      · simp [tryFields, htry, hbreak, hfield]
      · simp [tryFields, htry, hrec, hbreak]
      · simpa [tryFields, htry, hbreak] using hfirst.event_eq
    · obtain ⟨vs, htour, houtcomes, hrest⟩ := ih p'
      have hevent : p'.event = written o p.event v.trials := hfirst.event_eq
      rw [hevent] at htour
      refine ⟨v :: vs, .go hon (by simpa using hbreak) htour, ?_, ?_⟩
      · simp [tryFields, htry, hbreak, houtcomes, hfield]
      · simp only [tryFields, htry, hbreak, List.flatMap_cons]
        refine (hrest.map _).after hfirst.event_eq fun before => ?_
        simp only [hrec, hbreak]
        rfl

/-- The deadline of a record whose attempts share one. -/
def eventDeadline (r : Runner σ) (o : Options) (s : σ) : Timeout.Deadline :=
  match o.scope with
  | .event => r.deadline s
  | .pattern | .field => .unbounded

def begin (f : Filter) (p : Progress σ) : Progress σ :=
  { p with log := p.log ++
    [⟨.debug, "Running grok filter", [("fields", toString f.fields.length)]⟩] }

def finish (o : Options) (done : List (String × FieldOutcome) × Progress σ) :
    FilterOutcome × Progress σ :=
  let outcome : FilterOutcome := ⟨done.1⟩
  (outcome, ⟨tagEvent o outcome done.2.event, done.2.state, done.2.log ++
    [⟨.debug, "Grok filter finished",
      [("matched", toString outcome.isMatched), ("timed_out", toString outcome.isTimedOut)]⟩]⟩)

theorem apply_eq (r : Runner σ) (f : Filter) (p : Progress σ) : apply r f p =
    finish f.options
      (tryFields r f.options (eventDeadline r f.options p.state) f.fields (f.begin p)) :=
  rfl

/-- The fields that are tried and the trials on them, and what comes of a record. -/
theorem exists_visits (r : Runner σ) (f : Filter) (p : Progress σ) :
    ∃ vs : List Visit, Tour f.options p.event f.fields vs ∧
      (apply r f p).1.fields = vs.map (fun v => (v.field, v.outcome)) ∧
      (∀ before, apply r.recording f (p.recorded before) =
        ((apply r f p).1, (apply r f p).2.recorded (before ++ vs.flatMap Visit.trials))) ∧
      (apply r f p).2.event =
        tagEvent f.options (apply r f p).1
          (written f.options p.event (vs.flatMap Visit.trials)) := by
  obtain ⟨vs, htour, hfields, hmakes⟩ := exists_tour_tryFields r f.options
    (eventDeadline r f.options p.state) f.fields (f.begin p)
  refine ⟨vs, htour, hfields, fun before => ?_, ?_⟩
  · rw [apply_eq r.recording, apply_eq r]
    exact congrArg (finish f.options) (hmakes.recorded_eq before)
  · exact congrArg (tagEvent f.options (apply r f p).1) hmakes.event_eq

end Filter

namespace FilterOutcome

variable {o : FilterOutcome} {vs : List Visit}

theorem isMatched_iff (h : o.fields = vs.map fun v => (v.field, v.outcome)) :
    o.isMatched ↔ ∃ v ∈ vs, v.Matches := by
  simp [isMatched, h, ← Visit.outcome_eq_matched_iff]

theorem isTimedOut_iff (h : o.fields = vs.map fun v => (v.field, v.outcome)) :
    o.isTimedOut ↔ ∃ v ∈ vs, ∃ t ∈ v.trials, t.isTimedOut := by
  simp [isTimedOut, h, ← Visit.outcome_eq_timedOut_iff]

theorem isFailed_iff (h : o.fields = vs.map fun v => (v.field, v.outcome)) :
    o.isFailed ↔ ¬ o.isMatched ∧ (vs = [] ∨ ∃ v ∈ vs,
      (∀ t ∈ v.trials, ¬ t.isMatched) ∧ ∀ t ∈ v.trials, ¬ t.isTimedOut) := by
  simp only [← Visit.outcome_eq_failed_iff]
  simp [isFailed, h]

end FilterOutcome

namespace Filter

/-- What the trials on a record make of it. The record counts as matched exactly if some field has
a match and no trial that ran out of time; it counts as failed exactly if it does not count as
matched and no field was tried, or a field had neither. Where there is a match, the record counts
as matched or as out of time, and where it counts as matched, it gets no tag but that of time. -/
theorem verdict_of_trials {σ : Type} (r : Runner σ) (f : Filter) (p : Progress σ) :
    ∃ vs : List Visit, (apply r f p).1.fields = vs.map (fun v => (v.field, v.outcome)) ∧
      (∀ before, apply r.recording f (p.recorded before) =
        ((apply r f p).1, (apply r f p).2.recorded (before ++ vs.flatMap Visit.trials))) ∧
      ((apply r f p).1.isMatched ↔ ∃ v ∈ vs, v.Matches) ∧
      ((apply r f p).1.isTimedOut ↔ ∃ t ∈ vs.flatMap Visit.trials, t.isTimedOut) ∧
      ((apply r f p).1.isFailed ↔ ¬ (apply r f p).1.isMatched ∧ (vs = [] ∨ ∃ v ∈ vs,
        (∀ t ∈ v.trials, ¬ t.isMatched) ∧ ∀ t ∈ v.trials, ¬ t.isTimedOut)) ∧
      ((∃ t ∈ vs.flatMap Visit.trials, t.isMatched) →
        (apply r f p).1.isMatched ∨ (apply r f p).1.isTimedOut) ∧
      ((apply r f p).1.isMatched → ¬ (apply r f p).1.isFailed ∧
        let e := written f.options p.event (vs.flatMap Visit.trials)
        (apply r f p).2.event =
          if (apply r f p).1.isTimedOut then e.tag f.options.timeoutTag else e) := by
  obtain ⟨vs, -, hfields, hrec, hevent⟩ := exists_visits r f p
  have hmatched := FilterOutcome.isMatched_iff hfields
  have htimed := FilterOutcome.isTimedOut_iff hfields
  have hfailed := FilterOutcome.isFailed_iff hfields
  refine ⟨vs, hfields, hrec, hmatched, ?_, hfailed, ?_, fun h => ?_⟩
  · rw [htimed]
    constructor
    · rintro ⟨v, hv, t, ht, h⟩
      exact ⟨t, List.mem_flatMap.2 ⟨v, hv, ht⟩, h⟩
    · rintro ⟨t, ht, h⟩
      obtain ⟨v, hv, ht⟩ := List.mem_flatMap.1 ht
      exact ⟨v, hv, t, ht, h⟩
  · rw [hmatched, htimed]
    rintro ⟨t, ht, htm⟩
    obtain ⟨v, hv, ht⟩ := List.mem_flatMap.1 ht
    by_cases hlate : ∃ t ∈ v.trials, t.isTimedOut
    · exact .inr ⟨v, hv, hlate⟩
    · exact .inl ⟨v, hv, ⟨t, ht, htm⟩, by simpa using hlate⟩
  · have hno : ¬ (apply r f p).1.isFailed := fun hf => (hfailed.1 hf).1 h
    refine ⟨hno, ?_⟩
    rw [hevent, tagEvent]
    exact if_neg hno

/-- Every attempt on a text comes out as the script says. -/
def scripted (script : String → MatchOutcome) : Runner Unit where
  deadline _ := .unbounded
  run _ _ text _ := (script text, [], ())

/-- The first text of a field matches and the second runs out of time, and another field does not
match: the match is forgotten, and the record gets the tag of failure. -/
theorem exists_match_forgotten :
    let m : Matcher := ⟨"", "", .empty, []⟩
    let f : Filter := ⟨{ Options.initial with breakOnMatch := false }, .empty,
      [⟨"message", [m]⟩, ⟨"other", [m]⟩]⟩
    let r : Runner Unit := scripted fun text =>
      if text = "b" then .matched [⟨"q", some (.string "b")⟩]
      else if text = "no digits" then .notMatched
      else .timedOut ⟨150000000⟩
    let p : Progress Unit := ⟨⟨[("message", .array [.string "b", .string "ac"]),
      ("other", .string "no digits")]⟩, (), []⟩
    ((apply r.recording f (p.recorded [])).2.state.2.any Trial.isMatched) = true ∧
      (apply r f p).1.isMatched = false ∧ (apply r f p).1.isFailed = true ∧
      (apply r f p).2.event.contains "q" = true ∧
      (apply r f p).2.event.tags = ["_groktimeout", "_grokparsefailure"] := by
  decide +kernel

end Filter

end Grok
