import Grok.Matcher
/-!
Limits of steps. Within its limit a search answers as it would without one.
-/
namespace Grok.Regex

/-- The first answer is the second, unless the steps ran out. -/
inductive Answer.Under : Answer → Answer → Prop
  | exhausted {b : Answer} : Under .exhausted b
  | refl (a : Answer) : Under a a

/-- What is left answers under a limit as it does without. -/
def Rest.Under (k l : Rest) : Prop := ∀ i bs steps, (k i bs steps).Under (l i bs steps)

variable {text : Array Char} {limit : Option Nat} {k l : Rest} {d : Direction} {a b : Answer}

theorem Answer.Under.orElse {f g : Nat → Answer} (h : a.Under b)
    (hf : ∀ steps, (f steps).Under (g steps)) : (orElse a f).Under (orElse b g) := by
  cases h with
  | exhausted => exact .exhausted
  | refl =>
    cases a with
    | failed steps => exact hf steps
    | matched | exhausted => exact .refl _

theorem Answer.Under.ite {p : Prop} [Decidable p] {a' b' : Answer} (h : a.Under b)
    (h' : a'.Under b') : (if p then a else a').Under (if p then b else b') := by
  split
  · exact h
  · exact h'

theorem under_step {f g : Nat → Answer} (h : ∀ steps, (f steps).Under (g steps)) (steps : Nat) :
    (step ⟨text, limit⟩ steps f).Under (step ⟨text, none⟩ steps g) := by
  unfold step
  split
  · exact .exhausted
  · exact h _

theorem under_require {f g : Nat → Answer} (h : ∀ steps, (f steps).Under (g steps)) (p : Bool)
    (steps : Nat) :
    (require ⟨text, limit⟩ p steps f).Under (require ⟨text, none⟩ p steps g) := by
  refine under_step (fun steps => ?_) steps
  cases p with
  | true => exact h steps
  | false => exact .refl _

theorem runLength_limit (test : CharTest) (i left found : Nat) :
    runLength ⟨text, limit⟩ d test i left found = runLength ⟨text, none⟩ d test i left found := by
  induction left generalizing i found with
  | zero => rfl
  | succ left ih =>
    simp only [runLength, ih]
    rfl

theorem under_fromLongest (h : k.Under l) (least extra : Nat) :
    (fromLongest ⟨text, limit⟩ d k least extra).Under
      (fromLongest ⟨text, none⟩ d l least extra) := by
  intro i bs steps
  induction extra generalizing steps with
  | zero => exact under_step (h _ bs) steps
  | succ extra ih => exact (under_step (h _ bs) steps).orElse ih

theorem under_fromShortest (h : k.Under l) (least extra : Nat) :
    (fromShortest ⟨text, limit⟩ d k least extra).Under
      (fromShortest ⟨text, none⟩ d l least extra) := by
  intro i bs steps
  induction extra generalizing least steps with
  | zero => exact under_step (h _ bs) steps
  | succ extra ih => exact (under_step (h _ bs) steps).orElse (ih (least + 1))

theorem Direction.room_limit (i : Nat) : d.room ⟨text, limit⟩ i = d.room ⟨text, none⟩ i := rfl

theorem under_runs (h : k.Under l) (test : CharTest) (q : Quantifier) :
    Rest.Under (runs ⟨text, limit⟩ d test q k) (runs ⟨text, none⟩ d test q l) := by
  intro i bs steps
  simp only [runs, runLength_limit, Direction.room_limit]
  refine under_step (fun steps => .ite (.refl _) (.ite ?_ ?_)) _
  · exact under_fromLongest h _ _ i bs steps
  · exact under_fromShortest h _ _ i bs steps

theorem under_iterate {body body' : Rest → Rest}
    (hbody : ∀ k l : Rest, k.Under l → Rest.Under (body k) (body' l)) (h : k.Under l)
    (inner : List Nat) (greedy : Bool) (least : Nat) (most : Option Nat) :
    Rest.Under (iterate ⟨text, limit⟩ d body inner greedy k least most)
      (iterate ⟨text, none⟩ d body' inner greedy l least most) := by
  intro i bs steps
  induction least, most, i, bs, steps using iterate.induct ⟨text, limit⟩ d with
  | case1 least most i bs steps ih =>
    -- One more round, which both sides admit or refuse alike: the room does not know the limit.
    have next : Rest.Under
        (fun j bs steps =>
          if least ≠ 0 ∨ d.room ⟨text, limit⟩ j < d.room ⟨text, limit⟩ i then
            iterate ⟨text, limit⟩ d body inner greedy k (least - 1) (most.map (· - 1)) j bs steps
          else .failed steps)
        (fun j bs steps =>
          if least ≠ 0 ∨ d.room ⟨text, none⟩ j < d.room ⟨text, none⟩ i then
            iterate ⟨text, none⟩ d body' inner greedy l (least - 1) (most.map (· - 1)) j bs steps
          else .failed steps) := by
      intro j bs steps
      by_cases hj : least ≠ 0 ∨ d.room ⟨text, limit⟩ j < d.room ⟨text, limit⟩ i
      · have hj' : least ≠ 0 ∨ d.room ⟨text, none⟩ j < d.room ⟨text, none⟩ i := hj
        simp only [if_pos hj, if_pos hj']
        exact ih j bs steps hj
      · have hj' : ¬ (least ≠ 0 ∨ d.room ⟨text, none⟩ j < d.room ⟨text, none⟩ i) := hj
        simp only [if_neg hj, if_neg hj']
        exact .refl _
    rw [iterate, iterate]
    refine under_step (fun steps => ?_) steps
    have again (steps : Nat) := hbody _ _ next i (bs.clear inner) steps
    refine .ite (.ite (.refl _) (again steps)) (.ite ?_ ?_)
    · exact (Answer.Under.ite (.refl _) (again steps)).orElse fun steps => h i bs steps
    · exact (h i bs steps).orElse fun steps => .ite (.refl _) (again steps)

theorem Node.under_attempt (n : Node) (h : k.Under l) :
    Rest.Under (n.attempt ⟨text, limit⟩ d k) (n.attempt ⟨text, none⟩ d l) := by
  induction n generalizing d k l with
  | empty => exact h
  | char test | start | stop | edge => exact fun i bs => under_require (h _ bs) _
  | backReference group =>
    intro i bs steps
    simp only [attempt]
    split
    · exact under_step (h _ bs) steps
    · exact under_require (h _ bs) _ steps
  | group number name body ih =>
    intro i bs steps
    exact ih (fun j bs steps => h j (bs.bind number (.between i j)) steps) i bs steps
  | look behind negated body ih =>
    intro i bs steps
    refine under_step (fun steps => ?_) steps
    have hlook := ih (k := .matched) (l := .matched)
      (d := if behind then .backward else .forward) (fun _ _ _ => .refl _) i bs steps
    generalize body.attempt ⟨text, limit⟩ _ .matched i bs steps = a at hlook ⊢
    generalize body.attempt ⟨text, none⟩ _ .matched i bs steps = b at hlook ⊢
    cases hlook with
    | exhausted => exact .exhausted
    | refl =>
      cases a with
      | matched stop bs' steps => exact .ite (.refl _) (h i bs' steps)
      | failed steps => exact .ite (h i bs steps) (.refl _)
      | exhausted => exact .exhausted
  | both a b iha ihb =>
    cases d with
    | forward => exact iha (ihb h)
    | backward => exact ihb (iha h)
  | either a b iha ihb => exact fun i bs steps => (iha h i bs steps).orElse (ihb h i bs)
  | loop q body ih =>
    cases body with
    | char test => exact under_runs h test q
    | _ => exact under_iterate (fun _ _ => ih) h _ _ _ _

variable (text limit)

theorem Node.under_attempt_matched (n : Node) (i : Nat) (bs : Bindings) (steps : Nat) :
    (n.attempt ⟨text, limit⟩ d .matched i bs steps).Under
      (n.attempt ⟨text, none⟩ d .matched i bs steps) :=
  n.under_attempt (fun _ _ _ => .refl _) i bs steps

/-- A search that gets to its answer within a limit gets to the same one without. -/
theorem searchFrom_limit (n : Node) (i left steps : Nat)
    (h : searchFrom ⟨text, limit⟩ n i left steps ≠ .exhausted) :
    searchFrom ⟨text, none⟩ n i left steps = searchFrom ⟨text, limit⟩ n i left steps := by
  induction left generalizing i steps with
  | zero =>
    have hn := n.under_attempt_matched text limit (d := .forward) i [] steps
    rw [searchFrom] at h ⊢
    rw [searchFrom]
    generalize n.attempt ⟨text, limit⟩ .forward .matched i [] steps = a at hn h ⊢
    generalize n.attempt ⟨text, none⟩ .forward .matched i [] steps = b at hn ⊢
    cases hn with
    | exhausted => exact absurd rfl h
    | refl => rfl
  | succ left ih =>
    have hn := n.under_attempt_matched text limit (d := .forward) i [] steps
    rw [searchFrom] at h ⊢
    rw [searchFrom]
    generalize n.attempt ⟨text, limit⟩ .forward .matched i [] steps = a at hn h ⊢
    generalize n.attempt ⟨text, none⟩ .forward .matched i [] steps = b at hn ⊢
    cases hn with
    | exhausted => exact absurd rfl h
    | refl =>
      cases a with
      | failed steps => exact ih _ steps h
      | matched | exhausted => rfl

theorem search_limit (n : Node) (h : search ⟨text, limit⟩ n ≠ .exhausted) :
    search ⟨text, none⟩ n = search ⟨text, limit⟩ n :=
  searchFrom_limit text limit n.pruned 0 text.size 0 h

end Grok.Regex

namespace Grok.Matcher

variable {m : Matcher} {text : String}

theorem attempt_none {limit : Option Nat} {captures : Option (List Capture)} {steps : Nat}
    (h : m.attempt limit text = .done captures steps) :
    m.attempt none text = .done captures steps := by
  have hs : Regex.search ⟨text.toList.toArray, limit⟩ m.regex ≠ .exhausted := by
    intro hs
    simp only [attempt, hs] at h
    cases h
  rw [← h]
  simp only [attempt, Regex.search_limit _ limit _ hs]

theorem execute_of_attempt {limit : Option Nat} {captures : Option (List Capture)} {steps : Nat}
    (h : m.attempt limit text = .done captures steps) : m.execute text = captures := by
  rw [execute, attempt_none h]

end Grok.Matcher
