import Grok.Regex.Node
/-!
The groups of an expression, as its tokens open them. Main statement: the tree of a list of tokens
has a group for every token that opens a capturing one, in the same order.
-/
namespace Grok.Regex

/-- The name of the group that a token opens, if it opens one that captures. -/
def Token.capture? : Token → Option (Option String)
  | .opening (.capture name) => some name
  | _ => none

namespace Node

variable {a b : Node} {q : Quantifier} {number : Nat} {name : Option String} {behind neg : Bool}

/-- The names of the capturing groups, from left to right, an outer one before those in it. -/
def names (n : Node) : List (Option String) := n.groups.map (·.2)

@[simp] theorem names_empty : names .empty = [] := rfl

@[simp] theorem names_group : names (.group number name a) = name :: a.names := rfl

@[simp] theorem names_look : names (.look behind neg a) = a.names := rfl

@[simp] theorem names_both : names (.both a b) = a.names ++ b.names := List.map_append

@[simp] theorem names_either : names (.either a b) = a.names ++ b.names := List.map_append

@[simp] theorem names_loop : names (.loop q a) = a.names := rfl

theorem groupNames_eq (n : Node) : n.groupNames = n.names.filterMap id := by
  rw [groupNames, names, List.filterMap_map]
  rfl

end Node

/-! ### Frames -/

namespace Frame

variable {f f' g : Frame} {fs : List Frame} {t : Term} {q : Quantifier} {o : Opening} {k : Nat}

theorem names_foldl_both (ts : List Term) (n : Node) :
    (ts.foldl (fun n t => .both t.node n) n).names =
      ts.reverse.flatMap (·.node.names) ++ n.names := by
  induction ts generalizing n with
  | nil => rfl
  | cons t ts ih => rw [List.foldl_cons, ih]; simp

theorem names_sequence (ts : List Term) :
    (sequence ts).names = ts.reverse.flatMap (·.node.names) := by
  cases ts with
  | nil => rfl
  | cons t ts => rw [sequence, names_foldl_both]; simp

theorem names_foldl_either (as : List Node) (n : Node) :
    (as.foldl (fun n a => .either a n) n).names = as.reverse.flatMap Node.names ++ n.names := by
  induction as generalizing n with
  | nil => rfl
  | cons a as ih => rw [List.foldl_cons, ih]; simp

theorem names_body (f : Frame) :
    f.body.names =
      f.alternatives.reverse.flatMap Node.names ++ f.terms.reverse.flatMap (·.node.names) := by
  rw [body, names_foldl_either, names_sequence]

theorem names_body_push : (f.push t).body.names = f.body.names ++ t.node.names := by
  simp [names_body, push]

theorem names_body_next : f.next.body.names = f.body.names ++ [] := by
  simp [names_body, next, names_sequence]

theorem quantify_eq_ok (h : f.quantify q = .ok f') :
    ∃ t ts, f.terms = t :: ts ∧ f' = { f with terms := ⟨.loop q t.node, false⟩ :: ts } := by
  unfold quantify at h
  split at h
  · cases h
  · split at h
    · next t ts hterms =>
      split at h
      · cases h
        exact ⟨t, ts, hterms, rfl⟩
      · cases h
    · cases h

/-- What a closed group opened: itself if it captures, and what is in it. -/
theorem names_close (f : Frame) :
    f.close.node.names = (Token.opening f.opening).capture?.toList ++ f.body.names := by
  unfold close
  split <;> next h => simp [h, Token.capture?]

/-- The names of the groups opened so far, by a frame and by those around it. -/
def opened (f : Frame) : List Frame → List (Option String)
  | [] => f.body.names
  | g :: fs => g.opened fs ++ f.close.node.names

/-- What comes into a frame comes behind all that has been opened before. -/
theorem opened_of_body {ns : List (Option String)} (h : f'.body.names = f.body.names ++ ns)
    (ho : f'.opening = f.opening) : f'.opened fs = f.opened fs ++ ns := by
  cases fs with
  | nil => exact h
  | cons g fs => rw [opened, opened, names_close, names_close, ho, h]; simp

theorem opened_push : (f.push t).opened fs = f.opened fs ++ t.node.names :=
  opened_of_body names_body_push rfl

theorem opened_next : f.next.opened fs = f.opened fs ++ [] := opened_of_body names_body_next rfl

theorem opened_quantify (h : f.quantify q = .ok f') : f'.opened fs = f.opened fs ++ [] := by
  obtain ⟨t, ts, hterms, rfl⟩ := quantify_eq_ok h
  exact opened_of_body (by simp [names_body, hterms]) rfl

theorem opened_inside : (f.inside o k).opened (f :: fs) =
    f.opened fs ++ (Token.opening o).capture?.toList := by
  rw [opened, names_close]
  exact congrArg _ (List.append_nil _)

end Frame

/-! ### Drafts -/

namespace Draft

variable {d d' : Draft} {t : Token} {ts : List Token}

/-- The names of the groups opened so far. -/
def opened (d : Draft) : List (Option String) := d.top.opened d.outer

/-- A token adds the group that it opens, behind the others. -/
theorem opened_add (h : d.add t = .ok d') : d'.opened = d.opened ++ t.capture?.toList := by
  cases t with
  | point | any | shorthand | charClass | start | stop | edge | backReference =>
    cases h
    exact Frame.opened_push
  | bar =>
    cases h
    exact Frame.opened_next
  | quantifier q =>
    simp only [add] at h
    split at h
    · cases h
    · cases hq : d.top.quantify q with
      | error => rw [hq] at h; cases h
      | ok f =>
        rw [hq] at h
        cases h
        exact Frame.opened_quantify hq
  | opening o =>
    simp only [add] at h
    split at h
    all_goals
      split at h
      · cases h
      · cases h
        exact Frame.opened_inside
  | closing =>
    simp only [add] at h
    split at h
    · next f fs hout =>
      cases h
      rw [opened, opened, hout, Frame.opened_push, Frame.opened]
      exact (List.append_nil _).symm
    · cases h

theorem opened_foldlM (h : ts.foldlM add d = .ok d') :
    d'.opened = d.opened ++ ts.filterMap Token.capture? := by
  induction ts generalizing d with
  | nil =>
    cases h
    exact (List.append_nil _).symm
  | cons t ts ih =>
    rw [List.foldlM_cons] at h
    cases hadd : d.add t with
    | error => rw [hadd] at h; cases h
    | ok d₁ =>
      rw [hadd] at h
      rw [ih h, opened_add hadd, List.append_assoc]
      cases hc : t.capture? <;> simp [hc]

end Draft

/-- The groups of a tree are those that its tokens open. -/
theorem Node.names_ofTokens {n : Node} {ts : List Token} (h : Node.ofTokens ts = .ok n) :
    n.names = ts.filterMap Token.capture? := by
  unfold ofTokens at h
  cases hd : ts.foldlM Draft.add .initial with
  | error => rw [hd] at h; cases h
  | ok d =>
    rw [hd] at h
    change (if d.outer.isEmpty then Except.ok d.top.body else .error Fault.unclosedGroup) = _ at h
    split at h
    · next hout =>
      cases h
      have hopened := Draft.opened_foldlM hd
      rw [Draft.opened, List.isEmpty_iff.1 hout] at hopened
      exact hopened
    · cases h

end Grok.Regex
