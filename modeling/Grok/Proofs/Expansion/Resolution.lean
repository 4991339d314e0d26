import Mathlib
import Grok.Proofs.Expansion.Tree
import Grok.Proofs.Library.Definitions
/-!
What the references of a pattern stand for. A reference that defines its name in place stands for
its definition. Any other stands for the last definition of its name on the way to it, in the
pattern or in a body that was put in place, and for what the name means in the pattern as long as
there is none. Main statement: two references to one name stand for the same text exactly if no
other definition of the name is in force between them.
-/
namespace Grok

namespace Expansion

/-- The references of a tree with the texts put in their places, from the outside in and from left
to right. -/
def Tree.resolved : Tree → List (Reference × String)
  | .nil => []
  | .plain _ t => t.resolved
  | .group r _ b t => (r, String.ofList (Piece.toText b.pieces)) :: (b.resolved ++ t.resolved)

/-- The definitions in place of some references. -/
def definitionsOf (rs : List (Reference × String)) : List (String × String) :=
  rs.filterMap fun (r, _) => r.definition.map fun d => (r.key, String.ofList d)

/-- What a reference stands for behind some definitions, where names mean something by
themselves. -/
def standsFor (meaning : String → Option String) (met : List (String × String)) (r : Reference) :
    Option String :=
  match r.definition with
  | some d => some (String.ofList d)
  | none => (lastOf r.key met).or (meaning r.key)

/-- One after the other, references stand for the texts in their places. Each finds the
definitions in place of those before it. -/
def Follows (meaning : String → Option String) (met : List (String × String)) :
    List (Reference × String) → Prop
  | [] => True
  | (r, body) :: rs =>
    standsFor meaning met r = some body ∧ Follows meaning (met ++ definitionsOf [(r, body)]) rs

/-- A state finds the last definition of a name, and what the name means if there is none. -/
def Setting.Finds (s : Setting) (meaning : String → Option String) (met : List (String × String))
    (st : State) : Prop :=
  ∀ name, s.resolve st name = (lastOf name met).or (meaning name)

variable {meaning : String → Option String} {met : List (String × String)}
  {rs rs' before between after : List (Reference × String)} {r r' : Reference}
  {body body' : String} {s : Setting} {st st' : State} {t : Tree}

theorem definitionsOf_append :
    definitionsOf (rs ++ rs') = definitionsOf rs ++ definitionsOf rs' :=
  List.filterMap_append

theorem definitionsOf_cons (p : Reference × String) (rs : List (Reference × String)) :
    definitionsOf (p :: rs) = definitionsOf [p] ++ definitionsOf rs := by
  rw [← List.singleton_append, definitionsOf_append]

theorem definitionsOf_plain (hr : r.definition = none) : definitionsOf [(r, body)] = [] := by
  simp [definitionsOf, hr]

theorem standsFor_plain (hr : r.definition = none) :
    standsFor meaning met r = (lastOf r.key met).or (meaning r.key) := by
  rw [standsFor, hr]

theorem follows_append :
    Follows meaning met (rs ++ rs') ↔
      Follows meaning met rs ∧ Follows meaning (met ++ definitionsOf rs) rs' := by
  induction rs generalizing met with
  | nil => simp [Follows, definitionsOf]
  | cons p rs ih =>
    rw [List.cons_append, Follows, Follows, ih, definitionsOf_cons p rs, List.append_assoc,
      and_assoc]

theorem Follows.standsFor_eq (h : Follows meaning met (before ++ (r, body) :: after)) :
    standsFor meaning (met ++ definitionsOf before) r = some body :=
  (follows_append.1 h).2.1

/-- A reference without a definition finds another text than one before it exactly if a definition
between them says so. -/
theorem Follows.eq_iff
    (h : Follows meaning met (before ++ (r, body) :: between ++ (r', body') :: after))
    (hr : r.definition = none) (hr' : r'.definition = none) (hname : r'.key = r.key) :
    body' = body ↔ ∀ d, lastOf r.key (definitionsOf between) = some d → d = body := by
  have hsecond := h.standsFor_eq
  rw [List.append_assoc, List.cons_append] at h
  have hfirst := h.standsFor_eq
  rw [standsFor_plain hr] at hfirst
  rw [standsFor_plain hr', hname, definitionsOf_append, definitionsOf_cons, definitionsOf_plain hr,
    List.nil_append, ← List.append_assoc, lastOf_append, Option.or_assoc, hfirst] at hsecond
  cases hlast : lastOf r.key (definitionsOf between) with
  | none =>
    rw [hlast] at hsecond
    cases hsecond
    simp
  | some d =>
    rw [hlast] at hsecond
    cases hsecond
    simp

theorem Setting.Finds.body_eq_ok (h : s.Finds meaning met st) {text : List Char} {st₁ : State}
    (hbody : s.body r st = .ok (text, st₁)) :
    standsFor meaning met r = some (String.ofList text) ∧
      s.Finds meaning (met ++ definitionsOf [(r, String.ofList text)]) st₁ := by
  unfold Setting.body at hbody
  split at hbody
  · next hr =>
    cases hbody
    refine ⟨by rw [standsFor, hr], fun name => ?_⟩
    have hdefinition : definitionsOf [(r, String.ofList text)] = [(r.key, String.ofList text)] := by
      simp [definitionsOf, hr]
    have hrest := h name
    rw [Setting.resolve, Option.orElse_eq_or] at hrest ⊢
    rw [hdefinition, lastOf_append, Option.or_assoc, ← hrest, Table.get?_put, lastOf, lastOf]
    split <;> rfl
  · next hr =>
    dsimp only at hbody
    rw [h r.key] at hbody
    split at hbody
    · next found hfound =>
      cases hbody
      rw [standsFor_plain hr, definitionsOf_plain hr, List.append_nil, hfound,
        String.ofList_toList]
      exact ⟨rfl, h⟩
    · cases hbody

theorem Setting.Finds.number (h : s.Finds meaning met st) (target : Option Target) :
    s.Finds meaning met (st.number target).2 := by
  cases target <;> exact h

/-- What a tree puts in place follows from the definitions before it, and its own definitions are
in force behind it. -/
theorem Setting.Unfolds.follows (h : s.Unfolds st t st') (hst : s.Finds meaning met st) :
    Follows meaning met t.resolved ∧ s.Finds meaning (met ++ definitionsOf t.resolved) st' := by
  induction h generalizing met with
  | nil => exact ⟨trivial, by simpa [Tree.resolved, definitionsOf] using hst⟩
  | plain _ ih => exact ih hst
  | @group r text target b t st st₁ st₂ st' hbody _ hb _ _ ihb ih =>
    have htext : Piece.toText b.pieces = text := by rw [hb, Piece.toText_ofText]
    obtain ⟨hr, hst₁⟩ := hst.body_eq_ok hbody
    obtain ⟨hfollowsb, hst₂⟩ := ihb (hst₁.number target)
    obtain ⟨hfollows, hst'⟩ := ih hst₂
    rw [Tree.resolved, htext]
    refine ⟨⟨hr, follows_append.2 ⟨hfollowsb, hfollows⟩⟩, ?_⟩
    rwa [definitionsOf_cons, definitionsOf_append, ← List.append_assoc, ← List.append_assoc]

end Expansion

namespace Library

open Expansion

/-- What a name means in a pattern: its last definition in the pattern's own text, or else the body
it has in the library. -/
def meaning (l : Library) (pattern : String) (name : String) : Option String :=
  ((localDefinitions (Piece.ofText pattern.toList)).get? name).or (l.resolve name)

variable {l : Library} {namedOnly : Bool} {pattern : String} {t : Tree} {st : State}

theorem Unfolds.follows (h : l.Unfolds namedOnly pattern t st) :
    Follows (l.meaning pattern) [] t.resolved := by
  refine (h.2.follows fun name => ?_).1
  rw [Expansion.Setting.resolve, Option.orElse_eq_or, h.1]
  rfl

/-- A definition in a body of the library is in force behind the reference to that body. -/
theorem exists_unfolds_leaking :
    ∃ t st, Unfolds ⟨[("A", "%{X=1}"), ("X", "0")]⟩ true "%{X}%{A}%{X}" t st ∧
      t.resolved = [(⟨"X".toList, none, none, none⟩, "0"),
        (⟨"A".toList, none, none, none⟩, "%{X=1}"), (⟨"X".toList, none, none, some "1".toList⟩, "1"),
        (⟨"X".toList, none, none, none⟩, "1")] := by
  obtain ⟨s, hs⟩ : ∃ s : Expansion.Setting,
    s = ⟨⟨[("A", "%{X=1}"), ("X", "0")]⟩, true, "%{X}%{A}%{X}"⟩ := ⟨_, rfl⟩
  have hfirst : s.body ⟨"X".toList, none, none, none⟩ ⟨[], [], 0⟩ =
      .ok ("0".toList, ⟨[], [], 0⟩) := by
    subst hs
    cbv
  have hA : s.body ⟨"A".toList, none, none, none⟩ ⟨[], [], 0⟩ =
      .ok ("%{X=1}".toList, ⟨[], [], 0⟩) := by
    subst hs
    cbv
  have hdefinition : s.body ⟨"X".toList, none, none, some "1".toList⟩ ⟨[], [], 0⟩ =
      .ok ("1".toList, ⟨[("X", "1")], [], 0⟩) := by
    cbv
  have hlast : s.body ⟨"X".toList, none, none, none⟩ ⟨[("X", "1")], [], 0⟩ =
      .ok ("1".toList, ⟨[("X", "1")], [], 0⟩) := by
    cbv
  have hfeeds (r : Reference) (hr : r.field = none) : s.target r = .ok none := by
    rw [Expansion.Setting.target, hr, hs]
    rfl
  have hone (st : State) : s.Unfolds st (.plain '1' .nil) st := .plain .nil
  obtain ⟨t, ht⟩ : ∃ t, t = Tree.group ⟨"X".toList, none, none, none⟩ none (.plain '0' .nil)
    (.group ⟨"A".toList, none, none, none⟩ none
      (.group ⟨"X".toList, none, none, some "1".toList⟩ none (.plain '1' .nil) .nil)
      (.group ⟨"X".toList, none, none, none⟩ none (.plain '1' .nil) .nil)) := ⟨_, rfl⟩
  have hunfolds : s.Unfolds ⟨[], [], 0⟩ t ⟨[("X", "1")], [], 0⟩ := by
    subst ht
    exact .group hfirst (hfeeds _ rfl) (by cbv) (.plain .nil)
      (.group hA (hfeeds _ rfl) (by cbv)
        (.group hdefinition (hfeeds _ rfl) (by cbv) (hone _) .nil)
        (.group hlast (hfeeds _ rfl) (by cbv) (hone _) .nil))
  have hpieces : t.pieces = Piece.ofText "%{X}%{A}%{X}".toList := by
    subst ht
    cbv
  have hdefinitions : localDefinitions t.pieces = [] := by
    subst ht
    cbv
  refine ⟨t, ⟨[("X", "1")], [], 0⟩, ⟨hpieces, ?_⟩, ?_⟩
  · rw [hdefinitions, ← hs]
    exact hunfolds
  · subst ht
    cbv

/-- What the references of a pattern stand for. A definition in place is in force behind it, also
if it stands in a body that was put in place, and takes the place of what the name means in the
pattern. So references to one name stand for the same text exactly if none between them is in
force that says something else, and all of them stand for what the name means in the pattern if
every definition of it in the tree says just that. -/
theorem standsFor_of_expand {x : Expanded} (h : l.expand namedOnly pattern = .ok x) :
    ∃ t st, l.Unfolds namedOnly pattern t st ∧ x.expression.toList = t.output ∧
      (∀ before r body after, t.resolved = before ++ (r, body) :: after →
        standsFor (l.meaning pattern) (definitionsOf before) r = some body) ∧
      (∀ before r body between r' body' after,
        t.resolved = before ++ (r, body) :: between ++ (r', body') :: after →
        r.definition = none → r'.definition = none → r'.key = r.key →
        (body' = body ↔ ∀ d, lastOf r.key (definitionsOf between) = some d → d = body)) ∧
      ∀ name, (∀ d ∈ definitionsOf t.resolved, d.1 = name → l.meaning pattern name = some d.2) →
        ∀ r body, (r, body) ∈ t.resolved → r.definition = none → r.key = name →
          l.meaning pattern name = some body := by
  obtain ⟨t, st, hu, -, -, rfl⟩ := expand_eq_ok_iff.1 h
  have hfollows := hu.follows
  refine ⟨t, st, hu, String.toList_ofList, ?_, ?_, ?_⟩
  · intro before r body after ht
    rw [ht] at hfollows
    exact hfollows.standsFor_eq
  · intro before r body between r' body' after ht hr hr' hname
    rw [ht] at hfollows
    exact hfollows.eq_iff hr hr' hname
  · rintro _ hdefinitions r body hmem hr rfl
    obtain ⟨before, after, ht⟩ := List.append_of_mem hmem
    rw [ht] at hfollows hdefinitions
    have hbody := hfollows.standsFor_eq
    rw [standsFor_plain hr, List.nil_append] at hbody
    cases hlast : lastOf r.key (definitionsOf before) with
    | none => rwa [hlast, Option.none_or] at hbody
    | some d =>
      rw [hlast, Option.some_or, Option.some.injEq] at hbody
      obtain ⟨_, _, hbefore, -⟩ := lastOf_eq_some_iff.1 hlast
      refine hbody ▸ hdefinitions (r.key, d) ?_ rfl
      rw [definitionsOf_append, hbefore]
      simp

theorem standsFor_of_expand_leaking :
    let l : Library := ⟨[("A", "%{X=1}"), ("X", "0")]⟩
    let X : Reference := ⟨"X".toList, none, none, none⟩
    l.expand true "%{X}%{A}%{X}" = .ok ⟨"(?:0)(?:(?:1))(?:1)", []⟩ ∧
      standsFor (l.meaning "%{X}%{A}%{X}") [] X = some "0" ∧
      standsFor (l.meaning "%{X}%{A}%{X}") [("X", "1")] X = some "1" ∧
      ¬ ∀ d, lastOf X.key [("X", "1")] = some d → d = "0" := by
  intro l X
  have hexpand : l.expand true "%{X}%{A}%{X}" = .ok ⟨"(?:0)(?:(?:1))(?:1)", []⟩ := by cbv
  obtain ⟨u, st, hu, hresolved⟩ := exists_unfolds_leaking
  obtain ⟨t, st', ht, -, hstands, hsame, -⟩ := standsFor_of_expand hexpand
  obtain ⟨rfl, -⟩ := ht.unique hu
  have hfirst := hstands [] _ _ _ hresolved
  have hlast := hstands (_ :: _ :: [_]) _ _ [] hresolved
  have hdiffer := hsame [] _ _ (_ :: [_]) _ _ [] hresolved rfl rfl rfl
  exact ⟨hexpand, hfirst, hlast, fun h => absurd (hdiffer.2 h) (by decide)⟩

/-- Two references to one name in a pattern need not stand for the same text. -/
theorem exists_two_bodies :
    ¬ ∀ (l : Library) (namedOnly : Bool) (pattern : String) (x : Expanded) (t : Tree) (st : State),
      l.expand namedOnly pattern = .ok x → l.Unfolds namedOnly pattern t st →
        ∀ r body r' body', (r, body) ∈ t.resolved → (r', body') ∈ t.resolved →
          r.definition = none → r'.definition = none → r'.key = r.key → body' = body := by
  intro h
  obtain ⟨t, st, hu, hresolved⟩ := exists_unfolds_leaking
  have hexpand : expand ⟨[("A", "%{X=1}"), ("X", "0")]⟩ true "%{X}%{A}%{X}" =
      .ok ⟨"(?:0)(?:(?:1))(?:1)", []⟩ := by cbv
  have hfirst : (⟨"X".toList, none, none, none⟩, "0") ∈ t.resolved := by simp [hresolved]
  have hlast : (⟨"X".toList, none, none, none⟩, "1") ∈ t.resolved := by simp [hresolved]
  exact absurd (h _ _ _ _ t st hexpand hu _ _ _ _ hfirst hlast rfl rfl rfl) (by decide)

end Library

end Grok
