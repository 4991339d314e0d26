import Grok.Expansion
import Grok.Proofs.Reference.Grammar
/-!
The tree of an expansion. It keeps, for every reference of a text, the expansion of the body that
was put in its place. Main statement: an expansion succeeds exactly if the text unfolds into a
tree in which no name stands inside itself and no reference stands too deep.
-/
namespace Grok

section Except

variable {ε α β : Type} {x : Except ε α} {f : α → Except ε β} {b : β} {e : ε}

theorem bind_eq_ok_iff : x >>= f = .ok b ↔ ∃ a, x = .ok a ∧ f a = .ok b := by
  cases x with
  | error e => exact ⟨nofun, fun ⟨_, h, _⟩ => nomatch h⟩
  | ok a => exact ⟨fun h => ⟨a, rfl, h⟩, fun ⟨_, h, h'⟩ => Except.ok.inj h ▸ h'⟩

theorem bind_eq_error_iff :
    x >>= f = .error e ↔ x = .error e ∨ ∃ a, x = .ok a ∧ f a = .error e := by
  cases x with
  | error d =>
    exact ⟨fun h => .inl (by cases h; rfl), fun h => by obtain h | ⟨_, h, _⟩ := h <;> cases h; rfl⟩
  | ok a =>
    refine ⟨fun h => .inr ⟨a, rfl, h⟩, fun h => ?_⟩
    obtain h | ⟨_, h, h'⟩ := h
    · cases h
    · exact Except.ok.inj h ▸ h'

end Except

/-- The name of a reference, as it stands in a library. -/
abbrev Reference.key (r : Reference) : String := String.ofList r.name

namespace Expansion

/-- A text with the expansions of its references. -/
inductive Tree where
  | nil
  | plain (c : Char) (rest : Tree)
  | group (r : Reference) (number : Option Nat) (body rest : Tree)

namespace Tree

/-- The text that is expanded. -/
def pieces : Tree → List Piece
  | .nil => []
  | .plain c t => .plain c :: t.pieces
  | .group r _ _ t => .reference r :: t.pieces

/-- The text that comes out. -/
def output : Tree → List Char
  | .nil => []
  | .plain c t => c :: t.output
  | .group _ k b t => wrap (k.map groupName) b.output ++ t.output

/-- The bodies that are put in place, from the outside in and from left to right. -/
def bodies : Tree → List (List Piece)
  | .nil => []
  | .plain _ t => t.bodies
  | .group _ _ b t => (b.pieces :: b.bodies) ++ t.bodies

/-- Below the names of the path, no name stands inside itself and no reference too deep. -/
def Fits (path : List String) : Tree → Prop
  | .nil => True
  | .plain _ t => t.Fits path
  | .group r _ b t =>
    r.key ∉ path ∧ path.length < maxExpansionDepth ∧ b.Fits (r.key :: path) ∧ t.Fits path

end Tree

/-- How a text unfolds, without regard to depth: every reference becomes a group around the body
that its name has at this point. -/
inductive Setting.Unfolds (s : Setting) : State → Tree → State → Prop
  | nil {st : State} : Unfolds s st .nil st
  | plain {c : Char} {t : Tree} {st st' : State} : Unfolds s st t st' →
      Unfolds s st (.plain c t) st'
  | group {r : Reference} {body : List Char} {target : Option Target} {b t : Tree}
      {st st₁ st₂ st' : State} : s.body r st = .ok (body, st₁) → s.target r = .ok target →
      b.pieces = Piece.ofText body → Unfolds s (st₁.number target).2 b st₂ → Unfolds s st₂ t st' →
      Unfolds s st (.group r (target.map fun _ => st₁.nextGroup) b t) st'

variable {s : Setting} {path : List String} {ps : List Piece} {st st' st'' : State}
  {out : List Char} {r : Reference} {c : Char} {t u : Tree}

theorem State.number_fst (st : State) (target : Option Target) :
    (st.number target).1 = (target.map fun _ => st.nextGroup).map groupName := by
  cases target <;> rfl

/-! ### Steps -/

/-- Induction along an expansion: over the pieces of a text, and for a reference over every text in
its place, as long as the path may grow. -/
@[elab_as_elim]
theorem expansion_induction {motive : List String → List Piece → Prop}
    (nil : ∀ path, motive path [])
    (plain : ∀ path c ps, motive path ps → motive path (.plain c :: ps))
    (reference : ∀ path r ps,
      (path.length < maxExpansionDepth → ∀ body, motive (r.key :: path) (Piece.ofText body)) →
      motive path ps → motive path (.reference r :: ps))
    (path : List String) (ps : List Piece) : motive path ps :=
  match ps with
  | [] => nil path
  | .plain c :: ps => plain path c ps (expansion_induction nil plain reference path ps)
  | .reference r :: ps =>
    reference path r ps (fun _ _ => expansion_induction nil plain reference _ _)
      (expansion_induction nil plain reference path ps)
termination_by (maxExpansionDepth - path.length, ps.length)
decreasing_by
  · exact .right _ (Nat.lt_succ_self _)
  · exact .left _ _ (by rw [List.length_cons]; omega)
  · exact .right _ (Nat.lt_succ_self _)

theorem expandPieces_plain_eq_ok_iff :
    expandPieces s path (.plain c :: ps) st = .ok (out, st') ↔
      ∃ rest, expandPieces s path ps st = .ok (rest, st') ∧ out = c :: rest := by
  rw [expandPieces, bind_eq_ok_iff]
  constructor
  · rintro ⟨⟨rest, st⟩, h, ⟨⟩⟩
    exact ⟨rest, h, rfl⟩
  · rintro ⟨rest, h, rfl⟩
    exact ⟨_, h, rfl⟩

/-- What it takes to expand a reference. -/
theorem expandPieces_reference_eq_ok_iff :
    expandPieces s path (.reference r :: ps) st = .ok (out, st') ↔
      (r.key ∉ path ∧ path.length < maxExpansionDepth) ∧
      ∃ body st₁ target inner st₂ rest, s.body r st = .ok (body, st₁) ∧ s.target r = .ok target ∧
        expandPieces s (r.key :: path) (Piece.ofText body) (st₁.number target).2 =
          .ok (inner, st₂) ∧
        expandPieces s path ps st₂ = .ok (rest, st') ∧
        out = wrap (st₁.number target).1 inner ++ rest := by
  rw [expandPieces]
  split
  · next hblocked =>
    simp only [Bool.or_eq_true, List.contains_iff_mem, decide_eq_true_eq] at hblocked
    constructor
    · intro h
      cases h
    · rintro ⟨⟨hname, hdepth⟩, -⟩
      obtain h | h := hblocked
      · exact absurd h hname
      · exact absurd hdepth (Nat.not_lt.2 h)
  · next hfree =>
    simp only [Bool.or_eq_true, List.contains_iff_mem, decide_eq_true_eq, not_or,
      Nat.not_le] at hfree
    simp only [bind_eq_ok_iff]
    constructor
    · rintro ⟨⟨body, st₁⟩, hbody, target, htarget, ⟨inner, st₂⟩, hinner, ⟨rest, st₃⟩, hrest, ⟨⟩⟩
      exact ⟨hfree, body, st₁, target, inner, st₂, rest, hbody, htarget, hinner, hrest, rfl⟩
    · rintro ⟨-, body, st₁, target, inner, st₂, rest, hbody, htarget, hinner, hrest, rfl⟩
      exact ⟨_, hbody, target, htarget, _, hinner, _, hrest, rfl⟩

theorem Setting.body_eq_error {e : Error} (h : s.body r st = .error e) :
    e = .unresolvedPattern r.key s.source := by
  unfold Setting.body at h
  split at h
  · cases h
  · dsimp only at h
    split at h
    · cases h
    · exact (Except.error.inj h).symm

theorem Setting.target_eq_error {e : Error} (h : s.target r = .error e) :
    ∃ type field, e = .unknownCoercion type field := by
  unfold Setting.target at h
  split at h
  · unfold Coercion.ofType at h
    split at h
    · cases h
    · split at h
      · cases h
      · exact ⟨_, _, (Except.error.inj h).symm⟩
  · cases h
  · cases h

theorem expandPieces_plain_eq_error {e : Error}
    (h : expandPieces s path (.plain c :: ps) st = .error e) :
    expandPieces s path ps st = .error e := by
  rw [expandPieces, bind_eq_error_iff] at h
  obtain h | ⟨_, _, h⟩ := h
  · exact h
  · cases h

/-- How the expansion of a reference fails: because of its place, because of its name or its type,
inside its body, or behind it. -/
theorem expandPieces_reference_eq_error {e : Error}
    (h : expandPieces s path (.reference r :: ps) st = .error e) :
    ((r.key ∈ path ∨ maxExpansionDepth ≤ path.length) ∧
      e = .cyclicReference s.source (path.length + 1)) ∨
    (e = .unresolvedPattern r.key s.source ∨ ∃ type field, e = .unknownCoercion type field) ∨
    ∃ body st₁ target, s.body r st = .ok (body, st₁) ∧
      (expandPieces s (r.key :: path) (Piece.ofText body) (st₁.number target).2 = .error e ∨
        ∃ inner st₂,
          expandPieces s (r.key :: path) (Piece.ofText body) (st₁.number target).2 =
            .ok (inner, st₂) ∧ expandPieces s path ps st₂ = .error e) := by
  rw [expandPieces] at h
  split at h
  · next hblocked =>
    simp only [Bool.or_eq_true, List.contains_iff_mem, decide_eq_true_eq] at hblocked
    exact .inl ⟨hblocked, (Except.error.inj h).symm⟩
  · simp only [bind_eq_error_iff] at h
    obtain h | ⟨⟨body, st₁⟩, hbody, h | ⟨target, -, h | ⟨⟨inner, st₂⟩, hinner, h | ⟨_, _, h⟩⟩⟩⟩ := h
    · exact .inr (.inl (.inl (Setting.body_eq_error h)))
    · exact .inr (.inl (.inr (Setting.target_eq_error h)))
    · exact .inr (.inr ⟨body, st₁, target, hbody, .inl h⟩)
    · exact .inr (.inr ⟨body, st₁, target, hbody, .inr ⟨inner, st₂, hinner, h⟩⟩)
    · cases h

theorem exists_tree (h : expandPieces s path ps st = .ok (out, st')) :
    ∃ t : Tree, t.pieces = ps ∧ t.output = out ∧ s.Unfolds st t st' ∧ t.Fits path := by
  induction path, ps using expansion_induction generalizing st out st' with
  | nil path =>
    rw [expandPieces] at h
    cases h
    exact ⟨.nil, rfl, rfl, .nil, trivial⟩
  | plain path c ps ih =>
    obtain ⟨rest, hrest, rfl⟩ := expandPieces_plain_eq_ok_iff.1 h
    obtain ⟨t, rfl, rfl, hu, hf⟩ := ih hrest
    exact ⟨.plain c t, rfl, rfl, .plain hu, hf⟩
  | reference path r ps ihbody ih =>
    obtain ⟨⟨hname, hdepth⟩, body, st₁, target, inner, st₂, rest, hbody, htarget, hinner, hrest,
      rfl⟩ := expandPieces_reference_eq_ok_iff.1 h
    obtain ⟨b, hb, rfl, hub, hfb⟩ := ihbody hdepth body hinner
    obtain ⟨t, rfl, rfl, hu, hf⟩ := ih hrest
    refine ⟨_, rfl, ?_, .group hbody htarget hb hub hu, hname, hdepth, hfb, hf⟩
    rw [State.number_fst]
    rfl

theorem Setting.Unfolds.expandPieces (hu : s.Unfolds st t st') (hf : t.Fits path) :
    expandPieces s path t.pieces st = .ok (t.output, st') := by
  induction hu generalizing path with
  | nil => rw [Tree.pieces, Expansion.expandPieces]; rfl
  | plain _ ih => exact expandPieces_plain_eq_ok_iff.2 ⟨_, ih hf, rfl⟩
  | group hbody htarget hb _ _ ihb ih =>
    obtain ⟨hname, hdepth, hfb, hf⟩ := hf
    have hinner := ihb hfb
    rw [hb] at hinner
    refine expandPieces_reference_eq_ok_iff.2
      ⟨⟨hname, hdepth⟩, _, _, _, _, _, _, hbody, htarget, hinner, ih hf, ?_⟩
    rw [State.number_fst]
    rfl

theorem expandPieces_eq_ok_iff :
    expandPieces s path ps st = .ok (out, st') ↔
      ∃ t : Tree, t.pieces = ps ∧ t.output = out ∧ s.Unfolds st t st' ∧ t.Fits path := by
  refine ⟨exists_tree, ?_⟩
  rintro ⟨t, rfl, rfl, hu, hf⟩
  exact hu.expandPieces hf

/-- A text unfolds in one way at most. -/
theorem Setting.Unfolds.unique (h : s.Unfolds st t st') (h' : s.Unfolds st u st'')
    (hp : t.pieces = u.pieces) : t = u ∧ st' = st'' := by
  induction h generalizing u st'' with
  | nil =>
    cases h' with
    | nil => exact ⟨rfl, rfl⟩
    | plain | group => cases hp
  | plain _ ih =>
    cases h' with
    | nil | group => cases hp
    | plain h' =>
      simp only [Tree.pieces, List.cons.injEq, Piece.plain.injEq] at hp
      obtain ⟨rfl, hp⟩ := hp
      obtain ⟨rfl, rfl⟩ := ih h' hp
      exact ⟨rfl, rfl⟩
  | group hbody htarget hb _ _ ihb ih =>
    cases h' with
    | nil | plain => cases hp
    | group hbody' htarget' hb' hub hu =>
      simp only [Tree.pieces, List.cons.injEq, Piece.reference.injEq] at hp
      obtain ⟨rfl, hp⟩ := hp
      cases hbody.symm.trans hbody'
      cases htarget.symm.trans htarget'
      obtain ⟨rfl, rfl⟩ := ihb hub (hb.trans hb'.symm)
      obtain ⟨rfl, rfl⟩ := ih hu hp
      exact ⟨rfl, rfl⟩

end Expansion

namespace Library

open Expansion

/-- The tree of a pattern, with what is kept track of at its end. -/
def Unfolds (l : Library) (namedOnly : Bool) (pattern : String) (t : Tree) (st : State) : Prop :=
  t.pieces = Piece.ofText pattern.toList ∧
    Setting.Unfolds ⟨l, namedOnly, pattern⟩ ⟨localDefinitions t.pieces, [], 0⟩ t st

variable {l : Library} {namedOnly : Bool} {pattern : String} {t u : Tree} {st st' : State}

theorem Unfolds.unique (h : l.Unfolds namedOnly pattern t st)
    (h' : l.Unfolds namedOnly pattern u st') : t = u ∧ st = st' := by
  have hpieces : t.pieces = u.pieces := h.1.trans h'.1.symm
  exact h.2.unique (hpieces ▸ h'.2) hpieces

/-- The errors of an expansion are those of its pieces, and that of a malformed reference. -/
theorem expand_eq_error {e : Error} (h : l.expand namedOnly pattern = .error e) :
    expandPieces ⟨l, namedOnly, pattern⟩ [] (Piece.ofText pattern.toList)
      ⟨localDefinitions (Piece.ofText pattern.toList), [], 0⟩ = .error e ∨
    ∃ text, e = .invalidReference text := by
  unfold expand at h
  obtain h | ⟨⟨out, st⟩, -, h⟩ := bind_eq_error_iff.1 h
  · exact .inl h
  · dsimp only at h
    split at h
    · exact .inr ⟨_, (Except.error.inj h).symm⟩
    · cases h

/-- A pattern expands exactly if its tree fits and every `%{` of the text that comes out starts a
reference. -/
theorem expand_eq_ok_iff {x : Expanded} :
    l.expand namedOnly pattern = .ok x ↔
      ∃ t st, l.Unfolds namedOnly pattern t st ∧ t.Fits [] ∧ OpensReferences t.output ∧
        x = ⟨String.ofList t.output, captureTable st.targets t.output⟩ := by
  unfold expand
  rw [bind_eq_ok_iff]
  constructor
  · rintro ⟨⟨out, st⟩, h, hx⟩
    obtain ⟨t, ht, rfl, hu, hf⟩ := exists_tree h
    dsimp only at hx
    split at hx
    · cases hx
    · next hwell =>
      cases hx
      exact ⟨t, st, ⟨ht, ht ▸ hu⟩, hf, (firstMalformed_eq_none_iff _).1 hwell, rfl⟩
  · rintro ⟨t, st, ⟨ht, hu⟩, hf, hwell, rfl⟩
    refine ⟨(t.output, st), by rw [← ht]; exact hu.expandPieces hf, ?_⟩
    dsimp only
    rw [(firstMalformed_eq_none_iff _).2 hwell]
    rfl

end Library

end Grok
