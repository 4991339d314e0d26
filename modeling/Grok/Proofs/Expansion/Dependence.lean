import Mathlib
import Grok.Matcher
import Grok.Proofs.Expansion.FixedPoint
import Grok.Proofs.Library.Definitions
/-!
What an expansion depends on. Definitions in place hold no references, so all that is ever looked up
in a library are names that occur in the pattern, or in the body of such a name. Main statement: two
libraries that agree on these names give the same expansion of the pattern, or the same error.
-/
namespace Grok

/-- A reference of the text defines the name in place. -/
def DefinesInPlace (ps : List Piece) (name : String) : Prop :=
  ∃ r, .reference r ∈ ps ∧ r.key = name ∧ r.definition.isSome

/-- The names that a text has looked up in a library: those that occur in it or in the body of such
a name, with neither a definition where they occur nor one in the text itself. -/
inductive Library.Consults (l : Library) (ps : List Piece) : String → Prop
  | written {r : Reference} : .reference r ∈ ps → r.definition = none → ¬ DefinesInPlace ps r.key →
      Consults l ps r.key
  | nested {r : Reference} {name body : String} : Consults l ps name →
      l.resolve name = some body → .reference r ∈ Piece.ofText body.toList → r.definition = none →
      ¬ DefinesInPlace ps r.key → Consults l ps r.key

theorem bind_congr_of_ok {ε α β : Type} {x y : Except ε α} {f g : α → Except ε β} (hx : x = y)
    (hf : ∀ a, y = .ok a → f a = g a) : x >>= f = y >>= g := by
  subst hx
  cases x with
  | error e => rfl
  | ok a => exact hf a rfl

namespace Expansion

variable {l l' : Library} {namedOnly : Bool} {source : String} {top ps : List Piece}
  {path : List String} {st : State} {r : Reference}

/-! ### Definitions in place -/

/-- The names that the pattern defines are bound, and no bound text holds a reference. -/
structure State.Prepared (st : State) (top : List Piece) : Prop where
  bound : ∀ name, DefinesInPlace top name → (st.local_.get? name).isSome
  inert : ∀ name d, st.local_.get? name = some d → ¬ HasOpening d.toList

theorem State.Prepared.number (h : st.Prepared top) (target : Option Target) :
    (st.number target).2.Prepared top := by
  cases target with
  | none => exact h
  | some t => exact ⟨h.bound, h.inert⟩

theorem State.Prepared.put (h : st.Prepared top) (hw : r.Written) {d : List Char}
    (hd : r.definition = some d) :
    State.Prepared { st with local_ := st.local_.put r.key (String.ofList d) } top := by
  constructor
  · intro name hname
    rw [Table.get?_put]
    split
    · rfl
    · exact h.bound name hname
  · intro name d' hd'
    rw [Table.get?_put] at hd'
    split at hd'
    · cases hd'
      rw [String.toList_ofList]
      exact (hw.definition d hd).2.not_hasOpening
    · exact h.inert name d' hd'

theorem mem_definitions_iff {name d : String} :
    (name, d) ∈ ((ps.filterMap Piece.reference?).filterMap fun r =>
      r.definition.map fun d => (String.ofList r.name, String.ofList d)) ↔
      ∃ r, .reference r ∈ ps ∧ r.key = name ∧ r.definition = some d.toList := by
  simp only [List.mem_filterMap, Option.map_eq_some_iff, Prod.mk.injEq]
  constructor
  · rintro ⟨r, ⟨p, hp, hpr⟩, d, hd, rfl, rfl⟩
    obtain rfl := Piece.reference?_eq_some_iff.1 hpr
    exact ⟨r, hp, rfl, by rw [hd, String.toList_ofList]⟩
  · rintro ⟨r, hr, rfl, hd⟩
    exact ⟨r, ⟨_, hr, rfl⟩, _, hd, rfl, String.ofList_toList⟩

theorem get?_localDefinitions (ps : List Piece) (name : String) :
    (localDefinitions ps).get? name =
      lastOf name ((ps.filterMap Piece.reference?).filterMap fun r =>
        r.definition.map fun d => (String.ofList r.name, String.ofList d)) := by
  rw [localDefinitions, Table.get?_putAll, Table.get?_nil, Option.or_none]

/-- An expansion starts with what the pattern defines. -/
theorem prepared_start (hps : ∀ r, .reference r ∈ ps → r.Written) :
    State.Prepared ⟨localDefinitions ps, [], 0⟩ ps := by
  constructor
  · rintro name ⟨r, hr, rfl, hd⟩
    obtain ⟨d, hd⟩ := Option.isSome_iff_exists.1 hd
    have hmem := mem_definitions_iff.2 ⟨r, hr, rfl, by rw [hd, ← String.toList_ofList (l := d)]⟩
    rw [get?_localDefinitions, Option.isSome_iff_ne_none, ne_eq, lastOf_eq_none_iff]
    exact fun hnone => hnone _ hmem rfl
  · intro name d hd
    rw [get?_localDefinitions, lastOf_eq_some_iff] at hd
    obtain ⟨before, after, heq, -⟩ := hd
    have hmem := List.mem_append_right before (List.Mem.head (a := (name, d)) after)
    obtain ⟨r, hr, -, hd⟩ := mem_definitions_iff.1 (heq ▸ hmem)
    exact ((hps r hr).definition _ hd).2.not_hasOpening

/-! ### Two libraries -/

/-- What the references of the text have looked up, the pattern has looked up. -/
def Within (l : Library) (top ps : List Piece) : Prop :=
  ∀ r, .reference r ∈ ps →
    r.Written ∧ (r.definition = none → ¬ DefinesInPlace top r.key → l.Consults top r.key)

theorem within_top (l : Library) (cs : List Char) :
    Within l (Piece.ofText cs) (Piece.ofText cs) :=
  fun _ hr => ⟨Piece.written_of_mem_ofText hr, .written hr⟩

theorem within_of_consults {name body : String} (h : l.Consults top name)
    (hb : l.resolve name = some body) : Within l top (Piece.ofText body.toList) :=
  fun _ hr => ⟨Piece.written_of_mem_ofText hr, .nested h hb hr⟩

theorem within_of_not_hasOpening {cs : List Char} (h : ¬ HasOpening cs) :
    Within l top (Piece.ofText cs) := by
  intro r hr
  rw [Piece.ofText_of_not_hasOpening h] at hr
  simp at hr

/-- The body of a reference is the same in both libraries, and leads no further than to what the
pattern has looked up. -/
theorem body_congr (hl : ∀ name, l.Consults top name → l'.resolve name = l.resolve name)
    (namedOnly : Bool) (source : String) (hst : st.Prepared top) (hw : r.Written)
    (hr : r.definition = none → ¬ DefinesInPlace top r.key → l.Consults top r.key) :
    Setting.body ⟨l', namedOnly, source⟩ r st = Setting.body ⟨l, namedOnly, source⟩ r st ∧
      ∀ body st', Setting.body ⟨l, namedOnly, source⟩ r st = .ok (body, st') →
        st'.Prepared top ∧ Within l top (Piece.ofText body) := by
  unfold Setting.body
  cases hd : r.definition with
  | some d =>
    refine ⟨rfl, ?_⟩
    rintro body st' ⟨⟩
    exact ⟨hst.put hw hd, within_of_not_hasOpening (hw.definition d hd).2.not_hasOpening⟩
  | none =>
    dsimp only [Setting.resolve]
    cases hlocal : st.local_.get? r.key with
    | some d =>
      refine ⟨rfl, ?_⟩
      rintro body st' ⟨⟩
      exact ⟨hst, within_of_not_hasOpening (hst.inert _ d hlocal)⟩
    | none =>
      -- What the pattern defines is bound from the start, so this name is not one of its own.
      have hconsults : l.Consults top r.key := by
        refine hr hd fun hown => ?_
        have hbound := hst.bound _ hown
        rw [hlocal] at hbound
        cases hbound
      simp only [Option.orElse_none, hl _ hconsults, true_and]
      cases hb : l.resolve r.key with
      | none => nofun
      | some b =>
        rintro body st' ⟨⟩
        exact ⟨hst, within_of_consults hconsults hb⟩

/-- Both libraries give the same at every step, errors included. -/
theorem expandPieces_congr (hl : ∀ name, l.Consults top name → l'.resolve name = l.resolve name)
    (hst : st.Prepared top) (hps : Within l top ps) :
    expandPieces ⟨l', namedOnly, source⟩ path ps st =
        expandPieces ⟨l, namedOnly, source⟩ path ps st ∧
      ∀ out st', expandPieces ⟨l, namedOnly, source⟩ path ps st = .ok (out, st') →
        st'.Prepared top := by
  -- The two runs go in step, with one state for both.
  induction path, ps using expansion_induction generalizing st with
  | nil path =>
    rw [expandPieces, expandPieces]
    refine ⟨rfl, ?_⟩
    rintro out st' ⟨⟩
    exact hst
  | plain path c ps ih =>
    obtain ⟨heq, hprepared⟩ := ih hst fun r hr => hps r (.tail _ hr)
    constructor
    · rw [expandPieces, expandPieces, heq]
    · intro out st' hok
      obtain ⟨rest, hrest, -⟩ := expandPieces_plain_eq_ok_iff.1 hok
      exact hprepared rest st' hrest
  | reference path r ps ihbody ih =>
    obtain ⟨hw, hr⟩ := hps r (.head _)
    obtain ⟨hbody, hinside⟩ := body_congr hl namedOnly source hst hw hr
    have hrest : Within l top ps := fun r hr => hps r (.tail _ hr)
    constructor
    · rw [expandPieces, expandPieces]
      split
      · rfl
      · next hfree =>
        simp only [Bool.or_eq_true, decide_eq_true_eq, not_or, Nat.not_le] at hfree
        refine bind_congr_of_ok hbody ?_
        rintro ⟨body, st₁⟩ hok
        obtain ⟨hst₁, hwithin⟩ := hinside body st₁ hok
        refine bind_congr_of_ok rfl fun target _ => ?_
        obtain ⟨hinner, hst₂⟩ := ihbody hfree.2 body (hst₁.number target) hwithin
        refine bind_congr_of_ok hinner ?_
        rintro ⟨inner, st₂⟩ hok
        exact bind_congr_of_ok (ih (hst₂ inner st₂ hok) hrest).1 fun _ _ => rfl
    · intro out st' hok
      obtain ⟨⟨-, hdepth⟩, body, st₁, target, inner, st₂, rest, hb, -, hinner, htail, -⟩ :=
        expandPieces_reference_eq_ok_iff.1 hok
      obtain ⟨hst₁, hwithin⟩ := hinside body st₁ hb
      have hst₂ := (ihbody hdepth body (hst₁.number target) hwithin).2 inner st₂ hinner
      exact (ih hst₂ hrest).2 rest st' htail

end Expansion

namespace Library

open Expansion

variable {l l' : Library} {namedOnly : Bool} {pattern : String}

theorem expand_congr
    (hl : ∀ name, l.Consults (Piece.ofText pattern.toList) name →
      l'.resolve name = l.resolve name) :
    l'.expand namedOnly pattern = l.expand namedOnly pattern := by
  have hstart := prepared_start fun r (hr : .reference r ∈ Piece.ofText pattern.toList) =>
    Piece.written_of_mem_ofText hr
  rw [expand, expand]
  exact bind_congr_of_ok (expandPieces_congr hl hstart (within_top l _)).1 fun _ _ => rfl

theorem resolve_add_of_ne {name name' : String} (h : name ≠ name') (body : String) :
    (l.add name body).resolve name' = l.resolve name' :=
  Table.get?_put_of_ne l.definitions h body

/-- Of a library, the expansion of a pattern depends on nothing but the names that the pattern has
looked up, and so does what is compiled from it. Other names can be defined and redefined. -/
theorem expand_depends (l : Library) (namedOnly : Bool) (pattern : String) :
    (∀ l' : Library, (∀ name, l.Consults (Piece.ofText pattern.toList) name →
        l'.resolve name = l.resolve name) →
      l'.expand namedOnly pattern = l.expand namedOnly pattern) ∧
    ∀ name body, ¬ l.Consults (Piece.ofText pattern.toList) name →
      (l.add name body).expand namedOnly pattern = l.expand namedOnly pattern ∧
      (l.add name body).compile namedOnly pattern = l.compile namedOnly pattern := by
  refine ⟨fun l' hl => expand_congr hl, fun name body hname => ?_⟩
  have hexpand : (l.add name body).expand namedOnly pattern = l.expand namedOnly pattern :=
    expand_congr fun name' hname' =>
      resolve_add_of_ne (fun heq : name = name' => hname (heq ▸ hname')) body
  exact ⟨hexpand, by rw [compile, compile, hexpand]⟩

/-- The second library has other names, and another body for one that the pattern defines itself. -/
theorem expand_depends_shadowed :
    (∀ name, Consults ⟨[("A", "%{B}"), ("B", "b")]⟩ (Piece.ofText "%{X=1}%{A:a}%{X}".toList) name →
      resolve ⟨[("A", "%{B}"), ("B", "b"), ("C", "%{C}"), ("X", "%{Y}")]⟩ name =
        resolve ⟨[("A", "%{B}"), ("B", "b")]⟩ name) ∧
    expand ⟨[("A", "%{B}"), ("B", "b"), ("C", "%{C}"), ("X", "%{Y}")]⟩ true "%{X=1}%{A:a}%{X}" =
      expand ⟨[("A", "%{B}"), ("B", "b")]⟩ true "%{X=1}%{A:a}%{X}" := by
  have hpattern : Piece.ofText "%{X=1}%{A:a}%{X}".toList =
      [.reference ⟨['X'], none, none, some ['1']⟩, .reference ⟨['A'], some ['a'], none, none⟩,
        .reference ⟨['X'], none, none, none⟩] := by cbv
  have hA : Piece.ofText "%{B}".toList = [.reference ⟨['B'], none, none, none⟩] := by cbv
  have hB : Piece.ofText "b".toList = [.plain 'b'] := by cbv
  have hconsults : ∀ name, Consults ⟨[("A", "%{B}"), ("B", "b")]⟩
      (Piece.ofText "%{X=1}%{A:a}%{X}".toList) name → name = "A" ∨ name = "B" := by
    rw [hpattern]
    intro name h
    induction h with
    | written hr hd hown =>
      simp only [List.mem_cons, Piece.reference.injEq, List.not_mem_nil, or_false] at hr
      obtain rfl | rfl | rfl := hr
      · cases hd
      · exact .inl rfl
      · exact absurd ⟨_, .head _, rfl, rfl⟩ hown
    | nested _ hb hr _ _ ih =>
      obtain rfl | rfl := ih
      · rw [← Option.some.inj hb, hA, List.mem_singleton, Piece.reference.injEq] at hr
        exact .inr (by rw [hr])
      · rw [← Option.some.inj hb, hB, List.mem_singleton] at hr
        cases hr
  have hagree : ∀ name, Consults ⟨[("A", "%{B}"), ("B", "b")]⟩
      (Piece.ofText "%{X=1}%{A:a}%{X}".toList) name →
      resolve ⟨[("A", "%{B}"), ("B", "b"), ("C", "%{C}"), ("X", "%{Y}")]⟩ name =
        resolve ⟨[("A", "%{B}"), ("B", "b")]⟩ name := by
    intro name h
    obtain rfl | rfl := hconsults name h <;> rfl
  exact ⟨hagree, (expand_depends _ true _).1 _ hagree⟩

end Library

end Grok
