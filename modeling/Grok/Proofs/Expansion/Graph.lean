import Mathlib
import Grok.Proofs.Expansion.Tree
import Grok.Proofs.Reference.Grammar
/-!
The graph of references. Where no reference defines anything in place, whether a pattern can be
expanded is settled by the references that can be reached from it: what they name, the types that
they ask for, and the chains that they form.
-/
namespace Grok

open Relation (ReflTransGen TransGen)

/-- No reference of the text defines a pattern in place. -/
def DefinesNothing (ps : List Piece) : Prop := ∀ r, .reference r ∈ ps → r.definition = none

instance (ps : List Piece) : Decidable (DefinesNothing ps) :=
  decidable_of_iff (∀ p ∈ ps, ∀ r ∈ p.reference?, r.definition = none) <| by
    refine ⟨fun h r hr => h _ hr r rfl, fun h p hp r hr => ?_⟩
    obtain rfl := Piece.reference?_eq_some_iff.1 hr
    exact h r hp

namespace Library

/-- No body of the library defines a pattern in place. -/
def DefinesNothing (l : Library) : Prop :=
  ∀ name body, l.resolve name = some body → Grok.DefinesNothing (Piece.ofText body.toList)

instance (l : Library) : Decidable l.DefinesNothing :=
  decidable_of_iff (∀ name ∈ l.names, ∀ body ∈ l.resolve name,
    Grok.DefinesNothing (Piece.ofText body.toList))
    ⟨fun h name body hb => h name (Table.mem_names_of_get? hb) body hb,
      fun h name _ body hb => h name body hb⟩

/-- The references of a text, and those of the bodies behind them. -/
inductive Reachable (l : Library) (ps : List Piece) : Reference → Prop
  | written {r : Reference} : .reference r ∈ ps → Reachable l ps r
  | nested {r r' : Reference} {body : String} : Reachable l ps r → l.resolve r.key = some body →
      .reference r' ∈ Piece.ofText body.toList → Reachable l ps r'

/-- The body of one name refers to another. -/
def Refers (l : Library) (a b : String) : Prop :=
  ∃ body r, l.resolve a = some body ∧ .reference r ∈ Piece.ofText body.toList ∧ r.key = b

def Resolves (l : Library) (ps : List Piece) : Prop :=
  ∀ r, l.Reachable ps r → (l.resolve r.key).isSome

def Typed (l : Library) (ps : List Piece) : Prop :=
  ∀ r, l.Reachable ps r → ∀ type ∈ r.coercion,
    String.ofList type = "int" ∨ String.ofList type = "float"

/-- No name that can be reached leads back to itself. -/
def Acyclic (l : Library) (ps : List Piece) : Prop :=
  ∀ r, l.Reachable ps r → ¬ TransGen l.Refers r.key r.key

/-- No chain of references inside references is too long. -/
def Shallow (l : Library) (ps : List Piece) : Prop :=
  ∀ r names, .reference r ∈ ps → (r.key :: names).IsChain l.Refers →
    (r.key :: names).length ≤ maxExpansionDepth

/-- Below the names of a path, every chain of references has names of its own, and ends in time. -/
def HasRoom (l : Library) (path : List String) (ps : List Piece) : Prop :=
  ∀ r names, .reference r ∈ ps → (r.key :: names).IsChain l.Refers →
    (r.key :: names).Nodup ∧ (∀ n ∈ r.key :: names, n ∉ path) ∧
      path.length + (r.key :: names).length ≤ maxExpansionDepth

variable {l : Library} {p : Piece} {ps : List Piece} {path names : List String}
  {r r' : Reference} {body name : String} {c : Char}

/-! ### What can be reached -/

theorem Reachable.of_cons (h : l.Reachable ps r) : l.Reachable (p :: ps) r := by
  induction h with
  | written h => exact .written (.tail _ h)
  | nested _ hb hr ih => exact .nested ih hb hr

theorem Reachable.of_body (hr : .reference r ∈ ps) (hb : l.resolve r.key = some body)
    (h : l.Reachable (Piece.ofText body.toList) r') : l.Reachable ps r' := by
  induction h with
  | written h => exact .nested (.written hr) hb h
  | nested _ hb hr ih => exact .nested ih hb hr

theorem not_reachable_nil : ¬ l.Reachable [] r := by
  intro h
  induction h with
  | written h => cases h
  | nested _ _ _ ih => exact ih

theorem reachable_plain_iff : l.Reachable (.plain c :: ps) r ↔ l.Reachable ps r := by
  refine ⟨fun h => ?_, .of_cons⟩
  induction h with
  | written h => exact .written (by simpa using h)
  | nested _ hb hr ih => exact .nested ih hb hr

theorem reachable_reference_iff :
    l.Reachable (.reference r :: ps) r' ↔
      r' = r ∨ (∃ body, l.resolve r.key = some body ∧ l.Reachable (Piece.ofText body.toList) r') ∨
        l.Reachable ps r' := by
  constructor
  · intro h
    induction h with
    | written h =>
      obtain h | h := List.mem_cons.1 h
      · exact .inl (Piece.reference.inj h)
      · exact .inr (.inr (.written h))
    | nested _ hb hr ih =>
      obtain rfl | ⟨body, hb', h⟩ | h := ih
      · exact .inr (.inl ⟨_, hb, .written hr⟩)
      · exact .inr (.inl ⟨body, hb', .nested h hb hr⟩)
      · exact .inr (.inr (.nested h hb hr))
  · rintro (rfl | ⟨body, hb, h⟩ | h)
    · exact .written (.head _)
    · exact .of_body (.head _) hb h
    · exact .of_cons h

theorem Reachable.exists_path (h : l.Reachable ps r) :
    ∃ r₀, .reference r₀ ∈ ps ∧ ReflTransGen l.Refers r₀.key r.key := by
  induction h with
  | written h => exact ⟨_, h, .refl⟩
  | nested _ hb hr ih =>
    obtain ⟨r₀, h₀, hpath⟩ := ih
    exact ⟨r₀, h₀, hpath.tail ⟨_, _, hb, hr, rfl⟩⟩

theorem exists_reachable (hr : .reference r ∈ ps) (hc : (r.key :: names).IsChain l.Refers) :
    ∀ n ∈ r.key :: names, ∃ r', l.Reachable ps r' ∧ r'.key = n := by
  induction names generalizing ps r with
  | nil =>
    intro n hn
    exact ⟨r, .written hr, (List.mem_singleton.1 hn).symm⟩
  | cons m names ih =>
    obtain ⟨⟨body, r', hb, hr', rfl⟩, hc⟩ := List.isChain_cons_cons.1 hc
    intro n hn
    obtain rfl | hn := List.mem_cons.1 hn
    · exact ⟨r, .written hr, rfl⟩
    · obtain ⟨r'', h, rfl⟩ := ih hr' hc n hn
      exact ⟨r'', .of_body hr hb h, rfl⟩

/-! ### Room for chains -/

theorem HasRoom.of_cons (h : l.HasRoom path (p :: ps)) : l.HasRoom path ps :=
  fun r names hr => h r names (.tail _ hr)

theorem HasRoom.free (h : l.HasRoom path ps) (hr : .reference r ∈ ps) :
    r.key ∉ path ∧ path.length < maxExpansionDepth := by
  obtain ⟨-, hpath, hlen⟩ := h r [] hr (.singleton _)
  exact ⟨hpath _ (.head _), hlen⟩

theorem HasRoom.of_body (h : l.HasRoom path ps) (hr : .reference r ∈ ps)
    (hb : l.resolve r.key = some body) : l.HasRoom (r.key :: path) (Piece.ofText body.toList) := by
  intro r' names hr' hc
  obtain ⟨hnodup, hpath, hlen⟩ := h r (r'.key :: names) hr (.cons_cons ⟨body, r', hb, hr', rfl⟩ hc)
  rw [List.nodup_cons] at hnodup
  refine ⟨hnodup.2, fun n hn => ?_, by simp only [List.length_cons] at hlen ⊢; omega⟩
  rw [List.mem_cons, not_or]
  exact ⟨fun hnr => hnodup.1 (hnr ▸ hn), hpath n (.tail _ hn)⟩

theorem hasRoom_nil : l.HasRoom path [] := nofun

theorem hasRoom_plain (h : l.HasRoom path ps) : l.HasRoom path (.plain c :: ps) :=
  fun r names hr => h r names (by simpa using hr)

theorem hasRoom_reference (hname : r.key ∉ path) (hdepth : path.length < maxExpansionDepth)
    (hb : ∀ body, l.resolve r.key = some body →
      l.HasRoom (r.key :: path) (Piece.ofText body.toList))
    (h : l.HasRoom path ps) : l.HasRoom path (.reference r :: ps) := by
  intro r' names hr' hc
  obtain hr' | hr' := List.mem_cons.1 hr'
  · cases hr'
    cases names with
    | nil => exact ⟨by simp, by simpa using hname, hdepth⟩
    | cons m names =>
      obtain ⟨⟨body, r', hbody, hr', rfl⟩, hc⟩ := List.isChain_cons_cons.1 hc
      obtain ⟨hnodup, hpath, hlen⟩ := hb body hbody r' names hr' hc
      refine ⟨List.nodup_cons.2 ⟨fun hmem => hpath _ hmem (.head _), hnodup⟩, ?_, ?_⟩
      · intro n hn
        obtain rfl | hn := List.mem_cons.1 hn
        · exact hname
        · exact fun hmem => hpath n hn (.tail _ hmem)
      · simp only [List.length_cons] at hlen ⊢
        omega
  · exact h r' names hr' hc

theorem not_nodup_of_cycle {a b : String} (h : ReflTransGen l.Refers a b)
    (hcycle : TransGen l.Refers b b) :
    ∃ names, (a :: names).IsChain l.Refers ∧ ¬ (a :: names).Nodup := by
  obtain ⟨c, hbc, hcb⟩ := TransGen.head'_iff.1 hcycle
  obtain ⟨before, hbefore, hb⟩ := List.exists_isChain_cons_of_relationReflTransGen h
  obtain ⟨after, hafter, hb'⟩ := List.exists_isChain_cons_of_relationReflTransGen hcb
  refine ⟨before ++ c :: after, ?_, fun hnodup => ?_⟩
  · rw [← List.cons_append, List.isChain_append]
    refine ⟨hbefore, hafter, fun x hx y hy => ?_⟩
    rw [List.getLast?_eq_some_getLast (List.cons_ne_nil _ _), hb] at hx
    cases hx
    cases hy
    exact hbc
  · -- The name at the end of the way to the cycle ends the cycle as well.
    rw [← List.cons_append, List.nodup_append] at hnodup
    exact hnodup.2.2 b (hb ▸ List.getLast_mem _) b (hb' ▸ List.getLast_mem _) rfl

/-- At the top there is room exactly if nothing leads back to itself and no chain is too long. -/
theorem hasRoom_top_iff : l.HasRoom [] ps ↔ l.Acyclic ps ∧ l.Shallow ps := by
  constructor
  · intro h
    refine ⟨fun r hr hcycle => ?_, fun r names hr hc => ?_⟩
    · obtain ⟨r₀, h₀, hpath⟩ := hr.exists_path
      obtain ⟨names, hc, hdup⟩ := not_nodup_of_cycle hpath hcycle
      exact hdup (h r₀ names h₀ hc).1
    · simpa using (h r names hr hc).2.2
  · rintro ⟨hacyclic, hshallow⟩ r names hr hc
    refine ⟨?_, nofun, by simpa using hshallow r names hr hc⟩
    have hpairs : (r.key :: names).Pairwise (TransGen l.Refers) :=
      (hc.imp fun _ _ => TransGen.single).pairwise
    refine hpairs.imp_of_mem fun ha _ hab heq => ?_
    obtain ⟨r', hr', rfl⟩ := exists_reachable hr hc _ ha
    exact hacyclic r' hr' (heq ▸ hab)

end Library

namespace Expansion

variable {s : Setting} {path : List String} {ps : List Piece} {st st' : State} {out : List Char}
  {r : Reference} {body : List Char}

/-! ### Expansion without definitions in place -/

theorem Setting.body_of_library (hr : r.definition = none) (hst : st.local_ = []) :
    s.body r st = match s.library.resolve r.key with
      | some body => .ok (body.toList, st)
      | none => .error (.unresolvedPattern r.key s.source) := by
  cases h : s.library.resolve r.key <;> simp [body, resolve, hr, hst, h]

theorem Setting.body_eq_ok {st₁ : State} (hr : r.definition = none) (hst : st.local_ = [])
    (h : s.body r st = .ok (body, st₁)) :
    st₁ = st ∧ ∃ b, s.library.resolve r.key = some b ∧ b.toList = body := by
  rw [body_of_library hr hst] at h
  split at h
  · next b hb =>
    cases h
    exact ⟨rfl, b, hb, rfl⟩
  · cases h

@[simp] theorem State.local_number (st : State) (target : Option Target) :
    (st.number target).2.local_ = st.local_ := by
  cases target <;> rfl

theorem local_of_eq_ok (hl : s.library.DefinesNothing) (hps : DefinesNothing ps)
    (hst : st.local_ = []) (h : expandPieces s path ps st = .ok (out, st')) : st'.local_ = [] := by
  induction path, ps using expansion_induction generalizing st out st' with
  | nil path =>
    rw [expandPieces] at h
    cases h
    exact hst
  | plain path c ps ih =>
    obtain ⟨rest, hrest, -⟩ := expandPieces_plain_eq_ok_iff.1 h
    exact ih (fun r hr => hps r (.tail _ hr)) hst hrest
  | reference path r ps ihbody ih =>
    obtain ⟨⟨-, hdepth⟩, body, st₁, target, inner, st₂, rest, hbody, -, hinner, hrest, -⟩ :=
      expandPieces_reference_eq_ok_iff.1 h
    obtain ⟨rfl, b, hb, rfl⟩ := Setting.body_eq_ok (hps r (.head _)) hst hbody
    have hst₂ := ihbody hdepth b.toList (hl _ _ hb) (by simpa using hst) hinner
    exact ih (fun r hr => hps r (.tail _ hr)) hst₂ hrest

theorem isOk_ofType_iff {type field : String} :
    (Coercion.ofType type field).isOk ↔ type = "int" ∨ type = "float" := by
  unfold Coercion.ofType
  split
  · simp [*, Except.isOk, Except.toBool]
  · split <;> simp [*, Except.isOk, Except.toBool]

theorem Setting.exists_target_iff :
    (∃ target, s.target r = .ok target) ↔ (r.field ≠ none → ∀ type ∈ r.coercion,
      String.ofList type = "int" ∨ String.ofList type = "float") := by
  unfold Setting.target
  split
  · next field type hfield htype =>
    rw [hfield, htype]
    have hiff := @isOk_ofType_iff (String.ofList type) (String.ofList field)
    cases hc : Coercion.ofType (String.ofList type) (String.ofList field) with
    | error e => simpa [hc, Except.map, Except.isOk, Except.toBool] using hiff
    | ok c => simpa [hc, Except.map, Except.isOk, Except.toBool] using hiff
  · next htype => simp [htype]
  · next hfield => simp [hfield]

/-- With room for its chains, a text expands if its names resolve and its types exist. -/
theorem exists_expansion (hl : s.library.DefinesNothing) (hps : DefinesNothing ps)
    (hst : st.local_ = []) (hroom : s.library.HasRoom path ps) (hresolves : s.library.Resolves ps)
    (htyped : s.library.Typed ps) : ∃ out st', expandPieces s path ps st = .ok (out, st') := by
  induction path, ps using expansion_induction generalizing st with
  | nil path => exact ⟨_, _, by rw [expandPieces]⟩
  | plain path c ps ih =>
    obtain ⟨out, st', h⟩ := ih (fun r hr => hps r (.tail _ hr)) hst hroom.of_cons
      (fun r hr => hresolves r hr.of_cons) (fun r hr => htyped r hr.of_cons)
    exact ⟨_, st', expandPieces_plain_eq_ok_iff.2 ⟨out, h, rfl⟩⟩
  | reference path r ps ihbody ih =>
    have hmem : Piece.reference r ∈ .reference r :: ps := .head _
    obtain ⟨b, hb⟩ := Option.isSome_iff_exists.1 (hresolves r (.written hmem))
    have hbody : s.body r st = .ok (b.toList, st) := by
      rw [Setting.body_of_library (hps r hmem) hst, hb]
    obtain ⟨target, htarget⟩ := (Setting.exists_target_iff (s := s)).2
      fun _ => htyped r (.written hmem)
    obtain ⟨hname, hdepth⟩ := hroom.free hmem
    have hst₁ : (st.number target).2.local_ = [] := by simpa using hst
    obtain ⟨inner, st₂, hinner⟩ := ihbody hdepth b.toList (hl _ _ hb) hst₁ (hroom.of_body hmem hb)
      (fun r hr => hresolves r (.of_body hmem hb hr)) (fun r hr => htyped r (.of_body hmem hb hr))
    have hst₂ := local_of_eq_ok hl (hl _ _ hb) hst₁ hinner
    obtain ⟨rest, st', hrest⟩ := ih (fun r hr => hps r (.tail _ hr)) hst₂ hroom.of_cons
      (fun r hr => hresolves r hr.of_cons) (fun r hr => htyped r hr.of_cons)
    exact ⟨_, st', expandPieces_reference_eq_ok_iff.2
      ⟨⟨hname, hdepth⟩, _, _, target, inner, st₂, rest, hbody, htarget, hinner, hrest, rfl⟩⟩

/-- What expands has room for its chains, names that resolve and types that exist. -/
theorem room_of_eq_ok (hl : s.library.DefinesNothing) (hps : DefinesNothing ps)
    (hst : st.local_ = []) (hw : ∀ r, .reference r ∈ ps → r.Written)
    (h : expandPieces s path ps st = .ok (out, st')) :
    s.library.HasRoom path ps ∧ s.library.Resolves ps ∧ s.library.Typed ps := by
  induction path, ps using expansion_induction generalizing st out st' with
  | nil path =>
    exact ⟨Library.hasRoom_nil, fun r hr => absurd hr Library.not_reachable_nil,
      fun r hr => absurd hr Library.not_reachable_nil⟩
  | plain path c ps ih =>
    obtain ⟨rest, hrest, -⟩ := expandPieces_plain_eq_ok_iff.1 h
    obtain ⟨hroom, hresolves, htyped⟩ :=
      ih (fun r hr => hps r (.tail _ hr)) hst (fun r hr => hw r (.tail _ hr)) hrest
    exact ⟨Library.hasRoom_plain hroom, fun r hr => hresolves r (Library.reachable_plain_iff.1 hr),
      fun r hr => htyped r (Library.reachable_plain_iff.1 hr)⟩
  | reference path r ps ihbody ih =>
    have hmem : Piece.reference r ∈ .reference r :: ps := .head _
    obtain ⟨⟨hname, hdepth⟩, body, st₁, target, inner, st₂, rest, hbody, htarget, hinner, hrest,
      -⟩ := expandPieces_reference_eq_ok_iff.1 h
    obtain ⟨rfl, b, hb, rfl⟩ := Setting.body_eq_ok (hps r hmem) hst hbody
    have hst₁ : (st₁.number target).2.local_ = [] := by simpa using hst
    have hst₂ := local_of_eq_ok hl (hl _ _ hb) hst₁ hinner
    obtain ⟨hroomb, hresolvesb, htypedb⟩ :=
      ihbody hdepth b.toList (hl _ _ hb) hst₁ (fun r => Piece.written_of_mem_ofText) hinner
    obtain ⟨hroom, hresolves, htyped⟩ :=
      ih (fun r hr => hps r (.tail _ hr)) hst₂ (fun r hr => hw r (.tail _ hr)) hrest
    refine ⟨Library.hasRoom_reference hname hdepth ?_ hroom, fun r' hr' => ?_, fun r' hr' => ?_⟩
    · intro b' hb'
      cases hb.symm.trans hb'
      exact hroomb
    · obtain rfl | ⟨b', hb', hr'⟩ | hr' := Library.reachable_reference_iff.1 hr'
      · exact Option.isSome_iff_exists.2 ⟨b, hb⟩
      · cases hb.symm.trans hb'
        exact hresolvesb r' hr'
      · exact hresolves r' hr'
    · obtain rfl | ⟨b', hb', hr'⟩ | hr' := Library.reachable_reference_iff.1 hr'
      · intro type htype
        refine Setting.exists_target_iff.1 ⟨target, htarget⟩ (fun hfield => ?_) type htype
        rw [(hw _ hmem).target hfield] at htype
        cases htype
      · cases hb.symm.trans hb'
        exact htypedb r' hr'
      · exact htyped r' hr'

theorem not_cyclic_of_room {source : String} {passes : Nat} (hl : s.library.DefinesNothing)
    (hps : DefinesNothing ps) (hst : st.local_ = []) (hroom : s.library.HasRoom path ps) :
    expandPieces s path ps st ≠ .error (.cyclicReference source passes) := by
  intro h
  induction path, ps using expansion_induction generalizing st with
  | nil path =>
    rw [expandPieces] at h
    cases h
  | plain path c ps ih =>
    exact ih (fun r hr => hps r (.tail _ hr)) hst hroom.of_cons (expandPieces_plain_eq_error h)
  | reference path r ps ihbody ih =>
    have hmem : Piece.reference r ∈ .reference r :: ps := .head _
    obtain ⟨hname, hdepth⟩ := hroom.free hmem
    obtain ⟨hblocked, -⟩ | (h | ⟨_, _, h⟩) | ⟨body, st₁, target, hbody, h⟩ :=
      expandPieces_reference_eq_error h
    · obtain h | h := hblocked
      · exact hname h
      · omega
    · cases h
    · cases h
    · obtain ⟨rfl, b, hb, rfl⟩ := Setting.body_eq_ok (hps r hmem) hst hbody
      have hst₁ : (st₁.number target).2.local_ = [] := by simpa using hst
      obtain h | ⟨inner, st₂, hinner, h⟩ := h
      · exact ihbody hdepth b.toList (hl _ _ hb) hst₁ (hroom.of_body hmem hb) h
      · exact ih (fun r hr => hps r (.tail _ hr)) (local_of_eq_ok hl (hl _ _ hb) hst₁ hinner)
          hroom.of_cons h

theorem localDefinitions_eq_nil (hps : DefinesNothing ps) : localDefinitions ps = [] := by
  have hnone : ((ps.filterMap Piece.reference?).filterMap fun r =>
      r.definition.map fun d => (r.key, String.ofList d)) = [] := by
    rw [List.filterMap_eq_nil_iff]
    intro r hr
    obtain ⟨p, hp, hpr⟩ := List.mem_filterMap.1 hr
    obtain rfl := Piece.reference?_eq_some_iff.1 hpr
    simp [hps r hp]
  exact congrArg (Table.putAll []) hnone

end Expansion

namespace Library

open Expansion

variable {l : Library} {namedOnly : Bool} {pattern : String} {ps : List Piece}

/-- What a pattern becomes when its references are replaced by groups around their bodies, and
those in the bodies in turn, to the end. -/
def Becomes (l : Library) (namedOnly : Bool) (pattern : String) (text : List Char) : Prop :=
  ∃ t st, l.Unfolds namedOnly pattern t st ∧ t.output = text

theorem Becomes.unique {text text' : List Char} (h : l.Becomes namedOnly pattern text)
    (h' : l.Becomes namedOnly pattern text') : text = text' := by
  obtain ⟨t, st, hu, rfl⟩ := h
  obtain ⟨t', st', hu', rfl⟩ := h'
  rw [(hu.unique hu').1]

/-- Room, names and types are what it takes to unfold within the limit. -/
theorem exists_fitting_iff (hl : l.DefinesNothing) (hps : Grok.DefinesNothing ps)
    (hpattern : Piece.ofText pattern.toList = ps) :
    (∃ t st, l.Unfolds namedOnly pattern t st ∧ t.Fits []) ↔
      l.HasRoom [] ps ∧ l.Resolves ps ∧ l.Typed ps := by
  have hlocal := localDefinitions_eq_nil hps
  constructor
  · rintro ⟨t, st, ⟨ht, hu⟩, hf⟩
    rw [hpattern] at ht
    have h := hu.expandPieces hf
    rw [ht] at h
    exact room_of_eq_ok hl hps hlocal
      (fun r hr => Piece.written_of_mem_ofText (hpattern ▸ hr)) h
  · rintro ⟨hroom, hresolves, htyped⟩
    obtain ⟨out, st, h⟩ :
        ∃ out st, expandPieces ⟨l, namedOnly, pattern⟩ [] ps ⟨localDefinitions ps, [], 0⟩ =
          .ok (out, st) :=
      exists_expansion hl hps hlocal hroom hresolves htyped
    obtain ⟨t, ht, -, hu, hf⟩ := exists_tree h
    exact ⟨t, st, ⟨ht.trans hpattern.symm, ht ▸ hu⟩, hf⟩

/-- Expansion decides whether a pattern can be resolved. It succeeds exactly if all names that can
be reached resolve, all types exist, nothing leads back to itself, no chain is too long, and the
text that comes out holds no malformed reference; there is one such text as soon as the rest holds.
A cycle always makes it fail, and only a cycle or a chain that is too long is called one. -/
theorem expand_decides (hpattern : Piece.ofText pattern.toList = ps) (hl : l.DefinesNothing)
    (hps : Grok.DefinesNothing ps) :
    ((∃ x, l.expand namedOnly pattern = .ok x) ↔
      l.Resolves ps ∧ l.Typed ps ∧ l.Acyclic ps ∧ l.Shallow ps ∧
        ∃ text, l.Becomes namedOnly pattern text ∧ OpensReferences text) ∧
    (l.Resolves ps → l.Typed ps → l.Acyclic ps → l.Shallow ps →
      ∃! text, l.Becomes namedOnly pattern text) ∧
    (l.Acyclic ps → l.Shallow ps →
      ∀ source passes, l.expand namedOnly pattern ≠ .error (.cyclicReference source passes)) ∧
    (¬ l.Acyclic ps → ∃ e, l.expand namedOnly pattern = .error e) := by
  have hfits : (∃ t st, l.Unfolds namedOnly pattern t st ∧ t.Fits []) ↔
      (l.Acyclic ps ∧ l.Shallow ps) ∧ l.Resolves ps ∧ l.Typed ps := by
    rw [← hasRoom_top_iff]
    exact exists_fitting_iff hl hps hpattern
  have hsucceeds : (∃ x, l.expand namedOnly pattern = .ok x) ↔
      l.Resolves ps ∧ l.Typed ps ∧ l.Acyclic ps ∧ l.Shallow ps ∧
        ∃ text, l.Becomes namedOnly pattern text ∧ OpensReferences text := by
    constructor
    · rintro ⟨x, hx⟩
      obtain ⟨t, st, hu, hf, hopens, -⟩ := expand_eq_ok_iff.1 hx
      obtain ⟨⟨hacyclic, hshallow⟩, hresolves, htyped⟩ := hfits.1 ⟨t, st, hu, hf⟩
      exact ⟨hresolves, htyped, hacyclic, hshallow, _, ⟨t, st, hu, rfl⟩, hopens⟩
    · rintro ⟨hresolves, htyped, hacyclic, hshallow, text, hbecomes, hopens⟩
      obtain ⟨t, st, hu, hf⟩ := hfits.2 ⟨⟨hacyclic, hshallow⟩, hresolves, htyped⟩
      rw [hbecomes.unique ⟨t, st, hu, rfl⟩] at hopens
      exact ⟨_, expand_eq_ok_iff.2 ⟨t, st, hu, hf, hopens, rfl⟩⟩
  refine ⟨hsucceeds, ?_, ?_, ?_⟩
  · intro hresolves htyped hacyclic hshallow
    obtain ⟨t, st, hu, -⟩ := hfits.2 ⟨⟨hacyclic, hshallow⟩, hresolves, htyped⟩
    exact ⟨_, ⟨t, st, hu, rfl⟩, fun text h => h.unique ⟨t, st, hu, rfl⟩⟩
  · intro hacyclic hshallow source passes h
    obtain h | ⟨text, h⟩ := expand_eq_error h
    · rw [hpattern] at h
      exact not_cyclic_of_room hl hps (localDefinitions_eq_nil hps)
        (hasRoom_top_iff.2 ⟨hacyclic, hshallow⟩) h
    · cases h
  · intro hcycle
    cases h : l.expand namedOnly pattern with
    | error e => exact ⟨e, rfl⟩
    | ok x => exact absurd (hsucceeds.1 ⟨x, h⟩).2.2.1 hcycle

/-- A body that is referred to twice is no cycle; two bodies that refer to each other are one. -/
theorem acyclic_of_sharing_and_error_of_cycle :
    Acyclic ⟨[("PAIR", "%{WORD} %{WORD}"), ("WORD", "w")]⟩ (Piece.ofText "%{PAIR}".toList) ∧
    ∃ e, expand ⟨[("PING", "%{PONG}"), ("PONG", "%{PING}")]⟩ true "%{PING}" = .error e := by
  refine ⟨?_, ?_⟩
  · have hpair : expand ⟨[("PAIR", "%{WORD} %{WORD}"), ("WORD", "w")]⟩ true "%{PAIR}" =
        .ok ⟨"(?:(?:w) (?:w))", []⟩ := by cbv
    have hlibrary : DefinesNothing ⟨[("PAIR", "%{WORD} %{WORD}"), ("WORD", "w")]⟩ := by
      decide +kernel
    have hpattern : Grok.DefinesNothing (Piece.ofText "%{PAIR}".toList) := by decide +kernel
    exact ((expand_decides rfl hlibrary hpattern).1.1 ⟨_, hpair⟩).2.2.1
  · have hlibrary : DefinesNothing ⟨[("PING", "%{PONG}"), ("PONG", "%{PING}")]⟩ := by
      decide +kernel
    have hpattern : Grok.DefinesNothing (Piece.ofText "%{PING}".toList) := by decide +kernel
    refine (expand_decides rfl hlibrary hpattern).2.2.2 fun hacyclic => ?_
    refine hacyclic ⟨"PING".toList, none, none, none⟩ (.written (by decide +kernel)) ?_
    have hping : Refers ⟨[("PING", "%{PONG}"), ("PONG", "%{PING}")]⟩ "PING" "PONG" :=
      ⟨_, ⟨"PONG".toList, none, none, none⟩, rfl, by decide +kernel, rfl⟩
    have hpong : Refers ⟨[("PING", "%{PONG}"), ("PONG", "%{PING}")]⟩ "PONG" "PING" :=
      ⟨_, ⟨"PING".toList, none, none, none⟩, rfl, by decide +kernel, rfl⟩
    exact .tail (.single hping) hpong

end Library

end Grok
