import Mathlib
import Grok.Proofs.Capture.Places
import Grok.Proofs.Expansion.FixedPoint
import Grok.Proofs.Expansion.Numbering
/-!
The captures of an expanded pattern, read off its tree. Main statement: where no reference stands in
a class or behind a backslash that hides it, and no body leaves anything open, the groups of the
expression are those of the texts in the order of the tree, and every reference that feeds a field
has the group of its own number.
-/
namespace Grok

open Capture (Place namesFrom openedAt opened? isGroupChar IsInert)

variable {p : Place} {ps : List Piece} {r : Reference}

/-- The characters in front of the first reference. -/
def leading : List Piece → List Char
  | .plain c :: ps => c :: leading ps
  | _ => []

/-- The place behind some pieces. What a reference stands for leaves nothing open. -/
def placeBehind (p : Place) : List Piece → Place
  | [] => p
  | .plain c :: ps => placeBehind (p.behind c) ps
  | .reference _ :: ps => placeBehind p ps

/-- No reference stands in a class or right behind a backslash that hides it. -/
def StandClear (p : Place) : List Piece → Prop
  | [] => True
  | .plain c :: ps => StandClear (p.behind c) ps
  | .reference _ :: ps => p = .clear ∧ StandClear p ps

instance StandClear.decidable : (p : Place) → (ps : List Piece) → Decidable (StandClear p ps)
  | _, [] => isTrue trivial
  | p, .plain c :: ps => decidable (p.behind c) ps
  | p, .reference _ :: ps =>
    have := decidable p ps
    inferInstanceAs (Decidable (_ ∧ _))

/-- The names of the groups that are written in a text. -/
def writtenNames (p : Place) : List Piece → List (List Char)
  | [] => []
  | .plain c :: ps => (openedAt p c (leading ps)).toList ++ writtenNames (p.behind c) ps
  | .reference _ :: ps => writtenNames p ps

namespace Expansion

/-- What opens a group: a name written in some text, or a reference. -/
inductive Mark where
  | written (name : List Char)
  | reference (r : Reference)

namespace Tree

/-- What opens the groups of a tree, from the outside in and from left to right. -/
def marks (p : Place) : Tree → List Mark
  | .nil => []
  | .plain c t => (openedAt p c (leading t.pieces)).toList.map .written ++ t.marks (p.behind c)
  | .group r _ b t => .reference r :: (b.marks .clear ++ t.marks p)

/-- In no text of the tree a reference stands in a class or is hidden, no body leaves a class open
or hides what comes behind it, and no written group has a name that is kept for numbered ones. -/
structure Neat (t : Tree) : Prop where
  standClear : ∀ w ∈ t.texts, StandClear .clear w
  placeBehind_eq : ∀ w ∈ t.bodies, placeBehind .clear w = .clear
  unreserved : ∀ w ∈ t.texts, ∀ name ∈ writtenNames .clear w,
    ¬ (String.ofList name).startsWith groupPrefix

end Tree

/-- The coercion that a type asks for. -/
def coercionNamed? : String → Option Coercion
  | "int" => some .int
  | "float" => some .float
  | _ => none

/-- What a reference feeds: its own field, with its own coercion, or else the field of its name if
references without a field feed one. -/
def feeds? (namedOnly : Bool) (r : Reference) : Option Target :=
  match r.field with
  | some field =>
    let type? := r.coercion.map String.ofList
    some ⟨String.ofList field, (type?.bind coercionNamed?).getD .text⟩
  | none => if namedOnly then none else some ⟨r.key, .text⟩

/-- The capture table of some marks: references that feed something are numbered from `k` on, and
groups with a name feed the field of that name. -/
def tableFrom (namedOnly : Bool) (k : Nat) : List Mark → List CaptureField
  | [] => []
  | .written name :: ms =>
    ⟨String.ofList name, String.ofList name, .text⟩ :: tableFrom namedOnly k ms
  | .reference r :: ms =>
    match feeds? namedOnly r with
    | none => tableFrom namedOnly k ms
    | some target =>
      ⟨groupName k, target.field, target.coercion⟩ :: tableFrom namedOnly (k + 1) ms

/-- How many of some marks are references that feed something. -/
def fed (namedOnly : Bool) : List Mark → Nat
  | [] => 0
  | .written _ :: ms => fed namedOnly ms
  | .reference r :: ms => (if (feeds? namedOnly r).isSome then 1 else 0) + fed namedOnly ms

section Tables

variable {namedOnly : Bool} {k : Nat} {ms ns : List Mark} {name? : Option (List Char)}

theorem fed_append : fed namedOnly (ms ++ ns) = fed namedOnly ms + fed namedOnly ns := by
  induction ms with
  | nil => exact (Nat.zero_add _).symm
  | cons m ms ih =>
    cases m with
    | written name => exact ih
    | reference r =>
      rw [List.cons_append, fed, fed, ih]
      omega

theorem fed_written : fed namedOnly (name?.toList.map .written) = 0 := by
  cases name? <;> rfl

theorem tableFrom_append : tableFrom namedOnly k (ms ++ ns) =
    tableFrom namedOnly k ms ++ tableFrom namedOnly (k + fed namedOnly ms) ns := by
  induction ms generalizing k with
  | nil => rfl
  | cons m ms ih =>
    cases m with
    | written name => simp only [List.cons_append, tableFrom, fed, ih]
    | reference r =>
      cases hr : feeds? namedOnly r with
      | none => simp [tableFrom, fed, hr, ih]
      | some target => simp [tableFrom, fed, hr, ih, Nat.add_assoc]

theorem groups_written : (tableFrom namedOnly k (name?.toList.map .written)).map (·.group.toList) =
    name?.toList := by
  cases name? <;> simp [tableFrom]

end Tables

variable {s : Setting} {st st' : State} {t : Tree} {target : Option Target} {ctx : List Char}

theorem ofType_eq_ok {type field : String} {c : Coercion} (h : Coercion.ofType type field = .ok c) :
    coercionNamed? type = some c := by
  unfold Coercion.ofType at h
  split at h
  · next ht =>
    subst ht
    cases h
    rfl
  · split at h
    · next ht =>
      subst ht
      cases h
      rfl
    · cases h

theorem Setting.target_eq_ok (h : s.target r = .ok target) : feeds? s.namedOnly r = target := by
  unfold Setting.target at h
  unfold feeds?
  split at h
  · next field type hfield htype =>
    dsimp only at h
    rw [hfield, htype]
    cases hc : Coercion.ofType (String.ofList type) (String.ofList field) with
    | error e =>
      rw [hc] at h
      cases h
    | ok c =>
      rw [hc] at h
      cases h
      simp [ofType_eq_ok hc]
  · next field hfield htype =>
    cases h
    rw [hfield, htype]
    rfl
  · next hfield =>
    cases h
    rw [hfield]

theorem Setting.Unfolds.nextGroup_eq (h : s.Unfolds st t st') (p : Place) :
    st'.nextGroup = st.nextGroup + fed s.namedOnly (t.marks p) := by
  induction h generalizing p with
  | nil => rfl
  | plain _ ih => rw [ih, Tree.marks, fed_append, fed_written, Nat.zero_add]
  | @group r body target b t st st₁ st₂ st' hbody htarget _ _ _ ihb ih =>
    have hnumber : (st₁.number target).2.nextGroup =
        st.nextGroup + if target.isSome then 1 else 0 := by
      rw [← (body_keeps hbody).2]
      cases target <;> rfl
    rw [ih p, ihb .clear, hnumber, Tree.marks, fed, fed_append, target_eq_ok htarget]
    omega

/-! ### The names of the text that comes out -/

theorem isGroupChar_groupName (k : Nat) : ∀ c ∈ (groupName k).toList, isGroupChar c := by
  have hdigit {c : Char} (h : c.isDigit) : isGroupChar c := by
    have hascii : c.toNat < 0x80 := by
      simp only [Char.isDigit, Bool.and_eq_true, decide_eq_true_eq] at h
      exact lt_of_le_of_lt (show c.toNat ≤ 57 from h.2) (by decide)
    simp [isGroupChar, Text.isAlphanumeric, hascii, Char.isAlphanum, h]
  have hprefix : groupPrefix.toList.all isGroupChar := by decide
  rw [groupName, String.toList_append]
  intro c hc
  obtain hc | hc := List.mem_append.1 hc
  · exact List.all_eq_true.1 hprefix c hc
  · exact hdigit (Nat.isDigit_of_mem_toDigits (b := 10) (by decide) (by decide) (by simpa using hc))

theorem groupName_ne_nil (k : Nat) : (groupName k).toList ≠ [] := by
  rw [groupName, String.toList_append]
  exact List.append_ne_nil_of_left_ne_nil (by decide) _

/-- What a group puts in front of its body: nothing there hides or closes anything, and a number
makes it open the group of that number. -/
theorem exists_wrap_opening (number : Option Nat) (inner : List Char) :
    ∃ a, wrap (number.map groupName) inner = '(' :: a ++ inner ++ [')'] ∧ Capture.Passed a ∧
      ∀ r, opened? (a ++ r) = number.map fun k => (groupName k).toList := by
  cases number with
  | none =>
    exact ⟨['?', ':'], rfl, .of_forall (by simp [IsInert]),
      fun r => Capture.opened?_of_head (by simp)⟩
  | some k =>
    refine ⟨'?' :: '<' :: ((groupName k).toList ++ ['>']), by simp [wrap], ?_, fun r => ?_⟩
    · exact .cons (by decide) (.cons (by decide) (.append
        (Capture.isInertClass_isGroupChar.passed (isGroupChar_groupName k))
        (.cons (by decide) .nil)))
    · exact Capture.opened?_eq_some_iff.2
        ⟨groupName_ne_nil k, isGroupChar_groupName k, List.prefix_append _ _⟩

theorem namesFrom_wrap {number : Option Nat} {inner out : List Char} :
    namesFrom p (wrap (number.map groupName) inner ++ out) =
      (if p = .clear then number.toList.map fun k => (groupName k).toList else []) ++
        namesFrom ⟨p.inClass, false⟩ (inner ++ ')' :: out) := by
  obtain ⟨a, ha, hpassed, hopened⟩ := exists_wrap_opening number inner
  have hout : wrap (number.map groupName) inner ++ out = '(' :: (a ++ (inner ++ ')' :: out)) := by
    simp [ha]
  have hbehind : p.behind '(' = ⟨p.inClass, false⟩ := by
    obtain ⟨b, _ | _⟩ := p <;> rfl
  rw [hout, namesFrom, hbehind, hpassed]
  split
  · next hp =>
    subst hp
    rw [Capture.openedAt_clear, hopened]
    cases number <;> rfl
  · next hp => rw [Capture.openedAt_of_not_clear hp, Option.toList_none]

theorem Tree.exists_output_eq (t : Tree) (hctx : ∀ c ∈ ctx.head?, c = ')') :
    ∃ y, t.output ++ ctx = leading t.pieces ++ y ∧ ∀ c ∈ y.head?, c = '(' ∨ c = ')' := by
  induction t with
  | nil => exact ⟨ctx, rfl, fun c hc => .inr (hctx c hc)⟩
  | plain c t ih =>
    obtain ⟨y, hy, hhead⟩ := ih
    exact ⟨y, congrArg (List.cons c) hy, hhead⟩
  | group r number b t =>
    obtain ⟨a, ha, -⟩ := exists_wrap_eq number b.output
    refine ⟨_, rfl, fun c hc => .inl ?_⟩
    rw [output, ha] at hc
    exact (Option.some.inj hc).symm

/-- A group that opens in a text is one that was written there. -/
theorem Tree.openedAt_output (t : Tree) (hctx : ∀ c ∈ ctx.head?, c = ')') (p : Place) (c : Char) :
    openedAt p c (t.output ++ ctx) = openedAt p c (leading t.pieces) := by
  obtain ⟨y, hy, hhead⟩ := t.exists_output_eq hctx
  rw [openedAt, openedAt, hy, Capture.opened?_append hhead]

/-- The scan of what comes out finds the groups of the table: at a reference it is at a clear place,
and so it is again behind the body. -/
theorem Setting.Unfolds.namesFrom_output (h : s.Unfolds st t st')
    (hclear : StandClear p t.pieces) (hbodies : ∀ w ∈ t.bodies, StandClear .clear w)
    (hplaces : ∀ w ∈ t.bodies, placeBehind .clear w = .clear) (hctx : ∀ c ∈ ctx.head?, c = ')') :
    namesFrom p (t.output ++ ctx) =
      (tableFrom s.namedOnly st.nextGroup (t.marks p)).map (·.group.toList) ++
        namesFrom (placeBehind p t.pieces) ctx := by
  induction h generalizing p ctx with
  | nil => rfl
  | @plain c t st st' _ ih =>
    rw [Tree.output, List.cons_append, namesFrom, Tree.openedAt_output t hctx,
      ih hclear hbodies hplaces hctx, Tree.marks, tableFrom_append, fed_written, List.map_append,
      groups_written, List.append_assoc]
    rfl
  | @group r body target b t st st₁ st₂ st' hbody htarget hb hub _ ihb ih =>
    obtain ⟨rfl, hclear⟩ := hclear
    simp only [Tree.bodies, List.cons_append, List.mem_cons, List.mem_append, or_imp, forall_and,
      forall_eq] at hbodies hplaces
    obtain ⟨hclearb, hbodiesb, hbodies⟩ := hbodies
    obtain ⟨hplaceb, hplacesb, hplaces⟩ := hplaces
    have hnext := (body_keeps hbody).2
    have hclosed : ∀ c ∈ (')' :: (t.output ++ ctx)).head?, c = ')' := by simp
    have hinside := ihb hclearb hbodiesb hplacesb hclosed
    rw [Place.clear] at hinside hplaceb
    rw [Tree.output, List.append_assoc, namesFrom_wrap, if_pos rfl, Place.clear, hinside, hplaceb,
      Capture.namesFrom_inert (by decide), ← Place.clear, ih hclear hbodies hplaces hctx]
    have hbehind := hub.nextGroup_eq .clear
    rw [hbehind, Tree.marks, tableFrom, target_eq_ok htarget]
    cases target with
    | none => simp [State.number, hnext, tableFrom_append, placeBehind, Tree.pieces]
    | some target => simp [State.number, hnext, tableFrom_append, placeBehind, Tree.pieces]

theorem Tree.mem_writtenNames {name : List Char} (h : .written name ∈ t.marks p) :
    name ∈ writtenNames p t.pieces ∨ ∃ w ∈ t.bodies, name ∈ writtenNames .clear w := by
  induction t generalizing p with
  | nil => cases h
  | plain c t ih =>
    obtain h | h := List.mem_append.1 h
    · obtain ⟨_, hname, ⟨⟩⟩ := List.mem_map.1 h
      exact .inl (List.mem_append_left _ hname)
    · exact (ih h).imp_left (List.mem_append_right _)
  | group r number b t ihb ih =>
    simp only [marks, List.mem_cons, reduceCtorEq, List.mem_append, false_or] at h
    obtain h | h := h
    · refine .inr ?_
      obtain h | ⟨w, hw, h⟩ := ihb h
      · exact ⟨_, List.mem_cons_self, h⟩
      · exact ⟨w, by simp [bodies, hw], h⟩
    · obtain h | ⟨w, hw, h⟩ := ih h
      · exact .inl h
      · exact .inr ⟨w, by simp [bodies, hw], h⟩

/-- Every row of the table is what its group feeds in the end. -/
theorem Setting.Unfolds.captureOf_table (h : s.Unfolds st t st') (hst : st.Numbered)
    (hnames : ∀ name, .written name ∈ t.marks p → ¬ (String.ofList name).startsWith groupPrefix) :
    ∀ f ∈ tableFrom s.namedOnly st.nextGroup (t.marks p),
      captureOf st'.targets f.group = some f := by
  induction h generalizing p with
  | nil => nofun
  | @plain c t st st' hu ih =>
    simp only [Tree.marks, List.mem_append, or_imp, forall_and] at hnames
    obtain ⟨hwritten, hnames⟩ := hnames
    rw [Tree.marks, tableFrom_append, fed_written]
    intro f hf
    obtain hf | hf := List.mem_append.1 hf
    · cases hopened : openedAt p c (leading t.pieces) with
      | none =>
        rw [hopened] at hf
        cases hf
      | some name =>
        rw [hopened] at hf hwritten
        obtain rfl := List.mem_singleton.1 hf
        exact (hu.numbered hst).captureOf_of_not_startsWith (hwritten name (.head _))
    · exact ih hst hnames f hf
  | @group r body target b t st st₁ st₂ st' hbody htarget hb hub hu ihb ih =>
    obtain ⟨htargets, hnext⟩ := body_keeps hbody
    have hst₁ : st₁.Numbered := hst.of_eq htargets hnext
    have hst₂ := hub.numbered (hst₁.number target)
    simp only [Tree.marks, List.mem_cons, List.mem_append, reduceCtorEq, false_or, or_imp,
      forall_and] at hnames
    obtain ⟨hnamesb, hnames⟩ := hnames
    have hinside (f) (hf : f ∈ tableFrom s.namedOnly (st₁.number target).2.nextGroup
        (b.marks .clear ++ t.marks p)) : captureOf st'.targets f.group = some f := by
      rw [tableFrom_append, ← hub.nextGroup_eq, List.mem_append] at hf
      obtain hf | hf := hf
      · exact hu.captureOf_eq hst₂ (ihb (hst₁.number target) hnamesb f hf)
      · exact ih hst₂ hnames f hf
    rw [Tree.marks, tableFrom, target_eq_ok htarget, ← hnext]
    cases target with
    | none => exact hinside
    | some target =>
      intro f hf
      obtain rfl | hf := List.mem_cons.1 hf
      · refine hu.captureOf_eq hst₂ (hub.captureOf_eq (hst₁.number _) ?_)
        simp [captureOf, State.number]
      · exact hinside f hf

theorem Setting.Unfolds.captureTable_output (h : s.Unfolds st t st') (hst : st.Numbered)
    (hneat : t.Neat) :
    captureTable st'.targets t.output = tableFrom s.namedOnly st.nextGroup (t.marks .clear) := by
  obtain ⟨hclear, hplaces, hnames⟩ := hneat
  simp only [Tree.texts, List.mem_cons, forall_eq_or_imp] at hclear hnames
  have hend : ∀ c ∈ ([] : List Char).head?, c = ')' := by simp
  have hscan := h.namesFrom_output hclear.1 hclear.2 hplaces hend
  rw [List.append_nil, Capture.namesFrom_nil, List.append_nil] at hscan
  have hrows := h.captureOf_table hst fun name hname => by
    obtain hname | ⟨w, hw, hname⟩ := Tree.mem_writtenNames hname
    · exact hnames.1 name hname
    · exact hnames.2 w hw name hname
  simp only [captureTable, Capture.namedGroups_eq, hscan, List.map_map, List.filterMap_map,
    Function.comp_def, String.ofList_toList]
  rw [List.filterMap_congr hrows, List.filterMap_some]

end Expansion

namespace Library

open Expansion

variable {l : Library} {namedOnly : Bool} {pattern : String} {t : Tree} {st : State}

/-- What feeds what. The captures of a pattern whose tree is neat are the groups written in its
texts, each for the field of its name, and the references that feed something, numbered in the
order of the tree, each for its own field and with its own coercion. -/
theorem captures_eq_tableFrom {x : Expanded} (h : l.expand namedOnly pattern = .ok x) :
    ∃ t st, l.Unfolds namedOnly pattern t st ∧ x.expression.toList = t.output ∧
      (t.Neat → x.captures = tableFrom namedOnly 0 (t.marks .clear)) := by
  obtain ⟨t, st, hu, -, -, rfl⟩ := expand_eq_ok_iff.1 h
  exact ⟨t, st, hu, String.toList_ofList, hu.2.captureTable_output State.numbered_empty⟩

theorem captures_eq_tableFrom_pair :
    ∃ x, expand ⟨[("P", "(?<k>a)%{W:w:int}"), ("W", "x")]⟩ true "%{P:p}" = .ok x ∧
      x.captures = [⟨"__grok0", "p", .text⟩, ⟨"k", "k", .text⟩, ⟨"__grok1", "w", .int⟩] := by
  obtain ⟨l, hl⟩ : ∃ l : Library, l = ⟨[("P", "(?<k>a)%{W:w:int}"), ("W", "x")]⟩ := ⟨_, rfl⟩
  have hexpand : l.expand true "%{P:p}" = .ok ⟨"(?<__grok0>(?<k>a)(?<__grok1>x))",
      [⟨"__grok0", "p", .text⟩, ⟨"k", "k", .text⟩, ⟨"__grok1", "w", .int⟩]⟩ := by
    subst hl
    cbv
  have hP : Setting.body ⟨l, true, "%{P:p}"⟩ ⟨"P".toList, some "p".toList, none, none⟩
      ⟨[], [], 0⟩ = .ok ("(?<k>a)%{W:w:int}".toList, ⟨[], [], 0⟩) := by
    subst hl
    cbv
  have hW : Setting.body ⟨l, true, "%{P:p}"⟩ ⟨"W".toList, some "w".toList, some "int".toList, none⟩
      ⟨[], [("__grok0", ⟨"p", .text⟩)], 1⟩ =
        .ok ("x".toList, ⟨[], [("__grok0", ⟨"p", .text⟩)], 1⟩) := by
    subst hl
    cbv
  have hw := @Setting.Unfolds.group _ _ _ (some ⟨"w", .int⟩) (.plain 'x' .nil) .nil _ _ _ _
    hW rfl (by cbv) (.plain .nil) .nil
  have hp := @Setting.Unfolds.group _ _ _ (some ⟨"p", .text⟩) _ .nil _ _ _ _
    hP rfl (by cbv) (.plain (.plain (.plain (.plain (.plain (.plain (.plain hw))))))) .nil
  obtain ⟨t, st, ⟨ht, hu⟩, -, hcaptures⟩ := captures_eq_tableFrom hexpand
  have hpieces : Piece.ofText "%{P:p}".toList =
      [.reference ⟨"P".toList, some "p".toList, none, none⟩] := by cbv
  rw [ht, hpieces] at hu
  obtain ⟨rfl, rfl⟩ := hu.unique hp (ht.trans hpieces)
  refine ⟨_, by rw [← hl, hexpand], (hcaptures ⟨?_, ?_, ?_⟩).trans ?_⟩
  · decide
  · decide
  · decide
  · decide +kernel

end Library

end Grok
