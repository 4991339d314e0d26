import Mathlib
import Grok.Proofs.Expansion.Captures
/-!
Which groups of an expression feed what. An expression has the groups that are written in the texts
of its tree, and those of references that stand at a clear place; a row of its table is found by
the name of a group alone. Main statement: a numbered group feeds what its reference asks for, and
no written group feeds the field of a reference exactly if none has the name of a number that was
given to one.
-/
namespace Grok

open Capture (Place namesFrom openedAt)

namespace Expansion

/-- What opens a group of the text that comes out: a name written in some text, or a reference with
its number. -/
inductive Opening where
  | written (name : List Char)
  | numbered (k : Nat) (r : Reference)

namespace Opening

def name : Opening → String
  | .written name => String.ofList name
  | .numbered k _ => groupName k

def number? : Opening → Option (Nat × Reference)
  | .written _ => none
  | .numbered k r => some (k, r)

end Opening

namespace Tree

/-- The references of a tree that are numbered, with their numbers. -/
def numbered : Tree → List (Nat × Reference)
  | .nil => []
  | .plain _ t => t.numbered
  | .group r number b t => number.toList.map (·, r) ++ (b.numbered ++ t.numbered)

/-- The place behind the text that comes out. -/
def placeBehind (p : Place) : Tree → Place
  | .nil => p
  | .plain c t => t.placeBehind (p.behind c)
  | .group _ _ b t => t.placeBehind ((b.placeBehind ⟨p.inClass, false⟩).behind ')')

/-- What opens the groups of the text that comes out. The parenthesis of a reference opens nothing
in a class or behind a backslash. -/
def openings (p : Place) : Tree → List Opening
  | .nil => []
  | .plain c t => (openedAt p c (leading t.pieces)).toList.map .written ++ t.openings (p.behind c)
  | .group r number b t =>
    (if p = .clear then number.toList.map (.numbered · r) else []) ++
      (b.openings ⟨p.inClass, false⟩ ++
        t.openings ((b.placeBehind ⟨p.inClass, false⟩).behind ')'))

/-- No written group has the name of a number that was given to a reference. -/
def Apart (t : Tree) : Prop :=
  ∀ name, .written name ∈ t.openings .clear → ∀ n ∈ t.numbered, groupName n.1 ≠ String.ofList name

end Tree

/-- The reference whose number makes a name. -/
def owner? (ns : List (Nat × Reference)) (name : String) : Option Reference :=
  (ns.find? fun n => groupName n.1 = name).map Prod.snd

/-- The row of a name in a capture table: what the reference feeds whose number makes the name, or
else the field of that name, unless the name is kept for numbers. -/
def rowOf (namedOnly : Bool) (ns : List (Nat × Reference)) (name : String) : Option CaptureField :=
  match owner? ns name with
  | some r => (feeds? namedOnly r).map fun target => ⟨name, target.field, target.coercion⟩
  | none => if name.startsWith groupPrefix then none else some ⟨name, name, .text⟩

variable {s : Setting} {st st' : State} {t : Tree} {p : Place} {ctx name : List Char} {k : Nat}
  {r : Reference} {ns : List (Nat × Reference)} {namedOnly : Bool}

/-! ### The groups of the text that comes out -/

/-- The scan of what comes out finds the openings of the tree. -/
theorem Tree.namesFrom_output (t : Tree) (p : Place) (hctx : ∀ c ∈ ctx.head?, c = ')') :
    (namesFrom p (t.output ++ ctx)).map String.ofList = (t.openings p).map Opening.name ++
      (namesFrom (t.placeBehind p) ctx).map String.ofList := by
  induction t generalizing p ctx with
  | nil => rfl
  | plain c t ih =>
    rw [output, List.cons_append, namesFrom, t.openedAt_output hctx, List.map_append, ih _ hctx,
      openings, List.map_append, List.map_map, List.append_assoc]
    rfl
  | group r number b t ihb ih =>
    have hclosed : ∀ c ∈ (')' :: (t.output ++ ctx)).head?, c = ')' := by simp
    rw [output, List.append_assoc, namesFrom_wrap, List.map_append, ihb _ hclosed,
      Capture.namesFrom_cons_of_ne (by decide), ih _ hctx, openings, List.map_append,
      List.map_append, List.append_assoc, List.append_assoc, placeBehind]
    congr 1
    split
    · simp [Function.comp_def, Opening.name]
    · rfl

theorem Tree.namedGroups_output (t : Tree) :
    Capture.namedGroups t.output = (t.openings .clear).map Opening.name := by
  have hend : ∀ c ∈ ([] : List Char).head?, c = ')' := by simp
  have hscan := t.namesFrom_output .clear hend
  rwa [List.append_nil, Capture.namesFrom_nil, List.map_nil, List.append_nil,
    ← Capture.namedGroups_eq] at hscan

theorem Tree.numbers_openings (t : Tree) (p : Place) :
    ((t.openings p).filterMap Opening.number?).Sublist t.numbered := by
  induction t generalizing p with
  | nil => exact .slnil
  | plain c t ih =>
    have hwritten (os : List (List Char)) : (os.map .written).filterMap Opening.number? = [] := by
      simp [Opening.number?]
    rw [openings, List.filterMap_append, hwritten, List.nil_append]
    exact ih _
  | group r number b t ihb ih =>
    rw [openings, numbered, List.filterMap_append, List.filterMap_append]
    refine .append ?_ ((ihb _).append (ih _))
    split
    · cases number <;> exact .refl _
    · exact List.nil_sublist _

/-! ### The numbers of references -/

namespace Setting.Unfolds

/-- References are numbered one after the other. -/
theorem numbers_eq (h : s.Unfolds st t st') :
    t.numbered.map Prod.fst = List.range' st.nextGroup t.numbered.length ∧
      st'.nextGroup = st.nextGroup + t.numbered.length := by
  induction h with
  | nil => exact ⟨rfl, rfl⟩
  | plain _ ih => exact ih
  | @group r body target b t st st₁ st₂ st' hbody _ _ _ _ ihb ih =>
    obtain ⟨hnumbersb, hnextb⟩ := ihb
    obtain ⟨hnumbers, hnext⟩ := ih
    have hown : (target.map fun _ => st₁.nextGroup).toList =
        List.range' st.nextGroup target.toList.length := by
      rw [(body_keeps hbody).2]
      cases target <;> rfl
    have hnumber : (st₁.number target).2.nextGroup = st.nextGroup + target.toList.length := by
      rw [← (body_keeps hbody).2]
      cases target <;> rfl
    have hlength : ((target.map fun _ => st₁.nextGroup).toList.map (·, r)).length =
        target.toList.length := by
      cases target <;> rfl
    rw [hnumber] at hnumbersb hnextb
    rw [hnextb] at hnumbers hnext
    constructor
    · rw [Tree.numbered, List.map_append, List.map_append, hnumbersb, hnumbers, List.map_map,
        List.length_append, List.length_append, hlength, ← List.range'_append_1,
        ← List.range'_append_1, ← hown]
      simp [Function.comp_def]
    · rw [Tree.numbered, List.length_append, List.length_append, hlength, hnext]
      omega

/-- The group of a numbered reference feeds what the reference asks for. -/
theorem get?_numbered (h : s.Unfolds st t st') (hr : (k, r) ∈ t.numbered) :
    ∃ target, feeds? s.namedOnly r = some target ∧
      st'.targets.get? (groupName k) = some target := by
  induction h with
  | nil => cases hr
  | plain _ ih => exact ih hr
  | @group r₀ body target b t st st₁ st₂ st' hbody htarget _ hub hu ihb ih =>
    obtain hr | hr | hr := (List.mem_append.1 hr).imp_right List.mem_append.1
    · obtain ⟨k, hk, hown⟩ := List.mem_map.1 hr
      cases hown
      cases target with
      | none => cases hk
      | some target =>
        obtain rfl := List.mem_singleton.1 hk
        have hlt : st₁.nextGroup < (st₁.number (some target)).2.nextGroup := Nat.lt_succ_self _
        refine ⟨target, target_eq_ok htarget, ?_⟩
        rw [hu.get?_groupName (hlt.trans_le hub.nextGroup_le), hub.get?_groupName hlt]
        exact Table.get?_put_self _ _ _
    · obtain ⟨target, hfeeds, hfound⟩ := ihb hr
      refine ⟨target, hfeeds, ?_⟩
      have hlt : k < st₂.nextGroup := by
        have hk := List.mem_map_of_mem (f := Prod.fst) hr
        rw [hub.numbers_eq.1, List.mem_range'_1] at hk
        rw [hub.numbers_eq.2]
        exact hk.2
      rw [hu.get?_groupName hlt, hfound]
    · exact ih hr

end Setting.Unfolds

/-! ### The rows of the table -/

theorem owner?_eq_some_iff (hns : (ns.map Prod.fst).Nodup) {name : String} :
    owner? ns name = some r ↔ ∃ k, (k, r) ∈ ns ∧ groupName k = name := by
  simp only [owner?, Option.map_eq_some_iff, Prod.exists, exists_eq_right]
  constructor
  · rintro ⟨k, hfound⟩
    exact ⟨k, List.mem_of_find?_eq_some hfound, by simpa using List.find?_some hfound⟩
  · rintro ⟨k, hr, rfl⟩
    cases hfound : ns.find? fun n => groupName n.1 = groupName k with
    | none => simpa using List.find?_eq_none.1 hfound _ hr
    | some n =>
      have hk : n.1 = k := groupName_injective (by simpa using List.find?_some hfound)
      have hsame := List.inj_on_of_nodup_map hns (List.mem_of_find?_eq_some hfound) hr hk
      exact ⟨k, by rw [hsame]⟩

theorem owner?_eq_none_iff {name : String} :
    owner? ns name = none ↔ ∀ n ∈ ns, groupName n.1 ≠ name := by
  simp [owner?]

/-- The row of a number is that of its reference. -/
theorem rowOf_groupName (hns : (ns.map Prod.fst).Nodup) (hr : (k, r) ∈ ns) :
    rowOf namedOnly ns (groupName k) = (feeds? namedOnly r).map fun target =>
      ⟨groupName k, target.field, target.coercion⟩ := by
  rw [rowOf, (owner?_eq_some_iff hns).2 ⟨k, hr, rfl⟩]

theorem group_of_rowOf {name : String} {c : CaptureField}
    (h : rowOf namedOnly ns name = some c) : c.group = name := by
  unfold rowOf at h
  split at h
  · obtain ⟨_, -, rfl⟩ := Option.map_eq_some_iff.1 h
    rfl
  · obtain ⟨-, h⟩ := Option.ite_none_left_eq_some.1 h
    cases h
    rfl

/-- The names of a table that are kept for numbers are those of numbered groups, if no written group
with such a name feeds anything. -/
theorem reserved_rows {os : List Opening}
    (hnumbered : ∀ k r, .numbered k r ∈ os → (rowOf namedOnly ns (groupName k)).isSome)
    (hwritten : ∀ name, .written name ∈ os → (String.ofList name).startsWith groupPrefix →
      rowOf namedOnly ns (String.ofList name) = none) :
    ((os.filterMap fun o => rowOf namedOnly ns o.name).map (·.group)).filter
        (·.startsWith groupPrefix) =
      (os.filterMap Opening.number?).map fun n => groupName n.1 := by
  induction os with
  | nil => rfl
  | cons o os ih =>
    simp only [List.mem_cons, or_imp, forall_and] at hnumbered hwritten
    have hrest := ih hnumbered.2 hwritten.2
    cases o with
    | written name =>
      have hname : (Opening.written name).name = String.ofList name := rfl
      have hnone : (Opening.written name).number? = none := rfl
      rw [List.filterMap_cons_none hnone]
      cases hrow : rowOf namedOnly ns (String.ofList name) with
      | none => rwa [List.filterMap_cons_none (by rw [hname, hrow])]
      | some c =>
        have hfree : ¬ (String.ofList name).startsWith groupPrefix := fun h => by
          cases hrow.symm.trans (hwritten.1 name rfl h)
        rwa [List.filterMap_cons_some (by rw [hname, hrow]), List.map_cons,
          group_of_rowOf hrow, List.filter_cons, if_neg hfree]
    | numbered k r =>
      have hname : (Opening.numbered k r).name = groupName k := rfl
      have hsome : (Opening.numbered k r).number? = some (k, r) := rfl
      obtain ⟨c, hrow⟩ := Option.isSome_iff_exists.1 (hnumbered.1 k r rfl)
      rw [List.filterMap_cons_some hsome, List.filterMap_cons_some (by rw [hname, hrow]),
        List.map_cons, group_of_rowOf hrow, List.filter_cons, if_pos (startsWith_groupName k), hrest,
        List.map_cons]

/-- In the end every group feeds what its row says. -/
theorem Setting.Unfolds.captureOf_eq_rowOf (h : s.Unfolds st t st') (hst : st.Numbered)
    (hzero : st.nextGroup = 0) (g : String) :
    captureOf st'.targets g = rowOf s.namedOnly t.numbered g := by
  obtain ⟨hnumbers, hnext⟩ := h.numbers_eq
  rw [hzero, ← List.range_eq_range'] at hnumbers
  have hnodup : (t.numbered.map Prod.fst).Nodup := hnumbers ▸ List.nodup_range
  cases howner : owner? t.numbered g with
  | some r =>
    obtain ⟨k, hr, rfl⟩ := (owner?_eq_some_iff hnodup).1 howner
    obtain ⟨target, hfeeds, hfound⟩ := h.get?_numbered hr
    simp [captureOf, rowOf, howner, hfeeds, hfound]
  | none =>
    have hnone : st'.targets.get? g = none := by
      rw [← Option.not_isSome_iff_eq_none, h.numbered hst g]
      rintro ⟨k, hk, rfl⟩
      have hmem : k ∈ t.numbered.map Prod.fst := by
        rw [hnumbers, List.mem_range]
        omega
      obtain ⟨n, hn, rfl⟩ := List.mem_map.1 hmem
      exact owner?_eq_none_iff.1 howner n hn rfl
    rw [captureOf, rowOf, howner, hnone]

end Expansion

namespace Library

open Expansion

variable {l : Library} {namedOnly : Bool} {pattern : String} {t : Tree} {st : State}

theorem Unfolds.numbers_eq (h : l.Unfolds namedOnly pattern t st) :
    t.numbered.map Prod.fst = List.range t.numbered.length := by
  rw [List.range_eq_range']
  exact h.2.numbers_eq.1

theorem Unfolds.captureTable_eq (h : l.Unfolds namedOnly pattern t st) :
    captureTable st.targets t.output =
      (t.openings .clear).filterMap fun o => rowOf namedOnly t.numbered o.name := by
  rw [captureTable, t.namedGroups_output, List.filterMap_map]
  exact List.filterMap_congr fun o _ => h.2.captureOf_eq_rowOf State.numbered_empty rfl o.name

theorem Unfolds.rowOf_groupName (h : l.Unfolds namedOnly pattern t st) {k : Nat} {r : Reference}
    (hr : (k, r) ∈ t.numbered) : ∃ target, feeds? namedOnly r = some target ∧
      rowOf namedOnly t.numbered (groupName k) =
        some ⟨groupName k, target.field, target.coercion⟩ := by
  obtain ⟨target, hfeeds, -⟩ := h.2.get?_numbered hr
  have hnodup : (t.numbered.map Prod.fst).Nodup := h.numbers_eq ▸ List.nodup_range
  exact ⟨target, hfeeds, by rw [Expansion.rowOf_groupName hnodup hr, hfeeds, Option.map_some]⟩

/-- A written group with a name that is kept for numbers feeds nothing, as long as the name is not
that of a number that was given. -/
theorem Unfolds.apart_iff (h : l.Unfolds namedOnly pattern t st) :
    t.Apart ↔ ∀ name, .written name ∈ t.openings .clear →
      (String.ofList name).startsWith groupPrefix →
        rowOf namedOnly t.numbered (String.ofList name) = none := by
  constructor
  · intro hapart name hname hprefix
    rw [rowOf, owner?_eq_none_iff.2 (hapart name hname)]
    exact if_pos hprefix
  · rintro hnone name hname ⟨k, r⟩ hr hk
    obtain ⟨target, -, hrow⟩ := h.rowOf_groupName hr
    have hfree := hnone name hname (hk ▸ startsWith_groupName k)
    rw [← hk, hrow] at hfree
    cases hfree

/-- A written group can have the name of a number. -/
theorem exists_unfolds_clashing :
    ∃ t st, Unfolds ⟨[("WORD", "b")]⟩ true "(?<__grok0>a)%{WORD:w}" t st ∧
      t.openings .clear = [.written "__grok0".toList,
        .numbered 0 ⟨"WORD".toList, some "w".toList, none, none⟩] ∧
      t.numbered = [(0, ⟨"WORD".toList, some "w".toList, none, none⟩)] := by
  obtain ⟨s, hs⟩ : ∃ s : Expansion.Setting,
    s = ⟨⟨[("WORD", "b")]⟩, true, "(?<__grok0>a)%{WORD:w}"⟩ := ⟨_, rfl⟩
  have hbody : s.body ⟨"WORD".toList, some "w".toList, none, none⟩ ⟨[], [], 0⟩ =
      .ok ("b".toList, ⟨[], [], 0⟩) := by
    subst hs
    cbv
  obtain ⟨u, hu⟩ : ∃ u, u = Tree.group ⟨"WORD".toList, some "w".toList, none, none⟩ (some 0)
    (.plain 'b' .nil) .nil := ⟨_, rfl⟩
  have hgroup : s.Unfolds ⟨[], [], 0⟩ u ⟨[], [("__grok0", ⟨"w", .text⟩)], 1⟩ := by
    subst hu
    exact .group hbody rfl (by cbv) (.plain .nil) .nil
  have hplain (cs : List Char) : s.Unfolds ⟨[], [], 0⟩ (cs.foldr .plain u)
      ⟨[], [("__grok0", ⟨"w", .text⟩)], 1⟩ := by
    induction cs with
    | nil => exact hgroup
    | cons c cs ih => exact .plain ih
  obtain ⟨t, ht⟩ : ∃ t, t = "(?<__grok0>a)".toList.foldr Tree.plain u := ⟨_, rfl⟩
  have hpieces : t.pieces = Piece.ofText "(?<__grok0>a)%{WORD:w}".toList := by
    subst ht hu
    cbv
  have hdefinitions : localDefinitions t.pieces = [] := by
    subst ht hu
    cbv
  refine ⟨t, ⟨[], [("__grok0", ⟨"w", .text⟩)], 1⟩, ⟨hpieces, ?_⟩, ?_, ?_⟩
  · rw [hdefinitions, ← hs, ht]
    exact hplain _
  · subst ht hu
    cbv
  · subst ht hu
    cbv

/-- Which groups feed what. The rows of a capture table are those of the groups that open in the
tree, found by their names alone. A numbered group feeds what its reference asks for. Written groups
whose names are kept for numbers feed nothing exactly if none has the name of a number that was
given to a reference; then the names of the table that are kept for numbers are those of numbered
groups, each once. -/
theorem captures_eq_rows {x : Expanded} (h : l.expand namedOnly pattern = .ok x) :
    ∃ t st, l.Unfolds namedOnly pattern t st ∧ x.expression.toList = t.output ∧
      x.captures = (t.openings .clear).filterMap (fun o => rowOf namedOnly t.numbered o.name) ∧
      ((t.openings .clear).filterMap Opening.number?).Sublist t.numbered ∧
      t.numbered.map Prod.fst = List.range t.numbered.length ∧
      (∀ k r, (k, r) ∈ t.numbered → ∃ target, feeds? namedOnly r = some target ∧
        rowOf namedOnly t.numbered (groupName k) =
          some ⟨groupName k, target.field, target.coercion⟩) ∧
      (t.Apart ↔ ∀ name, .written name ∈ t.openings .clear →
        (String.ofList name).startsWith groupPrefix →
          rowOf namedOnly t.numbered (String.ofList name) = none) ∧
      (t.Apart →
        (x.captures.map (·.group)).filter (·.startsWith groupPrefix) =
          ((t.openings .clear).filterMap Opening.number?).map (fun n => groupName n.1) ∧
        ((x.captures.map (·.group)).filter (·.startsWith groupPrefix)).Nodup) := by
  obtain ⟨t, st, hu, -, -, rfl⟩ := expand_eq_ok_iff.1 h
  have hsublist := t.numbers_openings .clear
  refine ⟨t, st, hu, String.toList_ofList, hu.captureTable_eq, hsublist, hu.numbers_eq,
    fun _ _ => hu.rowOf_groupName, hu.apart_iff, fun hapart => ?_⟩
  have hnumbered (k r) (hr : .numbered k r ∈ t.openings .clear) :
      (rowOf namedOnly t.numbered (groupName k)).isSome := by
    have hmem := hsublist.subset (List.mem_filterMap.2 ⟨_, hr, rfl⟩)
    obtain ⟨target, -, hrow⟩ := hu.rowOf_groupName hmem
    rw [hrow, Option.isSome_some]
  have hreserved := reserved_rows hnumbered (hu.apart_iff.1 hapart)
  dsimp only
  rw [hu.captureTable_eq, hreserved]
  refine ⟨rfl, (hsublist.map _).nodup ?_⟩
  have hnames : t.numbered.map (fun n => groupName n.1) =
      (List.range t.numbered.length).map groupName := by
    rw [← hu.numbers_eq, List.map_map]
    rfl
  rw [hnames]
  exact List.nodup_range.map fun _ _ => groupName_injective

theorem captures_eq_rows_clashing :
    ∃ x t st, expand ⟨[("WORD", "b")]⟩ true "(?<__grok0>a)%{WORD:w}" = .ok x ∧
      Unfolds ⟨[("WORD", "b")]⟩ true "(?<__grok0>a)%{WORD:w}" t st ∧ ¬ t.Apart ∧
      .written "__grok0".toList ∈ t.openings .clear ∧
      rowOf true t.numbered (groupName 0) = some ⟨"__grok0", "w", .text⟩ := by
  have hexpand : expand ⟨[("WORD", "b")]⟩ true "(?<__grok0>a)%{WORD:w}" =
      .ok ⟨"(?<__grok0>a)(?<__grok0>b)",
        [⟨"__grok0", "w", .text⟩, ⟨"__grok0", "w", .text⟩]⟩ := by cbv
  obtain ⟨u, st, hu, hopenings, hnumbered⟩ := exists_unfolds_clashing
  obtain ⟨t, st', ht, -, -, -, -, hrows, hapart, -⟩ := captures_eq_rows hexpand
  obtain ⟨rfl, -⟩ := ht.unique hu
  have hwritten : .written "__grok0".toList ∈ t.openings .clear := by simp [hopenings]
  obtain ⟨target, hfeeds, hrow⟩ := hrows 0 _ (hnumbered ▸ List.mem_singleton_self _)
  cases hfeeds
  refine ⟨_, t, st', hexpand, ht, fun h => ?_, hwritten, hrow⟩
  have hnone := hapart.1 h _ hwritten (by cbv)
  cases hnone.symm.trans hrow

/-- A written group can be attributed to the field of a reference. -/
theorem exists_attributed_group :
    ¬ ∀ (l : Library) (namedOnly : Bool) (pattern : String) (x : Expanded) (t : Tree) (st : State),
      l.expand namedOnly pattern = .ok x → l.Unfolds namedOnly pattern t st →
        ((x.captures.map (·.group)).filter (·.startsWith groupPrefix)).Nodup ∧
        ∀ name, .written name ∈ t.openings .clear → ∀ c ∈ x.captures,
          c.group = String.ofList name → c.field = c.group := by
  intro h
  have hexpand : expand ⟨[("WORD", "b")]⟩ true "(?<__grok0>a)%{WORD:w}" =
      .ok ⟨"(?<__grok0>a)(?<__grok0>b)",
        [⟨"__grok0", "w", .text⟩, ⟨"__grok0", "w", .text⟩]⟩ := by cbv
  obtain ⟨t, st, hu, hopenings, -⟩ := exists_unfolds_clashing
  have hwritten : .written "__grok0".toList ∈ t.openings .clear := by simp [hopenings]
  exact absurd ((h _ _ _ _ t st hexpand hu).2 _ hwritten _ (.head _) rfl) (by decide)

end Library

end Grok
