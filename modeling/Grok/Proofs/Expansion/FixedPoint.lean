import Mathlib
import Grok.Proofs.Expansion.Tree
/-!
What is left of references when a pattern has been expanded. A `%{` of the text that comes out is
one that was malformed in the text where it was written: substitution neither makes nor removes
one. Main statement: an expression is a fixed point of expansion exactly if it holds no `%{`, that
is, if no text on the way held a malformed reference; any `%{` that is left became the start of a
definition, because what comes behind it was put in place of a reference.
-/
namespace Grok

open Reference (read?)

/-- The pieces are those into which their text is scanned. -/
def Scanned (ps : List Piece) : Prop := Piece.ofText (Piece.toText ps) = ps

variable {p : Piece} {ps : List Piece} {r : Reference} {c : Char}
  {a cs rest u ctx inner out : List Char}

theorem scanned_ofText (cs : List Char) : Scanned (Piece.ofText cs) := by
  rw [Scanned, Piece.toText_ofText]

theorem Scanned.read?_plain (h : Scanned (.plain c :: ps)) :
    read? (c :: Piece.toText ps) = none := by
  cases hread : read? (c :: Piece.toText ps) with
  | none => rfl
  | some found =>
    obtain ⟨r, rest⟩ := found
    have hfirst := (Piece.ofText_of_read? hread).symm.trans h
    cases hfirst

theorem Scanned.tail (h : Scanned (p :: ps)) : Scanned ps := by
  cases p with
  | plain c =>
    have hrest := (Piece.ofText_of_read?_eq_none h.read?_plain).symm.trans h
    exact (List.cons.inj hrest).2
  | reference r =>
    have hw : r.Written := Piece.written_of_mem_ofText (h.symm ▸ List.mem_cons_self)
    have hread := Piece.ofText_of_read? (hw.read?_render (Piece.toText ps))
    exact (List.cons.inj (hread.symm.trans h)).2

/-- Only a definition lets a reference hold a parenthesis. -/
theorem Reference.Written.ne_paren (hw : r.Written) (hd : r.definition = none) (hc : c ∈ r.render) :
    c ≠ '(' ∧ c ≠ ')' := by
  have hword : ∀ {c}, Text.isWord c = true → c ≠ '(' ∧ c ≠ ')' := by
    rintro c h
    constructor <;> rintro rfl <;> revert h <;> decide
  have hfield : ∀ {c}, isFieldChar c = true → c ≠ '(' ∧ c ≠ ')' := by
    rintro c h
    constructor <;> rintro rfl <;> revert h <;> decide
  have hpart : ∀ {part : Option (List Char)}, (∀ a ∈ part, ∀ c ∈ a, c ≠ '(' ∧ c ≠ ')') →
      c ∈ renderPart ':' part → c ≠ '(' ∧ c ≠ ')' := by
    intro part h hc
    cases part with
    | none => cases hc
    | some a =>
      obtain rfl | hc := List.mem_cons.1 hc
      · decide
      · exact h a rfl c hc
  simp only [render, hd, renderPart, List.append_nil, List.mem_cons, List.mem_append,
    List.not_mem_nil, or_false] at hc
  obtain rfl | rfl | ((hc | hc) | hc) | rfl := hc
  · decide
  · decide
  · exact hword (hw.name.2 c hc)
  · exact hpart (fun a ha c hc => hfield ((hw.field a ha).2 c hc)) hc
  · exact hpart (fun a ha c hc => hword ((hw.coercion a ha).2 c hc)) hc
  · decide

namespace Expansion

variable {t : Tree} {number : Option Nat}

/-! ### Groups -/

theorem shut_groupName (k : Nat) : Shut (groupName k).toList := by
  have hdigits : Shut (toString k).toList := by
    refine shut_of_all (q := Char.isDigit) (by decide) fun c hc => ?_
    exact Nat.isDigit_of_mem_toDigits (b := 10) (by decide) (by decide) (by simpa using hc)
  rw [groupName, String.toList_append]
  exact (shut_of_not_mem (by decide)).append hdigits

theorem exists_wrap_eq (number : Option Nat) (inner : List Char) :
    ∃ a, wrap (number.map groupName) inner = '(' :: a ++ inner ++ [')'] ∧ Shut ('(' :: a) := by
  cases number with
  | none => exact ⟨"?:".toList, rfl, shut_of_not_mem (by decide)⟩
  | some k =>
    refine ⟨"?<".toList ++ (groupName k).toList ++ ['>'], by simp [wrap], .cons (by decide) ?_⟩
    refine (Shut.append ?_ (shut_groupName k)).append ?_
    · exact shut_of_not_mem (by decide)
    · exact shut_of_not_mem (by decide)

theorem hasOpening_wrap_append :
    HasOpening (wrap (number.map groupName) inner ++ out) ↔ HasOpening inner ∨ HasOpening out := by
  obtain ⟨a, ha, hshut⟩ := exists_wrap_eq number inner
  rw [ha, List.append_assoc, List.append_assoc, hshut.hasOpening_append, List.cons_append,
    List.nil_append, hasOpening_append (by decide), hasOpening_cons_iff]
  simp

namespace Tree

/-- The texts that are written on the way: the pattern itself, and the bodies put in place. -/
def texts (t : Tree) : List (List Piece) := t.pieces :: t.bodies

theorem head?_output_iff : t.output.head? = some '{' ↔ t.pieces.head? = some (.plain '{') := by
  cases t with
  | nil => simp [output, pieces]
  | plain c t => simp [output, pieces]
  | group r number b t =>
    obtain ⟨a, ha, -⟩ := exists_wrap_eq number b.output
    simp [output, pieces, ha]

/-- A `%{` comes out exactly if one was malformed in the text where it was written. -/
theorem hasOpening_output_iff (t : Tree) :
    HasOpening t.output ↔ ∃ w ∈ t.texts, firstMalformed w ≠ none := by
  simp only [texts, List.mem_cons, exists_eq_or_imp]
  induction t with
  | nil => simp [output, pieces, bodies, HasOpening, firstMalformed]
  | plain c t ih =>
    rw [output, pieces, bodies, hasOpening_cons_iff, head?_output_iff, ih,
      firstMalformed_cons_ne_none_iff, Piece.plain.injEq, or_assoc]
  | group r number b t ihb ih =>
    -- The parentheses keep what stands before, in and behind a group apart.
    rw [output, pieces, bodies, hasOpening_wrap_append, ihb, ih, firstMalformed_cons_ne_none_iff]
    simp only [List.mem_append, List.mem_cons, or_and_right, exists_or, exists_eq_left,
      reduceCtorEq, false_and, false_or]
    exact or_left_comm

/-- What comes out agrees with what was written up to the first group. -/
theorem isPrefix_toText (ha : ∀ c ∈ a, c ≠ '(' ∧ c ≠ ')') (hctx : ∀ c ∈ ctx.head?, c = ')')
    (h : a <+: t.output ++ ctx) : a <+: Piece.toText t.pieces := by
  induction t generalizing a with
  | nil =>
    cases a with
    | nil => exact List.nil_prefix
    | cons c a =>
      obtain ⟨rest, rfl⟩ := h
      exact absurd (hctx c rfl) (ha c (.head _)).2
  | plain c t ih =>
    cases a with
    | nil => exact List.nil_prefix
    | cons d a =>
      obtain ⟨rfl, hrest⟩ := List.cons_prefix_cons.1 h
      exact List.cons_prefix_cons.2 ⟨rfl, ih (fun c hc => ha c (.tail _ hc)) hrest⟩
  | group r number b t =>
    cases a with
    | nil => exact List.nil_prefix
    | cons d a =>
      obtain ⟨a', ha', -⟩ := exists_wrap_eq number b.output
      rw [output, ha'] at h
      exact absurd (List.cons_prefix_cons.1 h).1 (ha d (.head _)).1

/-- A `%{` that comes out starts a reference only together with a definition. -/
theorem definition_of_opening (ht : ∀ w ∈ t.texts, Scanned w) (hctx : ∀ c ∈ ctx.head?, c = ')')
    (hu : '%' :: '{' :: u <:+ t.output) (hread : read? ('%' :: '{' :: u ++ ctx) = some (r, rest)) :
    r.definition ≠ none := by
  simp only [texts, List.mem_cons, forall_eq_or_imp] at ht
  induction t generalizing u ctx with
  | nil => simp [output] at hu
  | plain c t ih =>
    obtain ⟨hscanned, hbodies⟩ := ht
    obtain ⟨rfl, hout⟩ | hu := opening_cons_iff.1 hu
    · -- Without a definition the whole reference was there when the text was scanned.
      intro hd
      have hw := Reference.written_of_read? hread
      have hprefix : r.render <+: (plain '%' t).output ++ ctx := by
        rw [output, hout]
        exact ⟨rest, (Reference.eq_render_append hread).symm⟩
      obtain ⟨rest', hrest'⟩ := isPrefix_toText (fun c hc => hw.ne_paren hd hc) hctx hprefix
      have hread' := hw.read?_render rest'
      rw [hrest'] at hread'
      exact Option.some_ne_none _ (hread'.symm.trans hscanned.read?_plain)
    · exact ih hctx hu hread ⟨hscanned.tail, hbodies⟩
  | group r' number b t ihb ih =>
    obtain ⟨hscanned, hbodies⟩ := ht
    simp only [bodies, List.mem_append, List.mem_cons, or_imp, forall_and, forall_eq] at hbodies
    obtain ⟨hinside, hbehind⟩ := hbodies
    obtain ⟨a, ha, hshut⟩ := exists_wrap_eq number b.output
    rw [output, ha, List.append_assoc, List.append_assoc] at hu
    obtain ⟨u', rfl, hu'⟩ | hu' := opening_append (by decide) (hshut _ _ hu)
    · have hclosed : ∀ c ∈ (')' :: t.output ++ ctx).head?, c = ')' := by simp
      exact ihb hclosed hu' (by simpa using hread) hinside
    · obtain ⟨hc, -⟩ | hu' := opening_cons_iff.1 hu'
      · cases hc
      · exact ih hctx hu' hread ⟨hscanned.tail, hbehind⟩

/-- A tree whose text does not change has no groups. -/
theorem bodies_eq_nil (h : t.output = Piece.toText t.pieces) : t.bodies = [] := by
  induction t with
  | nil => rfl
  | plain c t ih => exact ih (List.cons.inj h).2
  | group r number b t =>
    obtain ⟨a, ha, -⟩ := exists_wrap_eq number b.output
    rw [output, ha] at h
    cases h

theorem exists_plain (path : List String) (cs : List Char) :
    ∃ t : Tree, t.pieces = cs.map .plain ∧ t.output = cs ∧ t.Fits path ∧
      ∀ (s : Setting) (st : State), s.Unfolds st t st := by
  induction cs with
  | nil => exact ⟨.nil, rfl, rfl, trivial, fun _ _ => .nil⟩
  | cons c cs ih =>
    obtain ⟨t, hpieces, hout, hfits, hunfolds⟩ := ih
    exact ⟨.plain c t, congrArg _ hpieces, congrArg _ hout, hfits,
      fun s st => .plain (hunfolds s st)⟩

end Tree

theorem Setting.Unfolds.scanned {s : Setting} {st st' : State} (h : s.Unfolds st t st') :
    ∀ w ∈ t.bodies, Scanned w := by
  induction h with
  | nil => nofun
  | plain _ ih => exact ih
  | group _ _ hb _ _ ihb ih =>
    simp only [Tree.bodies, List.mem_append, List.mem_cons]
    rintro w ((rfl | hw) | hw)
    · rw [hb]
      exact scanned_ofText _
    · exact ihb w hw
    · exact ih w hw

end Expansion

theorem Piece.ofText_of_not_hasOpening (h : ¬ HasOpening cs) : ofText cs = cs.map .plain := by
  induction cs with
  | nil => rw [ofText, List.map_nil]
  | cons c cs ih =>
    rw [hasOpening_cons_iff, not_or] at h
    have hread : read? (c :: cs) = none := by
      cases hread : read? (c :: cs) with
      | none => rfl
      | some found =>
        obtain ⟨hc, hcs⟩ := List.cons.inj (Reference.eq_render_append hread)
        exact absurd ⟨hc, by rw [hcs]; rfl⟩ h.1
    rw [ofText_of_read?_eq_none hread, ih h.2, List.map_cons]

namespace Library

open Expansion

variable {l : Library} {namedOnly : Bool} {pattern text : String} {t : Tree} {st : State}

theorem Unfolds.scanned (h : l.Unfolds namedOnly pattern t st) : ∀ w ∈ t.texts, Scanned w := by
  simp only [Tree.texts, List.mem_cons, forall_eq_or_imp]
  exact ⟨h.1 ▸ scanned_ofText _, h.2.scanned⟩

theorem expand_of_not_hasOpening (h : ¬ HasOpening text.toList) :
    l.expand namedOnly text = .ok ⟨text, captureTable [] text.toList⟩ := by
  obtain ⟨t, hpieces, hout, hfits, hunfolds⟩ := Tree.exists_plain [] text.toList
  refine expand_eq_ok_iff.2 ⟨t, _, ⟨?_, hunfolds _ _⟩, hfits, ?_, ?_⟩
  · rw [hpieces, Piece.ofText_of_not_hasOpening h]
  · rw [hout]
    exact fun u hu => absurd ⟨u, hu⟩ h
  · rw [hout, String.ofList_toList]

theorem not_hasOpening_of_expand {x : Expanded} (h : l.expand namedOnly text = .ok x)
    (hx : x.expression = text) : ¬ HasOpening text.toList := by
  obtain ⟨t, st, ⟨ht, -⟩, -, hopens, rfl⟩ := expand_eq_ok_iff.1 h
  have hout : t.output = text.toList := by
    rw [← hx, String.toList_ofList]
  have hbodies : t.bodies = [] := by
    refine Tree.bodies_eq_nil ?_
    rw [hout, ht, Piece.toText_ofText]
  have hwell : firstMalformed t.pieces = none := by
    rw [ht, firstMalformed_eq_none_iff, ← hout]
    exact hopens
  rw [← hout, Tree.hasOpening_output_iff, Tree.texts, hbodies]
  simpa using hwell

/-- What an expression still holds of references. It holds a `%{` exactly if the pattern or a body
put in place held a malformed one; each of them starts a reference with a definition; without any,
every library expands the expression to itself, and with one none does. -/
theorem expand_settles {x : Expanded} (h : l.expand namedOnly pattern = .ok x) :
    ∃ t st, l.Unfolds namedOnly pattern t st ∧ x.expression.toList = t.output ∧
      (HasOpening t.output ↔ ∃ w ∈ t.texts, firstMalformed w ≠ none) ∧
      (∀ u, '%' :: '{' :: u <:+ t.output →
        ∃ r rest, read? ('%' :: '{' :: u) = some (r, rest) ∧ r.definition ≠ none) ∧
      ∀ (l' : Library) (namedOnly' : Bool),
        (¬ HasOpening t.output →
          l'.expand namedOnly' x.expression = .ok ⟨x.expression, captureTable [] t.output⟩) ∧
        (HasOpening t.output →
          ∀ y, l'.expand namedOnly' x.expression = .ok y → y.expression ≠ x.expression) := by
  obtain ⟨t, st, hu, -, hopens, rfl⟩ := expand_eq_ok_iff.1 h
  have hout : (String.ofList t.output).toList = t.output := String.toList_ofList
  refine ⟨t, st, hu, hout, t.hasOpening_output_iff, fun u ht => ?_, fun l' namedOnly' => ⟨?_, ?_⟩⟩
  · obtain ⟨⟨r, rest⟩, hread⟩ := Option.isSome_iff_exists.1 (hopens u ht)
    have hclosed : read? ('%' :: '{' :: u ++ []) = some (r, rest) := by rwa [List.append_nil]
    exact ⟨r, rest, hread, Tree.definition_of_opening hu.scanned (by simp) ht hclosed⟩
  · intro hno
    rw [expand_of_not_hasOpening (by rwa [hout]), hout]
  · intro hopening y hy heq
    exact not_hasOpening_of_expand hy heq (by rwa [hout])

theorem expand_settles_words :
    ∃ x, expand ⟨[("WORD", "w")]⟩ true "%{WORD}:%{WORD}" = .ok x ∧
      ∀ l namedOnly, expand l namedOnly x.expression = .ok x := by
  have hwords : expand ⟨[("WORD", "w")]⟩ true "%{WORD}:%{WORD}" =
      .ok ⟨"(?:w):(?:w)", []⟩ := by cbv
  refine ⟨_, hwords, fun l namedOnly => ?_⟩
  obtain ⟨t, st, -, hout, -, -, hsettled⟩ := expand_settles hwords
  have hno : ¬ HasOpening t.output := by
    rw [← hout]
    decide
  rw [(hsettled l namedOnly).1 hno, ← hout]
  cbv

/-- A reference inside braces that start nothing is replaced, and with its body in place the braces
start a definition. The expression is accepted as it is, although it can be expanded once more. -/
theorem exists_expand_not_settled :
    firstMalformed (Piece.ofText "%{X=%{WORD}}".toList) = some "%{X=%{WORD}}".toList ∧
    expand ⟨[("WORD", "w")]⟩ true "%{X=%{WORD}}" = .ok ⟨"%{X=(?:w)}", []⟩ ∧
    HasOpening "%{X=(?:w)}".toList ∧
    expand ⟨[("WORD", "w")]⟩ true "%{X=(?:w)}" = .ok ⟨"(?:(?:w))", []⟩ :=
  ⟨by cbv, by cbv, ⟨_, List.suffix_refl _⟩, by cbv⟩

end Library

end Grok
