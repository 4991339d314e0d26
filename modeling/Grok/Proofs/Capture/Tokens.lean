import Mathlib.Logic.Basic
import Mathlib.Tactic.ClearExcept
import Grok.Proofs.Capture.Places
import Grok.Proofs.Regex.Groups
/-!
What the scan for groups makes of the characters of a token. Main statement: the scan finds a name
in a token exactly if the token opens a named group whose name is spelled in characters that the
scan takes for part of a name, and behind any token it is at a clear place again.
-/
namespace Grok

namespace Regex

/-- A token with the characters that it is read from. -/
structure Lexeme where
  token : Token
  text : List Char

namespace Lexeme

/-- The name of the group that the token opens, if it opens one that has a name. -/
def name? (l : Lexeme) : Option String := l.token.capture?.join

/-- What stands between the angle brackets, where the token opens a group that has a name. -/
def spelling (l : Lexeme) : List Char := (l.text.drop 3).dropLast

/-- Whether a name is spelled in characters that the scan for groups takes for part of a name. -/
def isPlain (l : Lexeme) : Bool := l.spelling.all Capture.isGroupChar

/-- The name that the scan for groups finds in the token. -/
def found? (l : Lexeme) : Option String := if l.isPlain then l.name? else none

/-- A name comes with what spells it. -/
def Spelled (l : Lexeme) : Prop :=
  l.name?.isSome → l.text = '(' :: '?' :: '<' :: (l.spelling ++ ['>'])

variable {t : Token} {a : List Char}

theorem spelling_eq : spelling ⟨t, '(' :: '?' :: '<' :: (a ++ ['>'])⟩ = a := List.dropLast_concat

theorem found?_eq_none {l : Lexeme} (h : l.name? = none) : l.found? = none := by
  rw [found?, h, ite_self]

theorem spelled_of_unnamed {l : Lexeme} (h : l.name? = none) : l.Spelled := by
  rw [Spelled, h]
  nofun

end Lexeme

end Regex

namespace Capture

open Regex (Groups Token Member Fault Lexeme)
open Text (hexDigit? hexNumber? hexStart? escapedPoint?)

variable {g : Groups} {t : Token} {m : Member} {ms : List Member} {c d : Char} {r a ds : List Char}
  {n k w : Nat} {b : Bool}

theorem take_takeWhile_add (q : Char → Bool) (r : List Char) (k : Nat) :
    r.take ((r.takeWhile q).length + k) = r.takeWhile q ++ (r.dropWhile q).take k := by
  have h : (r.takeWhile q ++ r.dropWhile q).take ((r.takeWhile q).length + k) = _ :=
    List.take_length_add_append k
  rwa [List.takeWhile_append_dropWhile] at h

theorem drop_takeWhile (q : Char → Bool) (r : List Char) :
    r.drop (r.takeWhile q).length = r.dropWhile q := by
  have h : (r.takeWhile q ++ r.dropWhile q).drop (r.takeWhile q).length = _ := List.drop_left
  rwa [List.takeWhile_append_dropWhile] at h

/-- Where a run of characters other than `d` ends, the text ends or `d` comes. -/
theorem dropWhile_ne_cases (d : Char) (r : List Char) :
    r.dropWhile (· ≠ d) = [] ∨ ∃ r', r.dropWhile (· ≠ d) = d :: r' := by
  cases hrest : r.dropWhile (· ≠ d) with
  | nil => exact .inl rfl
  | cons c r' =>
    have hc := List.head?_dropWhile_not (fun c : Char => decide (c ≠ d)) r
    simp only [hrest, List.head?_cons, decide_eq_false_iff_not, Classical.not_not] at hc
    exact .inr ⟨r', hc ▸ rfl⟩

/-! ### Numbers -/

theorem passed_hexNumber (h : hexNumber? a = some n) : Passed a := by
  have hall {m : Nat} (h : a.foldlM (fun n c => (hexDigit? c).map (16 * n + ·)) m = some n) :
      ∀ c ∈ a, (hexDigit? c).isSome := by
    clear *- h
    induction a generalizing m with
    | nil => nofun
    | cons c a ih =>
      rw [List.foldlM_cons] at h
      obtain ⟨m', hm', h⟩ := Option.bind_eq_some_iff.1 h
      refine List.forall_mem_cons.2 ⟨?_, ih h⟩
      obtain ⟨v, hv, -⟩ := Option.map_eq_some_iff.1 hm'
      rw [hv]
      rfl
  exact IsInertClass.passed (q := fun c => (hexDigit? c).isSome) (by decide) (hall h)

theorem passed_hexStart (h : hexStart? k r = some n) : Passed (r.take k) := by
  simp only [hexStart?, Option.ite_none_right_eq_some] at h
  exact passed_hexNumber h.2

/-- The second half of a surrogate pair begins with a backslash of its own. -/
theorem passed_escapedPoint (h : escapedPoint? r = some (n, w)) : Passed (r.take w) := by
  unfold escapedPoint? at h
  obtain ⟨m, hm, h⟩ := Option.map_eq_some_iff.1 h
  have hfirst := passed_hexStart hm
  split at h
  · next r' hr' =>
    split at h
    · next m' hm' =>
      split at h
      · obtain ⟨-, rfl⟩ := Prod.mk.inj h
        have hpair : r.take (4 + 6) = r.take 4 ++ '\\' :: 'u' :: r'.take 4 := by
          rw [List.take_add, hr']
          rfl
        rw [hpair]
        exact hfirst.append (.escape (passed_hexStart hm'))
      · obtain ⟨-, rfl⟩ := Prod.mk.inj h
        exact hfirst
    · obtain ⟨-, rfl⟩ := Prod.mk.inj h
      exact hfirst
  · obtain ⟨-, rfl⟩ := Prod.mk.inj h
    exact hfirst

/-! ### Names -/

theorem passed_bracedDigits (h : Regex.bracedDigits? r = some (n, w)) : Passed (r.take w) := by
  simp only [Regex.bracedDigits?, Option.ite_none_left_eq_some, Bool.or_eq_true, not_or] at h
  obtain ⟨⟨-, hclosed⟩, h⟩ := h
  obtain ⟨m, hm, h⟩ := Option.map_eq_some_iff.1 h
  obtain ⟨-, rfl⟩ := Prod.mk.inj h
  obtain ⟨hnumber, -⟩ := Option.filter_eq_some_iff.1 hm
  rw [take_takeWhile_add]
  refine (passed_hexNumber hnumber).append ?_
  obtain hrest | ⟨r', hrest⟩ := dropWhile_ne_cases '}' r
  · rw [hrest]
    exact .nil
  · rw [hrest]
    exact .cons (by decide) .nil

theorem passed_namePoint (h : Regex.namePoint? c r = some (n, w)) (hn : Regex.isNamePoint b n) :
    Passed (c :: r.take w) := by
  unfold Regex.namePoint? at h
  split at h
  · next hc =>
    subst hc
    split at h
    · next r' =>
      obtain ⟨⟨n', w'⟩, hdigits, h⟩ := Option.map_eq_some_iff.1 h
      obtain ⟨-, rfl⟩ := Prod.mk.inj h
      exact .escape (.cons (by decide) (passed_bracedDigits hdigits))
    · next r' _ =>
      obtain ⟨⟨n', w'⟩, hdigits, h⟩ := Option.map_eq_some_iff.1 h
      obtain ⟨-, rfl⟩ := Prod.mk.inj h
      exact .escape (passed_escapedPoint hdigits)
    · cases h
  · obtain ⟨rfl, rfl⟩ := Prod.mk.inj (Option.some.inj h)
    have hclass : IsInertClass fun c => Regex.isNamePoint b c.toNat := by
      cases b <;> decide
    exact .cons (hclass.isInert hn) .nil

/-- A name takes its spelling and the angle bracket behind it, and hides no group. -/
theorem exists_spelling {name : List Char} (h : Regex.groupName? b r = some (name, w)) :
    ∃ a, r.take w = a ++ ['>'] ∧ Passed a := by
  fun_induction Regex.groupName? b r generalizing name w with
  | case1 | case2 | case4 | case6 => cases h
  | case3 b r hb =>
    obtain ⟨-, rfl⟩ := Prod.mk.inj (Option.some.inj h)
    exact ⟨[], rfl, .nil⟩
  | case5 b c r hc n k hpoint hn ih =>
    obtain ⟨⟨name', w'⟩, hrest, h⟩ := Option.map_eq_some_iff.1 h
    obtain ⟨-, rfl⟩ := Prod.mk.inj h
    obtain ⟨a, ha, hpassed⟩ := ih hrest
    refine ⟨c :: r.take k ++ a, ?_, (passed_namePoint hpoint hn).append hpassed⟩
    rw [Nat.add_assoc, Nat.add_comm, List.take_succ_cons, List.take_add, ha]
    simp

theorem passed_groupName {name : List Char} (h : Regex.groupName? b r = some (name, w)) :
    Passed (r.take w) := by
  obtain ⟨a, ha, hpassed⟩ := exists_spelling h
  rw [ha]
  exact hpassed.append (.cons (by decide) .nil)

/-! ### Escapes -/

theorem take_pred_subset (d : Char) (r : List Char) (k : Nat) :
    r.take (k - 1) ⊆ (d :: r).take k := by
  cases k with
  | zero => exact List.nil_subset _
  | succ k => exact List.subset_cons_self _ _

theorem mem_take_octal (h : c ∈ r.take (Regex.octal r).2) : Regex.isOctal c := by
  simp only [Regex.octal] at h
  generalize (if (r.takeWhile Regex.isOctal).head?.any (· ≤ '3') then 3 else 2) = width at h
  have hprefix : (r.takeWhile Regex.isOctal).take width <+: r :=
    (List.take_prefix _ _).trans (List.takeWhile_prefix _)
  rw [← List.prefix_iff_eq_take.1 hprefix] at h
  exact List.all_eq_true.1 List.all_takeWhile c (List.mem_of_mem_take h)

theorem passed_pointEscape (c : Char) (r : List Char) :
    Passed (r.take (Regex.pointEscape c r).2) := by
  unfold Regex.pointEscape
  split
  · exact .nil
  · split
    · exact IsInertClass.passed (q := Regex.isOctal) (by decide) fun d hd =>
        mem_take_octal (take_pred_subset c r _ hd)
    · split
      · split
        · next n hn => exact passed_hexStart hn
        · exact .nil
      · split
        · cases hpoint : escapedPoint? r with
          | none => exact .nil
          | some found => exact passed_escapedPoint hpoint
        · exact .nil

/-- The scan skips what an escape takes; where it takes nothing, it passes what comes. -/
def Escaped (w : Nat) : List Char → Prop
  | [] => False
  | c :: r => (w = 0 → IsInert c) ∧ Passed (r.take (w - 1))

namespace Escaped

theorem single : Escaped 1 (c :: r) := ⟨nofun, .nil⟩

/-- A backslash in front of a `c` can stand for itself. -/
theorem backslash : Escaped 0 ('c' :: r) := ⟨fun _ => by decide, .nil⟩

theorem control (hd : IsInert d) : Escaped 2 ('c' :: d :: r) := ⟨nofun, .cons hd .nil⟩

theorem point : Escaped (1 + (Regex.pointEscape c r).2) (c :: r) := by
  refine ⟨fun h => by omega, ?_⟩
  rw [Nat.add_sub_cancel_left]
  exact passed_pointEscape c r

theorem reference {name : List Char} (h : Regex.groupName? b r = some (name, w)) :
    Escaped (2 + w) ('k' :: '<' :: r) := by
  refine ⟨fun h => by omega, ?_⟩
  rw [Nat.add_comm]
  exact .cons (by decide) (passed_groupName h)

theorem number (h : 0 < Number.digitsValue ((c :: r).takeWhile Char.isDigit)) :
    Escaped ((c :: r).takeWhile Char.isDigit).length (c :: r) := by
  refine ⟨fun hnone => ?_, ?_⟩
  · rw [List.length_eq_zero_iff.1 hnone] at h
    exact absurd h (Nat.lt_irrefl 0)
  · refine IsInertClass.passed (q := Char.isDigit) (by decide) fun d hd => ?_
    have hmem := take_pred_subset c r _ hd
    rw [← List.prefix_iff_eq_take.1 (List.takeWhile_prefix _)] at hmem
    exact List.all_eq_true.1 List.all_takeWhile d hmem

theorem namesFrom_eq (h : Escaped w r) :
    namesFrom ⟨b, false⟩ ('\\' :: r) = namesFrom ⟨b, false⟩ (r.drop w) := by
  cases r with
  | nil => exact h.elim
  | cons c r =>
    obtain ⟨hc, hr⟩ := h
    rw [namesFrom_escape]
    cases w with
    | zero => exact (namesFrom_inert (hc rfl)).symm
    | succ w => exact hr.namesFrom_drop b

end Escaped

theorem escaped_escape (h : Regex.escape g r = .ok (t, w)) : Escaped w r ∧ t.capture? = none := by
  unfold Regex.escape at h
  split at h
  · cases h
  next c r =>
  -- The edges of words.
  split at h
  · cases h
    exact ⟨.single, rfl⟩
  split at h
  · cases h
    exact ⟨.single, rfl⟩
  split at h
  · next hc =>
    subst hc
    split at h
    · next d r =>
      split at h
      · next hd =>
        cases h
        exact ⟨.control (IsInertClass.isInert (q := Char.isAlpha) (by decide) hd), rfl⟩
      · cases h
        exact ⟨.backslash, rfl⟩
    · cases h
      exact ⟨.backslash, rfl⟩
  -- References by name.
  split at h
  · next hk =>
    obtain rfl : c = 'k' := by simpa using (Bool.and_eq_true_iff.1 hk).1
    split at h
    · next r =>
      split at h
      · next name v hname =>
        split at h
        · cases h
          exact ⟨.reference hname, rfl⟩
        · cases h
      · cases h
    · cases h
  split at h
  · cases h
    exact ⟨.single, rfl⟩
  -- References by number, and single characters.
  dsimp only at h
  split at h
  · next hds =>
    cases h
    simp only [Bool.and_eq_true, decide_eq_true_eq] at hds
    exact ⟨.number hds.1.1, rfl⟩
  · cases h
    exact ⟨.point, rfl⟩

theorem escaped_memberEscape (h : Regex.memberEscape g r = .ok (m, w)) : Escaped w r := by
  unfold Regex.memberEscape at h
  split at h
  · cases h
  next c r =>
  split at h
  · cases h
    exact .single
  split at h
  · next hc =>
    subst hc
    split at h
    · next d r =>
      split at h
      · next hd =>
        cases h
        exact .control (IsInertClass.isInert (q := Text.isWord) (by decide) hd)
      · cases h
        exact .backslash
    · cases h
      exact .backslash
  split at h
  · cases h
  split at h
  · cases h
    exact .single
  · cases h
    exact .point

/-! ### Classes -/

theorem namesFrom_member (hc : c ≠ ']') (h : Regex.member g c r = .ok (m, w)) :
    namesFrom ⟨true, false⟩ (c :: r) = namesFrom ⟨true, false⟩ (r.drop w) := by
  unfold Regex.member at h
  split at h
  · next hc' =>
    subst hc'
    exact (escaped_memberEscape h).namesFrom_eq
  · next hc' =>
    split at h
    all_goals
      cases h
      exact namesFrom_class hc' hc

theorem namesFrom_members (h : Regex.members g r = .ok (ms, w)) :
    namesFrom ⟨true, false⟩ r = namesFrom .clear (r.drop w) := by
  fun_induction Regex.members g r generalizing ms w with
  | case1 | case3 | case4 => cases h
  | case2 r =>
    cases h
    exact namesFrom_closing
  | case5 c r hc m k hm ms' v hms ih =>
    cases h
    rw [namesFrom_member hc hm, ih hms, List.drop_drop, Nat.add_comm 1, Nat.add_right_comm,
      List.drop_succ_cons]

theorem namesFrom_classToken (h : Regex.classToken g r = .ok (t, w)) :
    namesFrom .clear ('[' :: r) = namesFrom .clear (r.drop w) ∧ t.capture? = none := by
  simp only [Regex.classToken, bind, Except.bind] at h
  split at h
  · cases h
  · next found hmembers =>
    split at h
    · cases h
    · cases h
      refine ⟨?_, rfl⟩
      rw [Place.clear, namesFrom_bracket, ← List.drop_drop, ← Place.clear,
        ← namesFrom_members hmembers]
      split
      · next hhat =>
        obtain ⟨r, rfl⟩ := List.head?_eq_some_iff.1 (beq_iff_eq.1 hhat)
        exact namesFrom_inert (by decide)
      · rfl

/-! ### Quantifiers -/

theorem passed_bounds {bs : Nat × Option Nat} (h : Regex.bounds? r = some (bs, w)) :
    Passed (r.take w) := by
  have hdigits (r : List Char) : Passed (r.takeWhile Char.isDigit) :=
    IsInertClass.passed (q := Char.isDigit) (by decide) (List.all_eq_true.1 List.all_takeWhile)
  unfold Regex.bounds? Number.spanDigits at h
  dsimp only at h
  split at h
  · cases h
  split at h
  · next r' hr' =>
    cases h
    rw [take_takeWhile_add, hr']
    exact (hdigits r).append (.cons (by decide) .nil)
  · next r' hr' =>
    split at h
    · next r'' hr'' =>
      cases h
      have hbehind : r'.take ((r'.takeWhile Char.isDigit).length + 1) =
          r'.takeWhile Char.isDigit ++ ['}'] := by
        rw [take_takeWhile_add, hr'']
        rfl
      rw [Nat.add_assoc, take_takeWhile_add, hr', ← Nat.add_assoc _ 1 1, List.take_succ_cons,
        hbehind]
      exact (hdigits r).append (.cons (by decide) ((hdigits r').append (.cons (by decide) .nil)))
    · cases h
  · cases h

theorem passed_quantifierToken {least : Nat} {most : Option Nat} (hk : Passed (r.take k))
    (h : Regex.quantifierToken least most k r = (t, w)) :
    Passed (r.take w) ∧ t.capture? = none := by
  unfold Regex.quantifierToken at h
  split at h
  · next hlazy =>
    cases h
    refine ⟨?_, rfl⟩
    obtain ⟨r', hr'⟩ := List.head?_eq_some_iff.1 (beq_iff_eq.1 hlazy)
    rw [List.take_add, hr']
    exact hk.append (.cons (by decide) .nil)
  · cases h
    exact ⟨hk, rfl⟩

/-! ### Groups -/

theorem passed_letters {bs : List Regex.Modifier} (h : a.mapM Regex.modifier? = some bs) :
    Passed a := by
  induction a generalizing bs with
  | nil => exact .nil
  | cons c a ih =>
    rw [List.mapM_cons] at h
    obtain ⟨m, hm, h⟩ := Option.bind_eq_some_iff.1 h
    obtain ⟨ms, hms, -⟩ := Option.bind_eq_some_iff.1 h
    have hclass : IsInertClass fun c => (Regex.modifier? c).isSome := by decide
    exact .cons (hclass.isInert (Option.isSome_of_mem hm)) (ih hms)

theorem passed_modifiers (h : Regex.modifiers r = .ok (t, w)) :
    Passed (('?' :: r).take w) ∧ t.capture? = none := by
  have hsplit (head : List Char) {as bs : List Regex.Modifier}
      (has : (head.takeWhile (· ≠ '-')).mapM Regex.modifier? = some as)
      (hbs : ((head.dropWhile (· ≠ '-')).drop 1).mapM Regex.modifier? = some bs) :
      Passed head := by
    rw [← List.takeWhile_append_dropWhile (p := (· ≠ '-')) (l := head)]
    refine .append (passed_letters has) ?_
    obtain hrest | ⟨r', hrest⟩ := dropWhile_ne_cases '-' head
    · rw [hrest]
      exact .nil
    · rw [hrest] at hbs ⊢
      exact .cons (by decide) (passed_letters hbs)
  simp only [Regex.modifiers, drop_takeWhile] at h
  split at h
  · next r' as bs hr' has hbs =>
    split at h
    · cases h
      refine ⟨.cons (by decide) ?_, rfl⟩
      rw [take_takeWhile_add, hr']
      exact .append (hsplit _ has hbs) (.cons (by decide) .nil)
    · cases h
  · cases h

/-! ### Tokens -/

/-- A name that is spelled in the characters of the scan is read as it is spelled. -/
theorem groupName?_of_plain {name : List Char} (ha : ∀ c ∈ a, isGroupChar c)
    (h : Regex.groupName? b (a ++ '>' :: r) = some (name, w)) : name = a ∧ w = a.length + 1 := by
  induction a generalizing b name w with
  | nil =>
    rw [List.nil_append, Regex.groupName?, if_pos rfl] at h
    split at h
    · cases h
    · cases h
      exact ⟨rfl, rfl⟩
  | cons c a ih =>
    have hc : c ≠ '>' ∧ c ≠ '\\' := by
      have hc := ha c (.head _)
      constructor <;> rintro rfl <;> exact absurd hc (by decide)
    have hpoint : Regex.namePoint? c (a ++ '>' :: r) = some (c.toNat, 0) := by
      unfold Regex.namePoint?
      exact if_neg hc.2
    rw [List.cons_append, Regex.groupName?, if_neg hc.1, hpoint] at h
    simp only [Option.ite_none_right_eq_some, Option.map_eq_some_iff, Prod.mk.injEq] at h
    obtain ⟨-, ⟨name', v⟩, hrest, rfl, rfl⟩ := h
    obtain ⟨rfl, rfl⟩ := ih (fun c hc => ha c (.tail _ hc)) hrest
    rw [Char.ofNat_toNat, List.length_cons]
    exact ⟨rfl, by omega⟩

/-- The scan finds a name exactly if it knows all the characters that spell it. -/
theorem groupName?_eq {name : List Char} (h : Regex.groupName? true r = some (name, w)) :
    ∃ a, r.take w = a ++ ['>'] ∧
      groupName? r = if a.all isGroupChar then some name else none := by
  obtain ⟨a, ha, -⟩ := exists_spelling h
  have hr : r = a ++ '>' :: r.drop w := by
    rw [← List.singleton_append, ← List.append_assoc, ← ha, List.take_append_drop]
  refine ⟨a, ha, ?_⟩
  split
  · next hall =>
    have hplain : ∀ c ∈ a, isGroupChar c := List.all_eq_true.1 hall
    have hread := h
    rw [hr] at hread
    obtain ⟨rfl, -⟩ := groupName?_of_plain hplain hread
    refine groupName?_eq_some_iff.2 ⟨?_, hplain, ha ▸ List.take_prefix w r⟩
    rintro rfl
    rw [List.nil_append, Regex.groupName?, if_pos rfl, if_pos rfl] at hread
    cases hread
  · next hall =>
    rw [Option.eq_none_iff_forall_not_mem]
    intro name' hname'
    obtain ⟨-, hplain, r', hr'⟩ := groupName?_eq_some_iff.1 hname'
    -- The expression would be read the same way, so this would be how the name is spelled.
    rw [← hr', List.append_assoc, List.singleton_append] at h ha
    obtain ⟨rfl, rfl⟩ := groupName?_of_plain hplain h
    rw [List.take_length_add_append, List.take_succ_cons, List.take_zero] at ha
    rw [← List.append_cancel_right ha] at hall
    exact hall (List.all_eq_true.2 hplain)

/-- The scan passes over what belongs to a parenthesis, and finds there what it knows of the name of
the group. -/
theorem openingToken_spec (h : Regex.openingToken r = .ok (t, w)) :
    Passed (r.take w) ∧ Lexeme.Spelled ⟨t, '(' :: r.take w⟩ ∧
      opened? r = (Lexeme.found? ⟨t, '(' :: r.take w⟩).map String.toList := by
  have hunnamed (ht : ∀ a, Lexeme.name? ⟨t, a⟩ = none) (hr : opened? r = none) :
      Lexeme.Spelled ⟨t, '(' :: r.take w⟩ ∧
        opened? r = (Lexeme.found? ⟨t, '(' :: r.take w⟩).map String.toList := by
    rw [hr, Lexeme.found?_eq_none (ht _)]
    exact ⟨Lexeme.spelled_of_unnamed (ht _), rfl⟩
  unfold Regex.openingToken at h
  split at h
  -- The marks of groups that do not capture hold nothing that the scan regards.
  iterate 5
    · cases h
      exact ⟨.of_forall (by simp [IsInert]), hunnamed (fun _ => rfl) rfl⟩
  · next r _ _ =>
    split at h
    · next name v hname =>
      cases h
      obtain ⟨a, ha, hscan⟩ := groupName?_eq hname
      have htake : ('?' :: '<' :: r).take (2 + v) = '?' :: '<' :: (a ++ ['>']) := by
        rw [Nat.add_comm, ← ha]
        rfl
      rw [htake, opened?, hscan, Lexeme.Spelled, Lexeme.found?, Lexeme.isPlain, Lexeme.spelling_eq]
      refine ⟨?_, fun _ => rfl, ?_⟩
      · rw [← ha]
        exact .cons (by decide) (.cons (by decide) (passed_groupName hname))
      · split
        · exact congrArg some String.toList_ofList.symm
        · rfl
    · cases h
  · next r _ _ _ _ hname =>
    obtain ⟨hpassed, hcapture⟩ := passed_modifiers h
    refine ⟨hpassed, hunnamed (fun _ => by rw [Lexeme.name?, hcapture]; rfl) ?_⟩
    exact opened?_of_head fun r' hr' => hname r' (List.cons.inj hr').2
  · next hmark =>
    cases h
    exact ⟨.nil, hunnamed (fun _ => rfl) (opened?_of_head fun r' hr' => hmark _ hr')⟩

/-- Tokens that begin with none of the characters that mean something to the scan. -/
theorem passed_token (hc : c ≠ '\\' ∧ c ≠ '[' ∧ c ≠ '(') (h : Regex.token g c r = .ok (t, w)) :
    Passed (r.take w) ∧ t.capture? = none := by
  have hquantifier {least k : Nat} {most : Option Nat}
      (h : Except.ok (Regex.quantifierToken least most k r) = (.ok (t, w) : Except Fault _))
      (hk : Passed (r.take k)) : Passed (r.take w) ∧ t.capture? = none :=
    passed_quantifierToken hk (Except.ok.inj h)
  rw [Regex.token, if_neg hc.1, if_neg hc.2.1, if_neg hc.2.2] at h
  -- The parenthesis that closes, the bar, the dot and the anchors stand alone.
  iterate 5
    obtain ⟨-, ⟨⟩⟩ | ⟨-, h⟩ := ite_eq_iff.1 h
    · exact ⟨.nil, rfl⟩
  iterate 3
    obtain ⟨-, h⟩ | ⟨-, h⟩ := ite_eq_iff.1 h
    · exact hquantifier h .nil
  obtain ⟨-, h⟩ | ⟨-, ⟨⟩⟩ := ite_eq_iff.1 h
  · split at h
    · next hbounds => exact hquantifier h (passed_bounds hbounds)
    · cases h
      exact ⟨.nil, rfl⟩
  · exact ⟨.nil, rfl⟩

theorem namesFrom_clear_of_ne (hc : c ≠ '\\' ∧ c ≠ '[' ∧ c ≠ '(') :
    namesFrom .clear (c :: r) = namesFrom .clear r := by
  obtain ⟨h1, h2, h3⟩ := hc
  by_cases hclose : c = ']'
  · rw [hclose, Place.clear, namesFrom_closing]
  · exact namesFrom_inert ⟨h1, h2, hclose, h3⟩

/-- The scan of a token: what it finds there comes in front of what it finds behind. -/
theorem namesFrom_token (h : Regex.token g c r = .ok (t, w)) :
    Lexeme.Spelled ⟨t, c :: r.take w⟩ ∧
      namesFrom .clear (c :: r) =
        ((Lexeme.found? ⟨t, c :: r.take w⟩).map String.toList).toList ++
          namesFrom .clear (r.drop w) := by
  have hunnamed (hscan : namesFrom .clear (c :: r) = namesFrom .clear (r.drop w))
      (ht : t.capture? = none) :
      Lexeme.Spelled ⟨t, c :: r.take w⟩ ∧
        namesFrom .clear (c :: r) =
          ((Lexeme.found? ⟨t, c :: r.take w⟩).map String.toList).toList ++
            namesFrom .clear (r.drop w) := by
    have hname : Lexeme.name? ⟨t, c :: r.take w⟩ = none := by
      rw [Lexeme.name?, ht]
      rfl
    rw [hscan, Lexeme.found?_eq_none hname]
    exact ⟨Lexeme.spelled_of_unnamed hname, rfl⟩
  by_cases hback : c = '\\'
  · rw [Regex.token, if_pos hback] at h
    obtain ⟨hescaped, ht⟩ := escaped_escape h
    exact hunnamed (hback ▸ hescaped.namesFrom_eq) ht
  by_cases hbracket : c = '['
  · rw [Regex.token, if_neg hback, if_pos hbracket] at h
    obtain ⟨hscan, ht⟩ := namesFrom_classToken h
    exact hunnamed (hbracket ▸ hscan) ht
  by_cases hparen : c = '('
  · rw [Regex.token, if_neg hback, if_neg hbracket, if_pos hparen] at h
    subst hparen
    obtain ⟨hpassed, hspelled, hopened⟩ := openingToken_spec h
    refine ⟨hspelled, ?_⟩
    rw [namesFrom_paren, hopened]
    exact congrArg _ (hpassed.namesFrom_drop false)
  · obtain ⟨hpassed, ht⟩ := passed_token ⟨hback, hbracket, hparen⟩ h
    refine hunnamed ?_ ht
    rw [namesFrom_clear_of_ne ⟨hback, hbracket, hparen⟩]
    exact hpassed.namesFrom_drop false

end Capture

end Grok
