import Mathlib
import Grok.Proofs.Reference.Grammar
import Grok.Text.Clip
/-!
The references of a text with the bytes that they span. No reference swallows or hides another one,
whatever stands between them. Main statement: the references of two texts with a written reference
between them are those of the one, that reference, and those of the other; what is found in a text
are the written references that stand in it, each at its place and one behind the other; and what is
reported as malformed is the first `%{` that none of them starts with.
-/
namespace Grok

open Text

namespace Text

variable {cs a b : List Char}

@[simp] theorem utf8Length_append (a b : List Char) :
    utf8Length (a ++ b) = utf8Length a + utf8Length b := by
  induction a with
  | nil => simp [utf8Length]
  | cons c a ih => simp [utf8Length, ih, Nat.add_assoc]

theorem utf8Length_le_of_suffix (h : a <:+ b) : utf8Length a ≤ utf8Length b := by
  obtain ⟨c, rfl⟩ := h
  simp

end Text

/-- A reference in a text, with the bytes where its rendering starts and stops. -/
structure Occurrence where
  start : Nat
  stop : Nat
  reference : Reference
  deriving DecidableEq, Repr

namespace Occurrence

/-- The same reference with `n` bytes in front. -/
def shift (n : Nat) (o : Occurrence) : Occurrence := ⟨n + o.start, n + o.stop, o.reference⟩

@[simp] theorem shift_start (n : Nat) (o : Occurrence) : (o.shift n).start = n + o.start := rfl

@[simp] theorem shift_stop (n : Nat) (o : Occurrence) : (o.shift n).stop = n + o.stop := rfl

@[simp] theorem shift_reference (n : Nat) (o : Occurrence) :
    (o.shift n).reference = o.reference := rfl

@[simp] theorem shift_shift (m n : Nat) (o : Occurrence) :
    (o.shift n).shift m = o.shift (m + n) := by
  simp [shift, Nat.add_assoc]

/-- The reference can be written, and the bytes it spans are its rendering. -/
structure StandsIn (o : Occurrence) (cs : List Char) : Prop where
  written : o.reference.Written
  span : ∃ a b, cs = a ++ o.reference.render ++ b ∧ o.start = utf8Length a ∧
    o.stop = utf8Length (a ++ o.reference.render)

end Occurrence

variable {c : Char} {cs rest a b t : List Char} {r : Reference} {ps qs : List Piece}
  {o : Occurrence} {n : Nat}

/-! ### Between the pieces of a text -/

namespace Reference

theorem read?_eq_some_iff : read? cs = some (r, rest) ↔ r.Written ∧ cs = r.render ++ rest :=
  ⟨fun h => ⟨written_of_read? h, eq_render_append h⟩, fun ⟨h, hcs⟩ => hcs ▸ h.read?_render rest⟩

/-- Text in front of a `%{` is not read as a reference that goes on behind it. -/
theorem read?_append_opening (h : read? (c :: a) = none) :
    read? (c :: a ++ '%' :: '{' :: t) = none := by
  rw [Option.eq_none_iff_forall_ne_some]
  rintro ⟨r, rest⟩ hread
  obtain ⟨hw, hcs⟩ := read?_eq_some_iff.1 hread
  have hopening : '%' :: '{' :: t <:+ r.render ++ rest := hcs ▸ List.suffix_append _ _
  -- A reference holds a `%{` at its start only, so this one is the whole of it or stands behind it.
  obtain heq | ⟨b, rfl⟩ := hw.opening hopening
  · rw [← heq] at hcs
    exact absurd (List.append_left_eq_self.1 hcs) (List.cons_ne_nil c a)
  · rw [← List.append_assoc, List.append_cancel_right_eq] at hcs
    rw [hcs, hw.read?_render] at h
    cases h

end Reference

namespace Piece

theorem ofText_append_opening (a t : List Char) :
    ofText (a ++ '%' :: '{' :: t) = ofText a ++ ofText ('%' :: '{' :: t) := by
  fun_induction ofText a with
  | case1 => rfl
  | case2 c a r rest hread _ ih =>
    obtain ⟨hw, hcs⟩ := Reference.read?_eq_some_iff.1 hread
    have hread' : Reference.read? (c :: (a ++ '%' :: '{' :: t)) =
        some (r, rest ++ '%' :: '{' :: t) := by
      rw [← List.cons_append, hcs, List.append_assoc, hw.read?_render]
    rw [List.cons_append, ofText_of_read? hread', ih, List.cons_append]
  | case3 c a hread ih =>
    have hread' := Reference.read?_append_opening hread (t := t)
    rw [List.cons_append] at hread' ⊢
    rw [ofText_of_read?_eq_none hread', ih, List.cons_append]

/-- A written reference is a piece of its own wherever it stands. -/
theorem ofText_render_append (h : r.Written) (a b : List Char) :
    ofText (a ++ r.render ++ b) = ofText a ++ .reference r :: ofText b := by
  obtain ⟨t, ht, -⟩ := h.shut
  have hread := h.read?_render b
  rw [List.append_assoc, ht, List.cons_append, List.cons_append] at *
  rw [ofText_append_opening, ofText_of_read? hread]

@[simp] theorem toText_append (ps qs : List Piece) : toText (ps ++ qs) = toText ps ++ toText qs :=
  List.flatMap_append

@[simp] theorem toText_cons (p : Piece) (ps : List Piece) :
    toText (p :: ps) = p.render ++ toText ps :=
  List.flatMap_cons

/-- The references among the pieces, with the bytes that they span. -/
def occurrences : List Piece → List Occurrence
  | [] => []
  | .plain c :: ps => (occurrences ps).map (·.shift c.utf8Size)
  | .reference r :: ps =>
    ⟨0, utf8Length r.render, r⟩ :: (occurrences ps).map (·.shift (utf8Length r.render))

theorem occurrences_append (ps qs : List Piece) :
    occurrences (ps ++ qs) =
      occurrences ps ++ (occurrences qs).map (·.shift (utf8Length (toText ps))) := by
  induction ps with
  | nil => simp [occurrences, toText, utf8Length, Occurrence.shift]
  | cons p ps ih =>
    cases p with
    | plain c => simp [occurrences, ih, render, utf8Length, Function.comp_def]
    | reference r => simp [occurrences, ih, render, Function.comp_def]

theorem exists_of_mem_occurrences (h : o ∈ occurrences ps) :
    ∃ qs qs', ps = qs ++ .reference o.reference :: qs' ∧ o.start = utf8Length (toText qs) ∧
      o.stop = utf8Length (toText qs ++ o.reference.render) := by
  induction ps generalizing o with
  | nil => cases h
  | cons p ps ih =>
    have hlater (hmem : o ∈ (occurrences ps).map (·.shift (utf8Length p.render))) :
        ∃ qs qs', p :: ps = qs ++ .reference o.reference :: qs' ∧
          o.start = utf8Length (toText qs) ∧
          o.stop = utf8Length (toText qs ++ o.reference.render) := by
      obtain ⟨o, ho, rfl⟩ := List.mem_map.1 hmem
      obtain ⟨qs, qs', rfl, hstart, hstop⟩ := ih ho
      exact ⟨p :: qs, qs', rfl, by simp [hstart], by simp [hstop]⟩
    cases p with
    | plain c => exact hlater (by simpa [occurrences, render, utf8Length] using h)
    | reference r =>
      obtain rfl | h := List.mem_cons.1 h
      · exact ⟨[], ps, rfl, rfl, rfl⟩
      · exact hlater h

theorem pairwise_occurrences (ps : List Piece) :
    (occurrences ps).Pairwise fun o o' => o.stop ≤ o'.start := by
  induction ps with
  | nil => exact .nil
  | cons p ps ih =>
    have hshift (n : Nat) :
        ((occurrences ps).map (·.shift n)).Pairwise fun o o' => o.stop ≤ o'.start :=
      ih.map _ fun o o' h => Nat.add_le_add_left h n
    cases p with
    | plain c => exact hshift _
    | reference r =>
      refine .cons (fun o ho => ?_) (hshift _)
      obtain ⟨o, -, rfl⟩ := List.mem_map.1 ho
      exact Nat.le_add_right _ _

end Piece

/-! ### Scanning -/

/-- The references of a text, with the bytes that they span. -/
def scan (cs : List Char) : List Occurrence := Piece.occurrences (Piece.ofText cs)

theorem scan_append_render (h : r.Written) (a b : List Char) :
    scan (a ++ r.render ++ b) =
      scan a ++ ⟨utf8Length a, utf8Length (a ++ r.render), r⟩ ::
        (scan b).map (·.shift (utf8Length (a ++ r.render))) := by
  rw [scan, Piece.ofText_render_append h, Piece.occurrences_append, Piece.toText_ofText]
  simp [Piece.occurrences, scan, Occurrence.shift, Function.comp_def, Nat.add_assoc]

theorem mem_scan_iff : o ∈ scan cs ↔ o.StandsIn cs := by
  constructor
  · intro h
    obtain ⟨qs, qs', hpieces, hstart, hstop⟩ := Piece.exists_of_mem_occurrences h
    have hmem : .reference o.reference ∈ Piece.ofText cs := by simp [hpieces]
    refine ⟨Piece.written_of_mem_ofText hmem, Piece.toText qs, Piece.toText qs', ?_, hstart, hstop⟩
    rw [← Piece.toText_ofText cs, hpieces]
    simp [Piece.render]
  · rintro ⟨hw, a, b, rfl, hstart, hstop⟩
    rw [scan_append_render hw, ← hstart, ← hstop]
    simp

/-! ### What is malformed -/

/-- The text starts with `%{` and with no reference. -/
def Malformed (t : List Char) : Prop :=
  (∃ u, t = '%' :: '{' :: u) ∧ ∀ r b, Reference.Written r → t ≠ r.render ++ b

theorem malformed_iff : Malformed t ↔ (∃ u, t = '%' :: '{' :: u) ∧ Reference.read? t = none := by
  refine and_congr_right fun _ => ?_
  rw [Option.eq_none_iff_forall_ne_some, Prod.forall]
  exact forall₂_congr fun r b => by rw [ne_eq, ne_eq, Reference.read?_eq_some_iff, not_and]

/-- What is reported is the longest end of the text that is malformed. -/
theorem longest_of_firstMalformed (h : firstMalformed (Piece.ofText cs) = some t) :
    t <:+ cs ∧ Malformed t ∧ ∀ u, u <:+ cs → Malformed u → u <:+ t := by
  fun_induction Piece.ofText cs with
  | case1 => cases h
  | case2 c cs r rest hread _ ih =>
    rw [firstMalformed_cons (by simp)] at h
    obtain ⟨hsuffix, ht, hlongest⟩ := ih h
    obtain ⟨hw, hcs⟩ := Reference.read?_eq_some_iff.1 hread
    rw [hcs]
    refine ⟨hsuffix.trans (List.suffix_append _ _), ht, fun u hu hu' => ?_⟩
    obtain ⟨v, rfl⟩ := hu'.1
    obtain heq | hu := hw.opening hu
    · exact absurd heq (hu'.2 r rest hw)
    · exact hlongest _ hu hu'
  | case3 c cs hread ih =>
    by_cases hfirst : c = '%' ∧ (Piece.ofText cs).head? = some (.plain '{')
    · obtain ⟨rfl, hhead⟩ := hfirst
      obtain ⟨u, rfl⟩ := Piece.eq_cons_of_ofText hhead
      rw [Piece.ofText_of_read?_eq_none (Reference.read?_of_ne (by decide) u), firstMalformed,
        Piece.toText_ofText, Option.some.injEq] at h
      subst h
      exact ⟨List.suffix_refl _, malformed_iff.2 ⟨⟨u, rfl⟩, hread⟩, fun v hv _ => hv⟩
    · rw [firstMalformed_cons (by simpa using hfirst)] at h
      obtain ⟨hsuffix, ht, hlongest⟩ := ih h
      refine ⟨hsuffix.trans (List.suffix_cons _ _), ht, fun u hu hu' => ?_⟩
      obtain ⟨v, rfl⟩ := hu'.1
      obtain ⟨rfl, rfl⟩ | hu := opening_cons_iff.1 hu
      · refine absurd ⟨rfl, ?_⟩ hfirst
        rw [Piece.ofText_of_read?_eq_none (Reference.read?_of_ne (by decide) v)]
        rfl
      · exact hlongest _ hu hu'

/-- The byte from which on the text is reported as malformed. -/
def malformedOffset (cs : List Char) : Option Nat :=
  (firstMalformed (Piece.ofText cs)).map fun t => utf8Length cs - utf8Length t

/-- The bytes at which a `%{` starts no written reference. -/
def malformedOffsets (cs : List Char) : Set Nat :=
  {n | ∃ a t, cs = a ++ t ∧ Malformed t ∧ n = utf8Length a}

theorem isLeast_of_malformedOffset (h : malformedOffset cs = some n) :
    IsLeast (malformedOffsets cs) n := by
  obtain ⟨t, ht, rfl⟩ := Option.map_eq_some_iff.1 h
  obtain ⟨⟨a, rfl⟩, hmalformed, hlongest⟩ := longest_of_firstMalformed ht
  have hoffset : utf8Length (a ++ t) - utf8Length t = utf8Length a := by simp
  rw [hoffset]
  refine ⟨⟨a, t, rfl, hmalformed, rfl⟩, ?_⟩
  rintro n ⟨b, u, heq, hu, rfl⟩
  have hle := utf8Length_le_of_suffix (hlongest u (heq ▸ List.suffix_append _ _) hu)
  have hsum := congrArg utf8Length heq
  rw [utf8Length_append, utf8Length_append] at hsum
  omega

theorem malformedOffset_eq_some_iff :
    malformedOffset cs = some n ↔ IsLeast (malformedOffsets cs) n := by
  refine ⟨isLeast_of_malformedOffset, fun h => ?_⟩
  cases hoffset : malformedOffset cs with
  | some m => rw [(isLeast_of_malformedOffset hoffset).unique h]
  | none =>
    obtain ⟨a, t, rfl, hmalformed, -⟩ := h.1
    obtain ⟨⟨u, rfl⟩, hread⟩ := malformed_iff.1 hmalformed
    have hopens := (firstMalformed_eq_none_iff _).1 (Option.map_eq_none_iff.1 hoffset)
    have hsome := hopens u (List.suffix_append _ _)
    rw [hread] at hsome
    cases hsome

/-- Scanning splits at every written reference: what stands before and behind it is scanned by
itself. What it finds are the written references that stand in the text, each behind the one
before, and what is reported is the first `%{` that none of them starts with. -/
theorem scan_compositional :
    (∀ r a b, Reference.Written r → scan (a ++ r.render ++ b) =
      scan a ++ ⟨utf8Length a, utf8Length (a ++ r.render), r⟩ ::
        (scan b).map (·.shift (utf8Length (a ++ r.render)))) ∧
    ∀ cs, (∀ o, o ∈ scan cs ↔ o.StandsIn cs) ∧
      ((scan cs).Pairwise fun o o' => o.stop ≤ o'.start) ∧
      ∀ n, malformedOffset cs = some n ↔ IsLeast (malformedOffsets cs) n :=
  ⟨fun _ a b h => scan_append_render h a b, fun _ =>
    ⟨fun _ => mem_scan_iff, Piece.pairwise_occurrences _, fun _ => malformedOffset_eq_some_iff⟩⟩

/-- A reference with every part and an escaped brace, between a `%{` that starts nothing and a brace
that ends nothing. -/
theorem scan_compositional_between :
    Reference.Written ⟨['A'], some ['b'], some ['i', 'n', 't'], some ['\\', '\x7d', '%']⟩ ∧
      scan "%%\x7bx y\x7d%\x7bA:b:int=\\\x7d%\x7d\x7dé%\x7bB\x7d".toList =
        [⟨7, 21, ⟨['A'], some ['b'], some ['i', 'n', 't'], some ['\\', '\x7d', '%']⟩⟩,
          ⟨24, 28, ⟨['B'], none, none, none⟩⟩] ∧
      malformedOffset "%%\x7bx y\x7d%\x7bA:b:int=\\\x7d%\x7d\x7dé%\x7bB\x7d".toList = some 1 := by
  have hw : Reference.Written
      ⟨['A'], some ['b'], some ['i', 'n', 't'], some ['\\', '\x7d', '%']⟩ := by
    refine ⟨⟨by decide, List.all_eq_true.1 rfl⟩, ?_, ?_, nofun, ?_⟩
    · rintro f ⟨⟩
      exact ⟨by decide, List.all_eq_true.1 rfl⟩
    · rintro t ⟨⟩
      exact ⟨by decide, List.all_eq_true.1 rfl⟩
    · rintro d ⟨⟩
      exact ⟨by decide, .escape (by decide) (.plain (by decide) (by decide) (by decide) .nil)⟩
  have hscan := scan_compositional.1 _ "%%\x7bx y\x7d".toList "\x7dé%\x7bB\x7d".toList hw
  have hbefore : scan "%%\x7bx y\x7d".toList = [] := by cbv
  have hbehind : scan "\x7dé%\x7bB\x7d".toList = [⟨3, 7, ⟨['B'], none, none, none⟩⟩] := by cbv
  rw [hbefore, hbehind] at hscan
  exact ⟨hw, hscan, by cbv⟩

end Grok
