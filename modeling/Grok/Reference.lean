import Grok.Text.Alphabet
/-!
References in pattern text: `%{NAME:field:type=definition}`, where all but the name may be left
out and a type needs a field. Main statement: a text that is read as a reference is the rendering of
that reference followed by the rest of the text.
-/
namespace Grok

structure Reference where
  name : List Char
  field : Option (List Char)
  coercion : Option (List Char)
  /-- A pattern that the reference defines for its name in place. -/
  definition : Option (List Char)
  deriving DecidableEq, Repr

namespace Reference

def isFieldChar (c : Char) : Bool :=
  Text.isWord c || c == '@' || c == '[' || c == ']' || c == '.' || c == '-'

/-- Splits off the longest run of characters with a property. -/
def run (p : Char → Bool) (cs : List Char) : List Char × List Char :=
  (cs.takeWhile p, cs.dropWhile p)

/-- Splits off a definition. It ends at a brace, and at a backslash that has nothing to escape on
its line. -/
def definitionRun : List Char → List Char × List Char
  | [] => ([], [])
  | c :: r =>
    if c = '{' || c = '}' then ([], c :: r)
    else if c = '\\' then
      match r with
      | [] => ([], [c])
      | d :: r' =>
        if d = '\n' then ([], c :: r)
        else
          let (def_, rest) := definitionRun r'
          (c :: d :: def_, rest)
    else
      let (def_, rest) := definitionRun r
      (c :: def_, rest)

/-- A part that follows a mark and must not be empty; otherwise nothing is read. -/
def part? (mark : Char) (split : List Char → List Char × List Char) (cs : List Char) :
    Option (List Char) × List Char :=
  match cs with
  | [] => (none, [])
  | c :: r =>
    if c = mark then
      let (p, rest) := split r
      if p.isEmpty then (none, c :: r) else (some p, rest)
    else (none, c :: r)

def target? (cs : List Char) : (Option (List Char) × Option (List Char)) × List Char :=
  match part? ':' (run isFieldChar) cs with
  | (none, rest) => ((none, none), rest)
  | (some field, rest) =>
    let (coercion, rest) := part? ':' (run Text.isWord) rest
    ((some field, coercion), rest)

def read? : List Char → Option (Reference × List Char)
  | '%' :: '{' :: r =>
    let (name, rest) := run Text.isWord r
    if name.isEmpty then none
    else
      let ((field, coercion), rest) := target? rest
      let (def_, rest) := part? '=' definitionRun rest
      match rest with
      | '}' :: rest => some (⟨name, field, coercion, def_⟩, rest)
      | _ => none
  | _ => none

def renderPart (mark : Char) : Option (List Char) → List Char
  | none => []
  | some p => mark :: p

def render (r : Reference) : List Char :=
  '%' :: '{' :: (r.name ++ renderPart ':' r.field ++ renderPart ':' r.coercion ++
    renderPart '=' r.definition ++ ['}'])

theorem run_append (p : Char → Bool) (cs : List Char) : (run p cs).1 ++ (run p cs).2 = cs :=
  List.takeWhile_append_dropWhile

theorem definitionRun_append (cs : List Char) :
    (definitionRun cs).1 ++ (definitionRun cs).2 = cs := by
  fun_induction definitionRun cs <;> simp_all

theorem part?_eq {mark : Char} {split : List Char → List Char × List Char} {cs rest : List Char}
    {p : Option (List Char)} (hs : ∀ cs, (split cs).1 ++ (split cs).2 = cs)
    (h : part? mark split cs = (p, rest)) : cs = renderPart mark p ++ rest := by
  unfold part? at h
  split at h
  · simp only [Prod.mk.injEq] at h; simp [← h.1, ← h.2, renderPart]
  · rename_i c r
    split at h
    · rename_i hc
      dsimp only at h
      split at h
      · simp only [Prod.mk.injEq] at h; simp [← h.1, ← h.2, renderPart]
      · simp only [Prod.mk.injEq] at h
        have := hs r
        simp [← h.1, ← h.2, renderPart, hc, this]
    · simp only [Prod.mk.injEq] at h; simp [← h.1, ← h.2, renderPart]

theorem target?_eq {cs rest : List Char} {f t : Option (List Char)}
    (h : target? cs = ((f, t), rest)) : cs = renderPart ':' f ++ renderPart ':' t ++ rest := by
  unfold target? at h
  split at h
  · rename_i r hp
    have := part?_eq (run_append _) hp
    simp only [Prod.mk.injEq] at h
    simp [← h.1.1, ← h.1.2, ← h.2, this, renderPart]
  · rename_i field r hp
    have h1 := part?_eq (run_append _) hp
    cases h2 : part? ':' (run Text.isWord) r with
    | mk c r' =>
      have h3 := part?_eq (run_append _) h2
      simp only [h2, Prod.mk.injEq] at h
      rw [h1, h3, ← h.1.1, ← h.1.2, ← h.2, List.append_assoc]

theorem eq_render_append {cs rest : List Char} {r : Reference} (h : read? cs = some (r, rest)) :
    cs = r.render ++ rest := by
  unfold read? at h
  split at h
  · rename_i cs
    cases h1 : run Text.isWord cs with
    | mk name r1 =>
      cases h2 : target? r1 with
      | mk ft r2 =>
        cases h3 : part? '=' definitionRun r2 with
        | mk d r3 =>
          simp only [h1, h2, h3] at h
          split at h
          · contradiction
          · split at h
            · simp only [Option.some.injEq, Prod.mk.injEq] at h
              obtain ⟨rfl, rfl⟩ := h
              have h0 := run_append Text.isWord cs
              rw [h1] at h0
              rw [← h0, target?_eq h2, part?_eq definitionRun_append h3]
              simp [render]
            · contradiction
  · contradiction

theorem length_lt_of_read? {cs rest : List Char} {r : Reference} (h : read? cs = some (r, rest)) :
    rest.length < cs.length := by
  rw [eq_render_append h]; simp [render]; omega

end Reference

/-- Pattern text as a sequence of references and of the characters between them. -/
inductive Piece where
  | plain (c : Char)
  | reference (r : Reference)
  deriving DecidableEq, Repr

namespace Piece

def ofText (cs : List Char) : List Piece :=
  match cs with
  | [] => []
  | c :: r =>
    match h : Reference.read? (c :: r) with
    | some (ref, rest) =>
      have := Reference.length_lt_of_read? h
      .reference ref :: ofText rest
    | none => .plain c :: ofText r
termination_by cs.length
decreasing_by
  · assumption
  · exact Nat.lt_succ_self _

def render : Piece → List Char
  | .plain c => [c]
  | .reference r => r.render

def toText (ps : List Piece) : List Char := ps.flatMap render

theorem toText_ofText (cs : List Char) : toText (ofText cs) = cs := by
  fun_induction ofText cs with
  | case1 => rfl
  | case2 c r ref rest h _ ih =>
    rw [Reference.eq_render_append h]
    simpa [toText, render] using ih
  | case3 c r h ih => simpa [toText, render] using ih

def reference? : Piece → Option Reference
  | .plain _ => none
  | .reference r => some r

end Piece

/-- Text that opens a reference without being one: what stands from there on. -/
def firstMalformed : List Piece → Option (List Char)
  | [] => none
  | .plain '%' :: .plain '{' :: ps => some ('%' :: '{' :: Piece.toText ps)
  | _ :: ps => firstMalformed ps

end Grok
