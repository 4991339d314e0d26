import Mathlib.Data.List.Forall2
import Grok.Text.Lines
/-!
What the lines of a text are. Main statements: they are the pieces between the line ends, each end
a line feed with or without a carriage return, and writing every line end with a carriage return
more puts it at the end of lines at most.
-/
namespace Grok.Text

/-- A text falls into lines. A line feed ends a line together with a carriage return in front of
it, and the last line may go without an end, unless it is empty. -/
inductive Splits : List Char → List (List Char) → Prop
  | nil : Splits [] []
  | last {line : List Char} : line ≠ [] → '\n' ∉ line → Splits line [line]
  | feed {line rest : List Char} {ls : List (List Char)} : '\n' ∉ line →
      line.getLast? ≠ some '\r' → Splits rest ls → Splits (line ++ '\n' :: rest) (line :: ls)
  | returnFeed {line rest : List Char} {ls : List (List Char)} : '\n' ∉ line → Splits rest ls →
      Splits (line ++ '\r' :: '\n' :: rest) (line :: ls)

/-- Writes a carriage return in front of every line feed. -/
def withReturns (cs : List Char) : List Char :=
  cs.flatMap fun c => if c = '\n' then ['\r', '\n'] else [c]

variable {c : Char} {cs line : List Char} {ls : List (List Char)}

theorem Splits.not_mem (h : Splits cs ls) (hline : line ∈ ls) : '\n' ∉ line := by
  induction h with
  | nil => cases hline
  | last _ hno =>
    obtain rfl := List.mem_singleton.1 hline
    exact hno
  | feed hno _ _ ih | returnFeed hno _ ih =>
    obtain rfl | hline := List.mem_cons.1 hline
    · exact hno
    · exact ih hline

/-- A character in front of a text that does not end a line goes to the first line. -/
theorem Splits.cons (h : Splits cs (line :: ls)) (hfeed : c ≠ '\n')
    (hreturn : c = '\r' → cs.head? ≠ some '\n') : Splits (c :: cs) ((c :: line) :: ls) := by
  have hno {line : List Char} (h : '\n' ∉ line) : '\n' ∉ c :: line := by simp [h, hfeed.symm]
  cases h with
  | last _ h => exact .last (by simp) (hno h)
  | feed h hlast hrest =>
    refine .feed (hno h) ?_ hrest
    cases line with
    | nil => simpa using fun hc => hreturn hc rfl
    | cons d line => simpa using hlast
  | returnFeed h hrest => exact .returnFeed (hno h) hrest

theorem lines_eq_nil_iff : lines cs = [] ↔ cs = [] := by
  fun_cases lines cs <;> simp_all

theorem splits_lines (cs : List Char) : Splits cs (lines cs) := by
  have hempty : '\n' ∉ ([] : List Char) := List.not_mem_nil
  fun_induction lines cs with
  | case1 => exact .nil
  | case2 r ih => exact .returnFeed hempty ih
  | case3 r ih => exact .feed hempty (by simp) ih
  | case4 c r hreturn hfeed hnil ih =>
    obtain rfl := lines_eq_nil_iff.1 hnil
    exact .last (by simp) (by simpa using Ne.symm hfeed)
  | case5 c r hreturn hfeed l ls hls ih =>
    rw [hls] at ih
    refine ih.cons hfeed fun hc hhead => ?_
    cases r with
    | nil => cases hhead
    | cons d r =>
      cases hhead
      exact hreturn r hc rfl

/-! ### Returns in front of all line feeds -/

theorem lines_cons (hfeed : c ≠ '\n') (hreturn : c = '\r' → cs.head? ≠ some '\n') :
    lines (c :: cs) = (c :: (lines cs).headD []) :: (lines cs).tail := by
  have hpair : ∀ r, c = '\r' → cs = '\n' :: r → False := by
    rintro r hc rfl
    exact hreturn hc rfl
  rw [lines.eq_4 _ _ hpair hfeed]
  cases lines cs <;> rfl

@[simp] theorem withReturns_feed (cs : List Char) :
    withReturns ('\n' :: cs) = '\r' :: '\n' :: withReturns cs := rfl

theorem withReturns_cons (hfeed : c ≠ '\n') : withReturns (c :: cs) = c :: withReturns cs := by
  simp [withReturns, hfeed]

theorem head?_withReturns_ne (cs : List Char) : (withReturns cs).head? ≠ some '\n' := by
  cases cs with
  | nil => simp [withReturns]
  | cons c cs =>
    by_cases hfeed : c = '\n'
    · simp [hfeed]
    · simp [withReturns_cons hfeed, hfeed]

/-- With a carriage return more in front of every line feed, a line is what it was or ends with one
more. -/
theorem lines_withReturns (cs : List Char) :
    (lines (withReturns cs)).Forall₂ (fun line' line => line' = line ∨ line' = line ++ ['\r'])
      (lines cs) := by
  fun_induction lines cs with
  | case1 => exact .nil
  | case2 r ih =>
    rw [withReturns_cons (by decide), withReturns_feed, lines_cons (by decide) (by simp)]
    exact .cons (.inr rfl) ih
  | case3 r ih => exact .cons (.inl rfl) ih
  | case4 c r hreturn hfeed hnil ih =>
    obtain rfl := lines_eq_nil_iff.1 hnil
    rw [withReturns_cons hfeed, lines_cons hfeed fun _ => head?_withReturns_ne []]
    exact .cons (.inl rfl) .nil
  | case5 c r hreturn hfeed l ls hls ih =>
    rw [withReturns_cons hfeed, lines_cons hfeed fun _ => head?_withReturns_ne r]
    rw [hls] at ih
    generalize lines (withReturns r) = ls' at ih ⊢
    cases ih with
    | cons hfirst hrest => exact .cons (hfirst.imp (congrArg (c :: ·)) (congrArg (c :: ·))) hrest

end Grok.Text
