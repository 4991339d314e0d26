/-!
Cutting a text to a budget of UTF-8 bytes without cutting through a character.
-/
namespace Grok.Text

/-- The bytes that a list of characters takes in UTF-8. -/
def utf8Length : List Char → Nat
  | [] => 0
  | c :: r => c.utf8Size + utf8Length r

/-- The longest start of the text that fits into `budget` bytes. -/
def clip (budget : Nat) : List Char → List Char
  | [] => []
  | c :: r => if c.utf8Size ≤ budget then c :: clip (budget - c.utf8Size) r else []

theorem utf8Length_clip_le (budget : Nat) (cs : List Char) :
    utf8Length (clip budget cs) ≤ budget := by
  induction cs generalizing budget with
  | nil => simp [clip, utf8Length]
  | cons c r ih =>
    by_cases h : c.utf8Size ≤ budget
    · have := ih (budget - c.utf8Size)
      simp only [clip, h, if_true, utf8Length]
      omega
    · simp [clip, h, utf8Length]

theorem clip_isPrefix (budget : Nat) (cs : List Char) : clip budget cs <+: cs := by
  induction cs generalizing budget with
  | nil => simp [clip]
  | cons c r ih =>
    by_cases h : c.utf8Size ≤ budget
    · simpa [clip, h] using ih (budget - c.utf8Size)
    · simp [clip, h]

theorem prefix_clip {budget : Nat} {start cs : List Char} (h : start <+: cs)
    (hfits : utf8Length start ≤ budget) : start <+: clip budget cs := by
  induction cs generalizing budget start with
  | nil => exact h
  | cons c r ih =>
    cases start with
    | nil => exact List.nil_prefix
    | cons d start =>
      obtain ⟨rfl, htail⟩ := List.cons_prefix_cons.1 h
      rw [utf8Length] at hfits
      rw [clip, if_pos (by omega), List.cons_prefix_cons]
      exact ⟨rfl, ih htail (by omega)⟩

end Grok.Text
