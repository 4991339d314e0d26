import Mathlib
import Grok.Filter
import Grok.Proofs.Text.Slice
/-!
Values in the log. One that is too long is cut where the text can be sliced, and the place for it is
looked for from the last byte that may be shown, back to the first byte of its character. Main
statement: the search and the slice never fail, a value that fits is logged as it is, and any other
with its length and the longest start that fits.
-/
namespace Grok

namespace Text

/-- A start of a text that fits into so many bytes, with none longer that does. -/
structure LongestStart (budget : Nat) (s start : String) : Prop where
  isStart : ∃ rest, start ++ rest = s
  fits : start.utf8ByteSize ≤ budget
  longest : ∀ other rest, other ++ rest = s → other.utf8ByteSize ≤ budget →
    other.utf8ByteSize ≤ start.utf8ByteSize

variable {s start start' : String} {i : Nat}

namespace LongestStart

theorem eq (h : LongestStart i s start) (h' : LongestStart i s start') : start = start' := by
  obtain ⟨rest, rfl⟩ := h.isStart
  obtain ⟨rest', hrest'⟩ := h'.isStart
  have hsize : start'.utf8ByteSize = start.utf8ByteSize :=
    Nat.le_antisymm (h.longest _ _ hrest' h'.fits) (h'.longest _ _ rfl h.fits)
  have hbytes : start'.toByteArray ++ rest'.toByteArray =
      start.toByteArray ++ rest.toByteArray := by
    rw [← String.toByteArray_append, ← String.toByteArray_append, hrest']
  exact (String.toByteArray_inj.1 (ByteArray.append_inj_left hbytes hsize)).symm

/-- The next character does not fit any more, and it has four bytes at most. -/
theorem lt_add_four (h : LongestStart i s start) (hlong : i < s.utf8ByteSize) :
    i < start.utf8ByteSize + 4 := by
  obtain ⟨rest, rfl⟩ := h.isStart
  obtain ⟨cs, rfl⟩ : ∃ cs, rest = String.ofList cs := ⟨_, String.ofList_toList.symm⟩
  cases cs with
  | nil =>
    rw [String.ofList_nil, String.append_empty] at hlong
    exact absurd h.fits (Nat.not_le.2 hlong)
  | cons c cs =>
    rw [String.ofList_cons] at h
    have hnext := h.longest (start ++ String.singleton c) _ String.append_assoc
    rw [String.utf8ByteSize_append, String.utf8ByteSize_singleton] at hnext
    have hpos := c.utf8Size_pos
    have hfour := c.utf8Size_le_four
    omega

/-- A byte more makes no start longer if the text cannot be sliced behind it. -/
theorem succ (h : LongestStart i s start) (hi : ¬(⟨i + 1⟩ : String.Pos.Raw).IsValid s) :
    LongestStart (i + 1) s start := by
  refine ⟨h.isStart, Nat.le_succ_of_le h.fits, fun other rest hrest hfits => ?_⟩
  have hne : other.utf8ByteSize ≠ i + 1 := fun hsize =>
    hi (String.Pos.Raw.isValid_iff_exists_append.2
      ⟨other, rest, hrest.symm, String.Pos.Raw.ext hsize.symm⟩)
  exact h.longest other rest hrest (Nat.le_of_lt_succ (Nat.lt_of_le_of_ne hfits hne))

theorem sliceTo?_eq_some (h : LongestStart i s start) :
    sliceTo? s start.utf8ByteSize = some start := by
  obtain ⟨rest, rfl⟩ := h.isStart
  rw [utf8ByteSize_eq, sliceTo?_eq String.toList_append, String.ofList_toList]

end LongestStart

/-! ### The search for a place to slice -/

theorem exists_lastBoundary?_of_isValid (h : (⟨i⟩ : String.Pos.Raw).IsValid s) :
    ∃ start, LongestStart i s start ∧ lastBoundary? s i = some start.utf8ByteSize := by
  rw [lastBoundary?.eq_def, if_pos (String.Pos.Raw.isValid_eq_true_iff.2 h)]
  obtain ⟨start, rest, rfl, hi⟩ := String.Pos.Raw.isValid_iff_exists_append.1 h
  obtain rfl : i = start.utf8ByteSize := congrArg String.Pos.Raw.byteIdx hi
  exact ⟨start, ⟨⟨rest, rfl⟩, le_rfl, fun _ _ _ hfits => hfits⟩, rfl⟩

/-- The search stops in front of the text at the latest, and what it stops behind is the longest
start that fits. -/
theorem exists_lastBoundary? (s : String) (i : Nat) :
    ∃ start, LongestStart i s start ∧ lastBoundary? s i = some start.utf8ByteSize := by
  induction i with
  | zero => exact exists_lastBoundary?_of_isValid String.Pos.Raw.isValid_zero
  | succ i ih =>
    by_cases hi : (⟨i + 1⟩ : String.Pos.Raw).IsValid s
    · exact exists_lastBoundary?_of_isValid hi
    · obtain ⟨start, hstart, hsearch⟩ := ih
      refine ⟨start, hstart.succ hi, ?_⟩
      rwa [lastBoundary?, if_neg (mt String.Pos.Raw.isValid_eq_true_iff.1 hi)]

example : lastBoundary? "a€" 3 = some 1 := by decide

/-- What is cut off character by character is the same. -/
theorem longestStart_clip (i : Nat) (s : String) :
    LongestStart i s (.ofList (clip i s.toList)) := by
  constructor
  · obtain ⟨rest, hrest⟩ := clip_isPrefix i s.toList
    exact ⟨.ofList rest, by rw [← String.ofList_append, hrest, String.ofList_toList]⟩
  · rw [utf8ByteSize_ofList]
    exact utf8Length_clip_le i s.toList
  · rintro other rest rfl hfits
    rw [utf8ByteSize_eq] at hfits
    have hother : other.toList <+: (other ++ rest).toList :=
      ⟨rest.toList, String.toList_append.symm⟩
    obtain ⟨more, hmore⟩ := prefix_clip hother hfits
    rw [utf8ByteSize_ofList, ← hmore, utf8Length_append, utf8ByteSize_eq]
    exact Nat.le_add_right ..

end Text

namespace Filter

theorem abridged_eq (value start : String) : abridged value start =
    s!"Value too large to output ({value.utf8ByteSize} bytes)! First 255 chars are: " ++ start := by
  have hbudget : toString " bytes)! First 255 chars are: " =
      toString " bytes)! First " ++ toString loggedBytes ++ toString " chars are: " := rfl
  unfold abridged
  rw [hbudget]
  simp only [String.append_assoc]

/-- A value that is too long is cut behind its longest start that fits, which is found. -/
theorem loggableOfBytes_of_long {value : String} (h : loggedBytes < value.utf8ByteSize) :
    ∃ start, Text.LongestStart loggedBytes value start ∧ loggable value = abridged value start ∧
      loggableOfBytes value = some (abridged value start) := by
  obtain ⟨start, hstart, hsearch⟩ := Text.exists_lastBoundary? value loggedBytes
  refine ⟨start, hstart, ?_, ?_⟩
  · rw [loggable, if_neg (Nat.not_le.2 h), hstart.eq (Text.longestStart_clip ..)]
  · rw [loggableOfBytes, if_neg (Nat.not_le.2 h), hsearch]
    simp [hstart.sliceTo?_eq_some]

/-- Every value can be logged. One of at most 255 bytes is logged as it is, and any other with the
number of its bytes and its longest start that fits into 255, which leaves at most three of them
unused. -/
theorem loggableOfBytes_eq (value : String) :
    loggableOfBytes value = some (loggable value) ∧
      (value.utf8ByteSize ≤ 255 ∧ loggable value = value ∨
        255 < value.utf8ByteSize ∧ ∃ start, Text.LongestStart 255 value start ∧
          252 ≤ start.utf8ByteSize ∧ loggable value =
            s!"Value too large to output ({value.utf8ByteSize} bytes)! First 255 chars are: " ++
              start) := by
  obtain h | h := Nat.lt_or_ge loggedBytes value.utf8ByteSize
  · obtain ⟨start, hstart, hlogged, hbytes⟩ := loggableOfBytes_of_long h
    have hshown : 255 < start.utf8ByteSize + 4 := hstart.lt_add_four h
    refine ⟨by rw [hbytes, hlogged], .inr ⟨h, start, hstart, by omega, ?_⟩⟩
    rw [hlogged, abridged_eq]
  · rw [loggableOfBytes, loggable, if_pos h, if_pos h]
    exact ⟨rfl, .inl ⟨h, rfl⟩⟩

end Filter

end Grok
