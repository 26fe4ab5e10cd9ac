/-
  SequenceDiagram.Proofs.Text.Replacing — a character replaced everywhere in a string.

  `String.replace` finds the occurrences of a character as steps of a search: pieces in
  which it does not occur, and matches between them. What is written for the steps from a
  position on is what stands behind the position, character by character, with the one
  replaced and the others kept (`foldl_copyStep`). From the beginning that is the whole
  string (`toList_replace`).
-/

namespace SequenceDiagram.Text

open String (Slice)
open String.Slice.Pattern (SearchStep ToForwardSearcher)
open String.Slice.Pattern.Model (IsValidSearchFrom LawfulToForwardSearcherModel MatchesAt)
open String.Slice.Pattern.Model.Char (isLongestMatchAt_iff matchesAt_iff)

variable {c : Char} {s : Slice} (written : String)

/-- A character that is replaced, or kept. -/
def replaced (c : Char) (written : String) (d : Char) : List Char := if d = c then written.toList else [d]

/-- Where a character does not occur nothing is replaced. -/
theorem replaced_slice {p q : s.Pos} (hle : p ≤ q) (h : ∀ pos, p ≤ pos → pos < q → ¬ MatchesAt c pos) :
    (s.slice p q hle).copy.toList.flatMap (replaced c written) = (s.slice p q hle).copy.toList := by
  induction p using Slice.Pos.next_induction with
  | endPos =>
    obtain rfl : q = s.endPos := Std.le_antisymm (by simp) hle
    simp
  | next p hp ih =>
    rcases Std.le_iff_lt_or_eq.mp hle with hlt | rfl
    · have hne : p.get hp ≠ c := fun hc => h p (Std.le_refl p) hlt (matchesAt_iff.mpr ⟨hp, hc⟩)
      have hrest := ih (by simpa using hlt) fun pos hpos => h pos (Std.le_trans (by simp) hpos)
      rw [Slice.copy_slice_eq_append_of_lt hlt, String.toList_append, List.flatMap_append, hrest]
      simp [replaced, hne]
    · simp

/-- What is written for a step of the search. -/
def copyStep (written : String) (s : Slice) (sofar : String) : SearchStep s → String
  | .matched .. => sofar ++ written
  | .rejected start stop => sofar ++ (s.slice! start stop).copy

theorem replace_eq_foldl (s : String) (c : Char) : s.replace c written =
    (ToForwardSearcher.toSearcher c s.toSlice).toList.foldl (copyStep written s.toSlice) "" := by
  rw [String.replace, Slice.replace, ← Std.Iter.foldl_toList]
  congr 1
  funext sofar step
  cases step with
  | matched => simp [copyStep, String.ToSlice.toSlice]
  | rejected => rfl

theorem foldl_copyStep {p : s.Pos} {steps : List (SearchStep s)} (h : IsValidSearchFrom c p steps) (sofar : String) :
    (steps.foldl (copyStep written s) sofar).toList =
      sofar.toList ++ (s.sliceFrom p).copy.toList.flatMap (replaced c written) := by
  induction h generalizing sofar with
  | endPos => simp
  | @matched steps start stop hmatch _ ih =>
    obtain ⟨hne, rfl, hc⟩ := isLongestMatchAt_iff.mp hmatch
    have hsplit := start.splits.eq_right (start.splits_next_right hne)
    rw [List.foldl_cons, ih, hsplit]
    simp [copyStep, replaced, hc]
  | @mismatched steps start stop hlt hno _ ih =>
    have hle : start ≤ stop := Std.le_of_lt hlt
    -- the whole slice cut at both positions, and what lies before the first taken away
    have hall : (s.sliceTo start).copy ++ (s.sliceFrom start).copy =
        (s.sliceTo start).copy ++ (s.slice start stop hle).copy ++ (s.sliceFrom stop).copy :=
      Slice.copy_eq_copy_sliceTo.symm.trans Slice.copy_eq_copy_slice
    rw [String.append_assoc] at hall
    have hsplit : (s.sliceFrom start).copy = (s.slice start stop hle).copy ++ (s.sliceFrom stop).copy :=
      (String.append_right_inj _).mp hall
    rw [List.foldl_cons, ih, hsplit, String.toList_append, List.flatMap_append, replaced_slice written hle hno]
    simp [copyStep, Slice.slice!, hle]

theorem toList_replace (s : String) (c : Char) (written : String) :
    (s.replace c written).toList = s.toList.flatMap (replaced c written) := by
  have hvalid : IsValidSearchFrom c s.toSlice.startPos (ToForwardSearcher.toSearcher c s.toSlice).toList :=
    LawfulToForwardSearcherModel.isValidSearchFrom_toList _
  rw [replace_eq_foldl, foldl_copyStep written hvalid]
  simp

end SequenceDiagram.Text
