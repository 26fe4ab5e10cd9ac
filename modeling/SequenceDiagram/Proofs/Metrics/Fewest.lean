/-
  SequenceDiagram.Proofs.Metrics.Fewest — no way of breaking a text takes fewer lines.

  A text is broken by cutting its words into groups, each group but a single word no wider
  than the limit (`OneLine`, `Cut`). Wrapping is one way to do it (`wrapWords_cut`), and it
  takes each word onto the line at hand when it can. That is never worse where a text gets
  no narrower by growing (`Widening`): a line that began with more text never saves a line,
  and a line begun anywhere costs one more at the most (`length_fill_le`). So a group ahead
  of other words costs one line (`length_wrapWords_append_le`), whatever the words after it
  do.

  Widths of fixed characters and sums of weights grow with the text, and so do sums that
  are rounded up.
-/

import SequenceDiagram.Proofs.Layout.Sizes
import SequenceDiagram.Proofs.Metrics.Wrapping

namespace SequenceDiagram.TextMetrics

variable {m : TextMetrics ℚ} {font limit : ℚ} {line word : String} {g ws : List String}

/-! ## Widths that grow with the text -/

/-- A text is no narrower than what is left of it when characters are taken out. -/
def Widening (m : TextMetrics ℚ) (font : ℚ) : Prop :=
  ∀ {s t : String}, s.toList.Sublist t.toList → (m.measure s font).width ≤ (m.measure t font).width

theorem fixed_widening {charWidth : ℚ} (h : 0 ≤ charWidth) (lineHeight font : ℚ) :
    (fixed charWidth lineHeight).Widening font := by
  intro s t hst
  have hlength : s.length ≤ t.length := by
    rw [← String.length_toList, ← String.length_toList]
    exact hst.length_le
  exact mul_le_mul_of_nonneg_right (Nat.cast_le.mpr hlength) h

theorem estimated_widening (h : 0 ≤ font) : (estimated : TextMetrics ℚ).Widening font := by
  intro s t hst
  have hweights : (s.toList.map (weight : Char → ℚ)).sum ≤ (t.toList.map weight).sum := by
    apply (hst.map weight).sum_le_sum
    intro w hw
    obtain ⟨c, -, rfl⟩ := List.mem_map.mp hw
    exact weight_nonneg c
  show Scalar.ceil (Scalar.sum (s.toList.map weight) * font) ≤ Scalar.ceil (Scalar.sum (t.toList.map weight) * font)
  rw [Scalar.sum_exact, Scalar.sum_exact]
  exact Scalar.ceil_le_ceil (mul_le_mul_of_nonneg_right hweights h)

/-! ## Cutting words into groups -/

/-- Words that may stand on one line: a single one, or no wider than the limit with spaces between. -/
structure OneLine (m : TextMetrics ℚ) (font limit : ℚ) (g : List String) : Prop where
  nonempty : g ≠ []
  fits : g.length = 1 ∨ (m.measure (" ".intercalate g) font).width ≤ limit

/-- The words of a list in groups, in order, each for one line. -/
structure Cut (m : TextMetrics ℚ) (font limit : ℚ) (ws : List String) (groups : List (List String)) : Prop where
  words : groups.flatten = ws
  oneLine : ∀ g ∈ groups, OneLine m font limit g

theorem Cut.widen {limit' : ℚ} {groups : List (List String)} (h : Cut m font limit ws groups) (hle : limit ≤ limit') :
    Cut m font limit' ws groups :=
  ⟨h.words, fun g hg => ⟨(h.oneLine g hg).nonempty, (h.oneLine g hg).fits.imp_right hle.trans'⟩⟩

theorem sublist_intercalate (g vs : List String) :
    (" ".intercalate g).toList.Sublist (" ".intercalate (g ++ vs)).toList := by
  rcases eq_or_ne g [] with rfl | hg
  · exact List.nil_sublist _
  · rcases eq_or_ne vs [] with rfl | hvs
    · rw [List.append_nil]
    · rw [String.intercalate_append_of_ne_nil hg hvs, String.toList_append, String.toList_append, List.append_assoc]
      exact List.sublist_append_left ..

/-! ## Wrapping is a cut -/

/-- The lines of some words. -/
def wrapWords (m : TextMetrics ℚ) (font limit : ℚ) : List String → List String
  | [] => []
  | word :: ws => m.fill font limit word ws

theorem wrap_eq (m : TextMetrics ℚ) (text : String) (font limit : ℚ) :
    m.wrap text font limit = m.wrapWords font limit (textWords text) := by
  unfold wrap wrapWords textWords
  rfl

theorem fill_of_lt (h : limit < (m.measure (line ++ " " ++ word) font).width) (ws : List String) :
    m.fill font limit line (word :: ws) = line :: m.fill font limit word ws := if_pos h

theorem fill_of_le (h : (m.measure (line ++ " " ++ word) font).width ≤ limit) (ws : List String) :
    m.fill font limit line (word :: ws) = m.fill font limit (line ++ " " ++ word) ws := if_neg (not_lt.mpr h)

theorem fill_ne_nil (m : TextMetrics ℚ) (font limit : ℚ) (line : String) (ws : List String) :
    m.fill font limit line ws ≠ [] := by
  induction ws generalizing line with
  | nil => exact List.cons_ne_nil line []
  | cons word ws ih =>
    rcases lt_or_ge limit (m.measure (line ++ " " ++ word) font).width with hlt | hle
    · rw [fill_of_lt hlt]
      exact List.cons_ne_nil _ _
    · rw [fill_of_le hle]
      exact ih _

theorem cut_of_filled {groups : List (List String)} (h : Filled m font limit groups) :
    Cut m font limit groups.flatten groups where
  words := rfl
  oneLine g hg := by
    have hne := h.nonempty g hg
    rcases Nat.lt_or_ge g.length 2 with hshort | hlong
    · have hpos : 0 < g.length := List.length_pos_iff.mpr hne
      exact ⟨hne, .inl (by omega)⟩
    · exact ⟨hne, .inr (not_lt.mp (h.fits hg hlong))⟩

theorem wrapWords_cut (m : TextMetrics ℚ) (font limit : ℚ) (ws : List String) : ∃ groups,
    Cut m font limit ws groups ∧ m.wrapWords font limit ws = groups.map (" ".intercalate ·) := by
  obtain ⟨groups, hfilled, rfl⟩ := exists_filled m font limit ws
  refine ⟨groups, cut_of_filled hfilled, ?_⟩
  cases hwords : groups.flatten with
  | nil =>
    obtain rfl := hfilled.eq_nil hwords
    rfl
  | cons word ws => exact fill_eq_of_filled hfilled hwords

/-! ## The number of lines -/

theorem length_fill_append (m : TextMetrics ℚ) (font limit : ℚ) (line : String) (ws more : List String) :
    (m.fill font limit line ws).length ≤ (m.fill font limit line (ws ++ more)).length := by
  induction ws generalizing line with
  | nil =>
    rw [List.nil_append]
    exact List.length_pos_iff.mpr (fill_ne_nil m font limit line more)
  | cons word ws ih =>
    rcases lt_or_ge limit (m.measure (line ++ " " ++ word) font).width with hlt | hle
    · rw [List.cons_append, fill_of_lt hlt, fill_of_lt hlt]
      exact Nat.succ_le_succ (ih word)
    · rw [List.cons_append, fill_of_le hle, fill_of_le hle]
      exact ih _

theorem length_wrapWords_append (m : TextMetrics ℚ) (font limit : ℚ) (ws more : List String) :
    (m.wrapWords font limit ws).length ≤ (m.wrapWords font limit (ws ++ more)).length := by
  cases ws with
  | nil => exact Nat.zero_le _
  | cons word ws => exact length_fill_append ..

section

variable (hm : m.Widening font)

include hm

/-- Of two lines that go on with the same words, the one with less text takes no more lines, and
    either takes one more than the other at the most. -/
theorem length_fill_le (limit : ℚ) (ws : List String) :
    (∀ line other : String, other.toList.Sublist line.toList →
      (m.fill font limit other ws).length ≤ (m.fill font limit line ws).length) ∧
    ∀ line other : String, (m.fill font limit line ws).length ≤ (m.fill font limit other ws).length + 1 := by
  induction ws with
  | nil => exact ⟨fun _ _ _ => le_rfl, fun _ _ => Nat.le_succ 1⟩
  | cons word ws ih =>
    obtain ⟨hless, hone⟩ := ih
    -- the line that begins with the word has no more text than any that takes it
    have hword : ∀ line : String,
        (m.fill font limit word ws).length ≤ (m.fill font limit (line ++ " " ++ word) ws).length := by
      intro line
      apply hless
      rw [String.toList_append]
      exact List.sublist_append_right ..
    constructor
    · intro line other hsub
      have hsub' : (other ++ " " ++ word).toList.Sublist (line ++ " " ++ word).toList := by
        simp only [String.toList_append]
        exact (hsub.append_right _).append_right _
      rcases lt_or_ge limit (m.measure (line ++ " " ++ word) font).width with hlt | hle
      · rw [fill_of_lt hlt, List.length_cons]
        rcases lt_or_ge limit (m.measure (other ++ " " ++ word) font).width with hlt' | hle'
        · rw [fill_of_lt hlt', List.length_cons]
        · rw [fill_of_le hle']
          exact hone _ _
      · rw [fill_of_le hle, fill_of_le ((hm hsub').trans hle)]
        exact hless _ _ hsub'
    · intro line other
      rcases lt_or_ge limit (m.measure (line ++ " " ++ word) font).width with hlt | hle <;>
        rcases lt_or_ge limit (m.measure (other ++ " " ++ word) font).width with hlt' | hle'
      · rw [fill_of_lt hlt, fill_of_lt hlt', List.length_cons, List.length_cons]
        exact Nat.le_succ _
      · rw [fill_of_lt hlt, fill_of_le hle', List.length_cons]
        exact Nat.succ_le_succ (hword other)
      · rw [fill_of_le hle, fill_of_lt hlt', List.length_cons]
        exact (hone _ _).trans (Nat.le_succ _)
      · rw [fill_of_le hle, fill_of_le hle']
        exact hone _ _

/-- A line with room for the rest of its group takes it. -/
theorem fill_group (hg : g ≠ []) {vs : List String}
    (hfits : (m.measure (" ".intercalate (g ++ vs)) font).width ≤ limit) (ws : List String) :
    m.fill font limit (" ".intercalate g) (vs ++ ws) = m.fill font limit (" ".intercalate (g ++ vs)) ws := by
  induction vs generalizing g with
  | nil => rw [List.append_nil, List.nil_append]
  | cons word vs ih =>
    rw [List.append_cons] at hfits ⊢
    have hnext := (hm (sublist_intercalate (g ++ [word]) vs)).trans hfits
    rw [List.cons_append, fill_of_le (intercalate_concat hg word ▸ hnext), ← intercalate_concat hg word]
    exact ih (by simp) hfits

theorem length_fill_le_wrapWords (limit : ℚ) (line : String) (ws : List String) :
    (m.fill font limit line ws).length ≤ (m.wrapWords font limit ws).length + 1 := by
  cases ws with
  | nil => exact le_rfl
  | cons word ws =>
    rcases lt_or_ge limit (m.measure (line ++ " " ++ word) font).width with hlt | hle
    · rw [fill_of_lt hlt]
      exact le_rfl
    · rw [fill_of_le hle]
      exact (length_fill_le hm limit ws).2 _ _

/-- A group ahead of other words costs one line at the most. -/
theorem length_wrapWords_append_le (hg : OneLine m font limit g) (ws : List String) :
    (m.wrapWords font limit (g ++ ws)).length ≤ (m.wrapWords font limit ws).length + 1 := by
  obtain ⟨word, vs, rfl⟩ := List.exists_cons_of_ne_nil hg.nonempty
  have hfill : ∃ line, m.wrapWords font limit (word :: vs ++ ws) = m.fill font limit line ws := by
    rcases hg.fits with hone | hfits
    · obtain rfl : vs = [] := by simpa using hone
      exact ⟨word, rfl⟩
    · have htaken := fill_group hm (List.cons_ne_nil word []) hfits ws
      rw [String.intercalate_singleton] at htaken
      exact ⟨_, htaken⟩
  obtain ⟨line, hfill⟩ := hfill
  rw [hfill]
  exact length_fill_le_wrapWords hm limit line ws

theorem length_wrapWords_le {groups : List (List String)} (h : Cut m font limit ws groups) :
    (m.wrapWords font limit ws).length ≤ groups.length := by
  induction groups generalizing ws with
  | nil =>
    rw [← h.words]
    exact le_rfl
  | cons g groups ih =>
    have hrest : Cut m font limit groups.flatten groups := ⟨rfl, fun g hg => h.oneLine g (List.mem_cons_of_mem _ hg)⟩
    have hfirst := length_wrapWords_append_le hm (h.oneLine g List.mem_cons_self) groups.flatten
    rw [← h.words]
    exact hfirst.trans (Nat.succ_le_succ (ih hrest))

end

/-! ## The metrics at hand -/

/-- The metrics at hand with a character width, or a font size, that is not negative. -/
inductive AtHand : TextMetrics ℚ → ℚ → Prop
  | fixed {charWidth : ℚ} (lineHeight font : ℚ) : 0 ≤ charWidth → AtHand (.fixed charWidth lineHeight) font
  | estimated {font : ℚ} : 0 ≤ font → AtHand .estimated font

theorem AtHand.widening (h : AtHand m font) : m.Widening font := by
  cases h with
  | fixed lineHeight font hwidth => exact fixed_widening hwidth lineHeight font
  | estimated hfont => exact estimated_widening hfont

/-- The lines of a wrapped text are a cut of its words, and there is none with fewer. -/
structure Fewest (m : TextMetrics ℚ) (font limit : ℚ) (text : String) : Prop where
  cut : ∃ groups, Cut m font limit (textWords text) groups ∧ m.wrap text font limit = groups.map (" ".intercalate ·)
  least : ∀ groups, Cut m font limit (textWords text) groups → (m.wrap text font limit).length ≤ groups.length
  wider : ∀ limit', limit ≤ limit' → (m.wrap text font limit').length ≤ (m.wrap text font limit).length
  /-- With further words behind there are no fewer lines. -/
  longer : ∀ text', textWords text <+: textWords text' →
    (m.wrap text font limit).length ≤ (m.wrap text' font limit).length

/-- Of all ways to break a text, wrapping takes the fewest lines. -/
theorem wrap_fewest (h : AtHand m font) (text : String) (limit : ℚ) : Fewest m font limit text := by
  obtain ⟨groups, hcut, hlines⟩ := wrapWords_cut m font limit (textWords text)
  constructor <;> simp only [wrap_eq]
  case cut => exact ⟨groups, hcut, hlines⟩
  case least => exact fun _ h' => length_wrapWords_le h.widening h'
  case wider =>
    intro limit' hle
    rw [hlines, List.length_map]
    exact length_wrapWords_le h.widening (hcut.widen hle)
  case longer =>
    rintro text' ⟨more, hmore⟩
    rw [← hmore]
    exact length_wrapWords_append ..

/-- Lines exactly as wide as the limit and a word wider than it, measured both ways. A greater limit
    and further words are put to the first. -/
theorem wrap_fewest_breakneck :
    ∃ text, text = "retry at\tbreakneck  pace now" ∧
      textWords text = ["retry", "at", "breakneck", "pace", "now"] ∧
      (fixed (8 : ℚ) 16).wrap text 12 64 = ["retry at", "breakneck", "pace now"] ∧
      ((fixed (8 : ℚ) 16).measure "retry at" 12).width = 64 ∧ ((fixed (8 : ℚ) 16).measure "breakneck" 12).width = 72 ∧
      (∀ groups, Cut (fixed 8 16) 12 64 (textWords text) groups →
        ((fixed (8 : ℚ) 16).wrap text 12 64).length ≤ groups.length) ∧
      ((fixed (8 : ℚ) 16).wrap text 12 100).length ≤ ((fixed (8 : ℚ) 16).wrap text 12 64).length ∧
      ((fixed (8 : ℚ) 16).wrap text 12 64).length ≤ ((fixed (8 : ℚ) 16).wrap (text ++ " on") 12 64).length ∧
      estimated.wrap text (12 : ℚ) 50 = ["retry at", "breakneck", "pace now"] ∧
      ((estimated : TextMetrics ℚ).measure "retry at" 12).width = 50 ∧
      ∀ groups, Cut estimated 12 50 (textWords text) groups →
        (estimated.wrap text (12 : ℚ) 50).length ≤ groups.length := by
  have hfixed := wrap_fewest (.fixed 16 12 (by decide : (0 : ℚ) ≤ 8)) "retry at\tbreakneck  pace now" 64
  have hestimated := wrap_fewest (.estimated (by decide : (0 : ℚ) ≤ 12)) "retry at\tbreakneck  pace now" 50
  refine ⟨_, rfl, ?words, ?lines, ?atLimit, ?overlong, hfixed.least, hfixed.wider 100 (by decide),
    hfixed.longer _ ?more, ?estimated, ?estimatedAtLimit, hestimated.least⟩
  all_goals decide +kernel

end SequenceDiagram.TextMetrics
