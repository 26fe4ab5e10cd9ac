/-
  SequenceDiagram.Proofs.Layout.Sizes — sizes that are not negative.

  A style is taken with lengths that are not negative, and text metrics with sizes that
  are not negative at the style's two font sizes; the default style is such a style, and
  both metrics at hand are such metrics for it. Then no label and no event has a negative
  size, and the first marker of a block is exactly as high as the header of its frame.
-/

import SequenceDiagram.Layout.Sizing
import SequenceDiagram.Proofs.Layout.Boxes

namespace SequenceDiagram

/-- No length of the style is negative. Font sizes are no lengths of the layout: only the
    metrics read them. -/
structure Style.NonNegative (s : Style ℚ) : Prop where
  minPaddingX : 0 ≤ s.minPaddingX
  minPaddingY : 0 ≤ s.minPaddingY
  textPaddingX : 0 ≤ s.textPaddingX
  textPaddingY : 0 ≤ s.textPaddingY
  arrowWidth : 0 ≤ s.arrowWidth
  arrowHeight : 0 ≤ s.arrowHeight
  selfDiameter : 0 ≤ s.selfDiameter
  activationWidth : 0 ≤ s.activationWidth
  lineSpacing : 0 ≤ s.lineSpacing
  groupMaxWidth : 0 ≤ s.groupMaxWidth
  groupBaseHeight : 0 ≤ s.groupBaseHeight
  groupPadding : 0 ≤ s.groupPadding
  groupTabHeight : 0 ≤ s.groupTabHeight
  blockMargin : 0 ≤ s.blockMargin
  noteGap : 0 ≤ s.noteGap
  foldSize : 0 ≤ s.foldSize

/-- No text has a negative size in the fonts of the style. -/
structure TextMetrics.NonNegative (m : TextMetrics ℚ) (s : Style ℚ) : Prop where
  label : ∀ text, (m.measure text s.actorFontSize).NonNegative
  message : ∀ text, (m.measure text s.messageFontSize).NonNegative

/-- Labels are of one height, whatever their text. -/
def TextMetrics.Level (m : TextMetrics ℚ) (s : Style ℚ) : Prop :=
  ∀ text text', (m.measure text s.actorFontSize).height = (m.measure text' s.actorFontSize).height

/-! ## The default style and the metrics at hand -/

theorem Style.default_nonNegative : (Style.default : Style ℚ).NonNegative := by
  constructor <;> exact Nat.cast_nonneg _

namespace TextMetrics

variable {s : Style ℚ}

theorem fixed_nonNegative {charWidth lineHeight : ℚ} (hw : 0 ≤ charWidth) (hh : 0 ≤ lineHeight) (s : Style ℚ) :
    (fixed charWidth lineHeight).NonNegative s := by
  have h : ∀ text font, ((fixed charWidth lineHeight).measure text font).NonNegative := by
    intro text font
    exact ⟨mul_nonneg (Nat.cast_nonneg _) hw, hh⟩
  exact ⟨fun text => h text _, fun text => h text _⟩

theorem weight_nonneg (c : Char) : 0 ≤ (weight c : ℚ) := by
  unfold weight
  split
  · exact Nat.cast_nonneg 1
  · split
    · exact Scalar.decimal_nonneg 7 1
    · split
      · exact Scalar.decimal_nonneg 3 1
      · exact Scalar.decimal_nonneg 55 2

theorem estimated_nonNegative (hl : 0 ≤ s.actorFontSize) (hm : 0 ≤ s.messageFontSize) :
    (estimated : TextMetrics ℚ).NonNegative s := by
  have h : ∀ (text : String) (font : ℚ), 0 ≤ font → ((estimated : TextMetrics ℚ).measure text font).NonNegative := by
    intro text font hfont
    have hweights : 0 ≤ Scalar.sum (text.toList.map (weight : Char → ℚ)) := by
      rw [Scalar.sum_exact]
      apply List.sum_nonneg
      intro w hw
      obtain ⟨c, -, rfl⟩ := List.mem_map.mp hw
      exact weight_nonneg c
    have hline : (0 : ℚ) ≤ font * Scalar.decimal 12 1 := mul_nonneg hfont (Scalar.decimal_nonneg 12 1)
    exact ⟨(mul_nonneg hweights hfont).trans (Scalar.le_ceil _), hline.trans (Scalar.le_ceil _)⟩
  exact ⟨fun text => h text _ hl, fun text => h text _ hm⟩

theorem fixed_level (charWidth lineHeight : ℚ) (s : Style ℚ) : (fixed charWidth lineHeight).Level s :=
  fun _ _ => rfl

end TextMetrics

/-! ## The sizes of the parts -/

namespace Layout

open Scalar (larger)

variable {style : Style ℚ} {m : TextMetrics ℚ}

theorem padded_nonNegative (hs : style.NonNegative) {text : Size ℚ} (ht : text.NonNegative) :
    (padded style text).NonNegative := by
  have hx := hs.textPaddingX
  have hy := hs.textPaddingY
  have hw := ht.width
  have hh := ht.height
  constructor
  · show 0 ≤ text.width + style.textPaddingX * 2
    linarith
  · show 0 ≤ text.height + style.textPaddingY * 2
    linarith

theorem labelSize_nonNegative (hs : style.NonNegative) (hm : m.NonNegative style) (name : String) :
    (labelSize style m name).NonNegative := padded_nonNegative hs (hm.label name)

theorem blockLabel_width_nonneg (hs : style.NonNegative) (hm : m.NonNegative style) (kind : BlockKind)
    (text : String) : 0 ≤ (blockLabel style m kind text).width := by
  have htab : 0 ≤ (blockLabel style m kind text).tabWidth :=
    add_nonneg (add_nonneg (hm.message _).width hs.textPaddingX) hs.foldSize
  refine htab.trans ?_
  show (blockLabel style m kind text).tabWidth ≤ larger _ _
  rw [Scalar.larger_exact]
  exact le_max_left _ _

theorem blockLabel_headerHeight_nonneg (hs : style.NonNegative) (kind : BlockKind) (text : String) :
    0 ≤ (blockLabel style m kind text).headerHeight := by
  refine hs.groupBaseHeight.trans ?_
  show style.groupBaseHeight ≤ larger _ _
  rw [Scalar.larger_exact]
  exact le_max_left _ _

theorem eventSize_nonNegative (hs : style.NonNegative) (hm : m.NonNegative style) (a : Action) :
    (eventSize style m a).NonNegative := by
  cases a with
  | message arrow source destination text activation =>
    have hp := padded_nonNegative hs (hm.message text)
    refine ⟨add_nonneg hp.width hs.arrowWidth, ?_⟩
    simp only [eventSize]
    split
    · exact add_nonneg hp.height hs.selfDiameter
    · exact hp.height
  | note side actors text => exact padded_nonNegative hs (hm.message text)
  | blockStart kind text => exact ⟨blockLabel_width_nonneg hs hm kind text, blockLabel_headerHeight_nonneg hs kind text⟩
  | blockEnd => exact ⟨le_rfl, hs.groupBaseHeight⟩

end Layout

end SequenceDiagram
