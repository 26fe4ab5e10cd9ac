/-
  SequenceDiagram.Proofs.Drawing.Slots — the lines of a label in the header of a frame.

  Layout adds the header of a block up: the tab, a line height for every line of the label
  and spacing between them, or the least height when that is more. Drawing is handed the
  sum and takes it apart again. What is left below the tab without the spacing is shared
  by the lines, and each is drawn in the middle of its share, its slot.

  A frame has room for its label, sideways and down (`headed_place`), so nothing the
  drawing cuts off to be safe is ever cut off: the tab keeps its size, and the share is
  no less than the line height (`slotHeight_eq`). The slots follow one another from the
  tab to the end of the header (`slotted_place`).
-/

import SequenceDiagram.Drawing.Scene
import SequenceDiagram.Proofs.Layout.Nesting

namespace SequenceDiagram

namespace Layout

variable {style : Style ℚ} {m : TextMetrics ℚ} {d : Diagram} {b : Block} {f : Frame ℚ}

/-! ## Room for a label -/

/-- A frame with the label of its block and room for it. -/
structure Headed (style : Style ℚ) (m : TextMetrics ℚ) (b : Block) (f : Frame ℚ) : Prop where
  lines : f.labelLines = (blockLabel style m b.kind b.text).lines
  tabWidth : f.tabWidth = (blockLabel style m b.kind b.text).tabWidth
  headerHeight : f.headerHeight = (blockLabel style m b.kind b.text).headerHeight
  width : (blockLabel style m b.kind b.text).width ≤ f.box.width
  height : (blockLabel style m b.kind b.text).headerHeight + style.groupPadding ≤ f.box.height

theorem le_width_fitHeader (style : Style ℚ) (label : BlockLabel ℚ) (c : Box ℚ) :
    label.width ≤ (fitHeader style label c).width := by
  show label.width ≤ (if c.width < label.width then c.left + label.width else c.right) - c.left
  split
  · linarith
  · rename_i h
    exact not_lt.mp h

theorem le_height_fitHeader (style : Style ℚ) (label : BlockLabel ℚ) (c : Box ℚ) :
    label.headerHeight + style.groupPadding ≤ (fitHeader style label c).height := by
  show _ ≤ (if c.height < label.headerHeight + style.groupPadding
    then c.top + label.headerHeight + style.groupPadding else c.bottom) - c.top
  split
  · linarith
  · rename_i h
    exact not_lt.mp h

theorem headed_frame (style : Style ℚ) (m : TextMetrics ℚ) (d : Diagram) (p : Placement ℚ)
    (before : List (Block × Frame ℚ)) (b : Block) : Headed style m b (frame style m d p before b) :=
  ⟨rfl, rfl, rfl, le_width_fitHeader .., le_height_fitHeader ..⟩

theorem Headed.shift (h : Headed style m b f) (dx : ℚ) : Headed style m b { f with box := f.box.shift dx 0 } where
  lines := h.lines
  tabWidth := h.tabWidth
  headerHeight := h.headerHeight
  width := by
    rw [Box.shift_width]
    exact h.width
  height := by
    have hsame : (f.box.shift dx 0).height = f.box.height := add_sub_add_right_eq_sub ..
    rw [hsame]
    exact h.height

theorem headed_place (h : (b, f) ∈ d.blocks.zip (d.place style m).frames) : Headed style m b f := by
  obtain ⟨dx, -, -, hframes, -⟩ := moved_place style m d
  rw [hframes, List.zip_map_right] at h
  obtain ⟨⟨c, g⟩, hg, heq⟩ := List.mem_map.mp h
  cases heq
  rw [zip_framed] at hg
  obtain ⟨k, -, -, rfl⟩ := mem_framedBlocks hg
  exact (headed_frame ..).shift dx

/-! ## The parts of a label -/

theorem tabWidth_le_width (style : Style ℚ) (m : TextMetrics ℚ) (kind : BlockKind) (text : String) :
    (blockLabel style m kind text).tabWidth ≤ (blockLabel style m kind text).width := by
  show _ ≤ Scalar.larger (blockLabel style m kind text).tabWidth _
  rw [Scalar.larger_exact]
  exact le_max_left _ _

/-- A label is as wide as each of its lines with the padding, also one that was too wide to wrap. -/
theorem lineWidth_le_width {kind : BlockKind} {text line : String} (h : line ∈ (blockLabel style m kind text).lines) :
    (m.measure line style.messageFontSize).width + style.textPaddingX * 2 ≤ (blockLabel style m kind text).width := by
  have hwidest := Scalar.le_foldl_larger_of_mem id
    (List.mem_map_of_mem (f := fun l => (m.measure l style.messageFontSize).width) h) 0
  show _ ≤ Scalar.larger _ (_ + style.textPaddingX * 2)
  rw [Scalar.larger_exact]
  exact (add_le_add_left hwidest _).trans (le_max_right _ _)

theorem tabHeight_add_le_headerHeight (style : Style ℚ) (m : TextMetrics ℚ) (kind : BlockKind) (text : String) :
    style.groupTabHeight + linesHeight style m (blockLabel style m kind text).lines.length ≤
      (blockLabel style m kind text).headerHeight := by
  show _ ≤ Scalar.larger style.groupBaseHeight _
  rw [Scalar.larger_exact]
  exact le_max_right _ _

theorem linesHeight_nonneg (hs : style.NonNegative) (hline : 0 ≤ m.lineHeight style.messageFontSize) (n : Nat) :
    0 ≤ linesHeight style m n := by
  cases n with
  | zero => exact le_rfl
  | succ n => exact add_nonneg (mul_nonneg (Nat.cast_nonneg _) hline) (mul_nonneg (Nat.cast_nonneg _) hs.lineSpacing)

namespace Headed

theorem tabWidth_le (h : Headed style m b f) : f.tabWidth ≤ f.box.width :=
  h.tabWidth ▸ (tabWidth_le_width ..).trans h.width

theorem tabHeight_le (h : Headed style m b f) (hs : style.NonNegative)
    (hline : 0 ≤ m.lineHeight style.messageFontSize) : style.groupTabHeight ≤ f.box.height := by
  have hheader := tabHeight_add_le_headerHeight style m b.kind b.text
  have hlines := linesHeight_nonneg hs hline (blockLabel style m b.kind b.text).lines.length
  linarith [h.height, hs.groupPadding]

theorem line_le (h : Headed style m b f) {line : String} (hmem : line ∈ f.labelLines) :
    (m.measure line style.messageFontSize).width + style.textPaddingX * 2 ≤ f.box.width :=
  (lineWidth_le_width (h.lines ▸ hmem)).trans h.width

end Headed

end Layout

namespace Drawing

open Layout Scalar

variable {style : Style ℚ} {m : TextMetrics ℚ} {d : Diagram} {b : Block} {f : Frame ℚ}

/-! ## The slots of a label -/

/-- Where the slot of line `i` begins when slots are `s` high. -/
def slotTop (style : Style ℚ) (f : Frame ℚ) (s : ℚ) (i : Nat) : ℚ :=
  f.box.top + style.groupTabHeight + i * (s + style.lineSpacing)

/-- The tab of a frame at its full size, its lower right corner cut off. -/
def fullTab (style : Style ℚ) (f : Frame ℚ) : List (Point ℚ) :=
  let notch := min (min style.foldSize f.tabWidth) style.groupTabHeight
  [⟨f.box.left, f.box.top⟩, ⟨f.box.left + f.tabWidth, f.box.top⟩,
   ⟨f.box.left + f.tabWidth, f.box.top + style.groupTabHeight - notch⟩,
   ⟨f.box.left + f.tabWidth - notch, f.box.top + style.groupTabHeight⟩,
   ⟨f.box.left, f.box.top + style.groupTabHeight⟩]

def labelText (style : Style ℚ) (bold : Bool) : TextStyle ℚ :=
  ⟨style.messageFontSize, style.palette.groupText, .start, bold⟩

/-- Line `i` of a label, in the middle of its slot. -/
def lineShape (style : Style ℚ) (f : Frame ℚ) (s : ℚ) (i : Nat) (line : String) : Shape ℚ :=
  .text line ⟨f.box.left + style.textPaddingX, slotTop style f s i + s / 2⟩ (labelText style false)

/-- A frame, its tab with the keyword, and the lines of its label in slots that are `s` high. -/
def slottedShapes (style : Style ℚ) (b : Block) (f : Frame ℚ) (s : ℚ) : List (Shape ℚ) :=
  let stroke := solid style.palette.groupLine
  [.box f.box stroke none,
   .polygon (fullTab style f) (some stroke) (some style.palette.groupFill),
   .text b.kind.keyword ⟨f.box.left + style.textPaddingX / 2, f.box.top + style.groupTabHeight / 2⟩
     (labelText style true)] ++ f.labelLines.mapIdx (lineShape style f s)

/-- The tab of a frame and the slots of its label, `s` high, have room in it. -/
structure Slotted (style : Style ℚ) (m : TextMetrics ℚ) (b : Block) (f : Frame ℚ) (s : ℚ) : Prop where
  shapes : frameShapes style b f = slottedShapes style b f s
  lines : f.labelLines = m.wrap b.text style.messageFontSize style.groupMaxWidth
  tabRight : f.box.left + f.tabWidth ≤ f.box.right
  tabBottom : f.box.top + style.groupTabHeight ≤ f.box.bottom
  lineHeight : m.lineHeight style.messageFontSize ≤ s
  first : slotTop style f s 0 = f.box.top + style.groupTabHeight
  apart : ∀ i j, i < j → slotTop style f s i + s ≤ slotTop style f s j
  last : slotTop style f s (f.labelLines.length - 1) + s = f.box.top + f.headerHeight
  header : f.box.top + f.headerHeight + style.groupPadding ≤ f.box.bottom
  lineRight : ∀ line ∈ f.labelLines, f.box.left + style.textPaddingX +
    (m.measure line style.messageFontSize).width ≤ f.box.right - style.textPaddingX

/-! ## Inverting the header -/

/-- The share of a line is what is left to it of the header, and no less than the line height. -/
theorem slotHeight_eq (h : Headed style m b f) (hline : 0 ≤ m.lineHeight style.messageFontSize) {n : Nat}
    (hn : f.labelLines.length = n + 1) :
    slotHeight style f style.groupTabHeight =
        (f.headerHeight - style.groupTabHeight - style.lineSpacing * n) / ((n + 1 : Nat) : ℚ) ∧
      m.lineHeight style.messageFontSize ≤ slotHeight style f style.groupTabHeight := by
  have hheader := tabHeight_add_le_headerHeight style m b.kind b.text
  rw [← h.lines, hn, ← h.headerHeight] at hheader
  have hshare : m.lineHeight style.messageFontSize ≤
      (f.headerHeight - style.groupTabHeight - style.lineSpacing * n) / ((n + 1 : Nat) : ℚ) := by
    rw [le_div_iff₀ (by positivity)]
    have hsum : linesHeight style m (n + 1) =
      ((n + 1 : Nat) : ℚ) * m.lineHeight style.messageFontSize + n * style.lineSpacing := rfl
    linarith
  have hslot : slotHeight style f style.groupTabHeight =
      (f.headerHeight - style.groupTabHeight - style.lineSpacing * n) / ((n + 1 : Nat) : ℚ) := by
    unfold slotHeight
    rw [hn]
    show larger _ _ = _
    rw [larger_exact]
    exact max_eq_left (hline.trans hshare)
  exact ⟨hslot, hslot ▸ hshare⟩

section

variable (hs : style.NonNegative) (hline : 0 ≤ m.lineHeight style.messageFontSize)

include hs hline

/-- Nothing of a tab is cut off in a frame with room for it. -/
theorem frameShapes_eq (h : Headed style m b f) :
    frameShapes style b f = slottedShapes style b f (slotHeight style f style.groupTabHeight) := by
  have hwidth : smaller f.tabWidth f.box.width = f.tabWidth := by
    rw [smaller_exact]
    exact min_eq_left h.tabWidth_le
  have hheight : smaller style.groupTabHeight f.box.height = style.groupTabHeight := by
    rw [smaller_exact]
    exact min_eq_left (h.tabHeight_le hs hline)
  unfold frameShapes
  simp only [hwidth, hheight, smaller_exact]
  rfl

theorem slotted_of_headed (h : Headed style m b f) (hlines : f.labelLines ≠ []) :
    Slotted style m b f (slotHeight style f style.groupTabHeight) := by
  obtain ⟨n, hn⟩ : ∃ n, f.labelLines.length = n + 1 := Nat.exists_eq_add_one.mpr (List.length_pos_iff.mpr hlines)
  obtain ⟨hslot, hroom⟩ := slotHeight_eq h hline hn
  generalize hsh : slotHeight style f style.groupTabHeight = s at hslot hroom
  -- the slots and the spacing between them fill the header below the tab
  have hfill : (n + 1) * s + n * style.lineSpacing = f.headerHeight - style.groupTabHeight := by
    rw [eq_div_iff (by positivity)] at hslot
    push_cast at hslot
    linarith
  have hstep : 0 ≤ s + style.lineSpacing := add_nonneg (hline.trans hroom) hs.lineSpacing
  refine ⟨hsh ▸ frameShapes_eq hs hline h, h.lines, ?tabRight, ?tabBottom, hroom, ?first, ?apart, ?last,
    ?header, ?lineRight⟩
  case tabRight =>
    have htab := h.tabWidth_le
    rw [Box.width_eq] at htab
    linarith
  case tabBottom =>
    have htab := h.tabHeight_le hs hline
    rw [Box.height_eq] at htab
    linarith
  case first =>
    unfold slotTop
    rw [Nat.cast_zero, zero_mul, add_zero]
  case apart =>
    intro i j hij
    have hnext : ((i : ℚ) + 1) * (s + style.lineSpacing) ≤ j * (s + style.lineSpacing) :=
      mul_le_mul_of_nonneg_right (by exact_mod_cast hij) hstep
    unfold slotTop
    linarith [hs.lineSpacing]
  case last =>
    unfold slotTop
    rw [hn, Nat.add_sub_cancel]
    linarith
  case header =>
    have hheight := h.height
    rw [← h.headerHeight, Box.height_eq] at hheight
    linarith
  case lineRight =>
    intro line hmem
    have hwidth := h.line_le hmem
    rw [Box.width_eq] at hwidth
    linarith

end

/-- The shapes of every frame stand together in the scene. -/
theorem frameShapes_drawn (d : Diagram) (p : Placement ℚ) (h : (b, f) ∈ d.blocks.zip p.frames) :
    frameShapes style b f <:+: scene style d p := by
  have hmem : frameShapes style b f ∈ List.zipWith (frameShapes style) d.blocks p.frames := by
    rw [← List.map_uncurry_zip_eq_zipWith]
    exact List.mem_map_of_mem h
  exact (List.infix_of_mem_flatten hmem).trans (List.suffix_append _ _).isInfix

/-- In every layout the lines of a block's label stand in slots that fill the header below the
    tab. Of the metrics only the height of a line has to be known not to be negative. -/
theorem slotted_place (hs : style.NonNegative) (hline : 0 ≤ m.lineHeight style.messageFontSize) (d : Diagram) :
    (d.place style m).frames.length = d.blocks.length ∧
      ∀ b f, (b, f) ∈ d.blocks.zip (d.place style m).frames → f.labelLines ≠ [] →
        frameShapes style b f <:+: scene style d (d.place style m) ∧ ∃ s, Slotted style m b f s :=
  ⟨length_frames_place style m d, fun _ _ h hlines =>
    ⟨frameShapes_drawn d _ h, _, slotted_of_headed hs hline (headed_place h) hlines⟩⟩

/-- A line as wide as the limit, a word wider than that, and a header with height to spare. -/
theorem slotted_place_overlong :
    ∃ style : Style ℚ, style = { Style.default with groupMaxWidth := 64, groupBaseHeight := 120 } ∧
    ∃ d, Diagram.build [⟨1, .message "a" ⟨.solid, none⟩ "b" "x"⟩, ⟨2, .blockStart .loop "retry at breakneck pace now"⟩,
      ⟨3, .message "b" ⟨.solid, none⟩ "a" "x"⟩, ⟨4, .blockEnd⟩] = .ok d ∧
    ∃ b f, (b, f) ∈ d.blocks.zip (d.place style (.fixed 8 16)).frames ∧
      f = ⟨⟨20, 92, 146, 283⟩, 120, 55, ["retry at", "breakneck", "pace now"]⟩ ∧ slotHeight style f 20 = 30 ∧
      frameShapes style b f <:+: scene style d (d.place style (.fixed 8 16)) ∧
      ∃ s, Slotted style (.fixed 8 16) b f s := by
  have hs : ({ Style.default with groupMaxWidth := 64, groupBaseHeight := 120 } : Style ℚ).NonNegative :=
    { Style.default_nonNegative with groupMaxWidth := by decide, groupBaseHeight := by decide }
  refine ⟨_, rfl, ?d, ?build, ⟨.loop, "retry at breakneck pace now", 1, 3⟩, _, ?frame, rfl, ?slot,
    (slotted_place hs (by decide) _).2 _ _ ?frame (by decide)⟩
  case build => exact rfl
  case frame => decide +kernel
  case slot => decide +kernel

end Drawing

end SequenceDiagram
