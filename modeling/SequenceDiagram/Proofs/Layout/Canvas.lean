/-
  SequenceDiagram.Proofs.Layout.Canvas — everything is on the canvas.

  On the left the move to the right has left the group padding free of everything. The
  canvas reaches past the last label, which ends farthest right of all labels, and past
  every event and frame, so nothing is cut off on the right or at the bottom. At the top
  the labels begin at zero, and frames reach no higher than the padding between the
  labels and the first row. Labels are all of one height where text is, so there is room
  for the labels below the lifelines too.
-/

import SequenceDiagram.Layout.Canvas
import SequenceDiagram.Proofs.Layout.Nesting

namespace SequenceDiagram

namespace Layout

variable {style : Style ℚ} {m : TextMetrics ℚ} {d : Diagram} {p : Placement ℚ} {b : Box ℚ}

/-! ## The edges of the canvas -/

theorem overhang_le_canvas (style : Style ℚ) (h : b ∈ p.frames.map Frame.box ++ p.events) :
    b.right + style.groupPadding ≤ (canvasSize style p).width ∧
      b.bottom + style.groupPadding ≤ (canvasSize style p).height := by
  constructor
  · have hright := Scalar.le_foldl_larger_of_mem (fun b : Box ℚ => b.right + style.groupPadding) h
    exact (hright _).trans (Scalar.le_ceil _)
  · have hbottom := Scalar.le_foldl_larger_of_mem (fun b : Box ℚ => b.bottom + style.groupPadding) h
    exact (hbottom _).trans (Scalar.le_ceil _)

theorem lastLabel_le_canvas (style : Style ℚ) (h : p.labels.getLast? = some b) :
    b.right + style.minPaddingX ≤ (canvasSize style p).width ∧
      p.terminalY + 2 * b.height ≤ (canvasSize style p).height := by
  unfold canvasSize
  rw [h]
  constructor
  · exact (Scalar.le_foldl_larger _ _ _).trans (Scalar.le_ceil _)
  · rw [mul_comm]
    exact (Scalar.le_foldl_larger _ _ _).trans (Scalar.le_ceil _)

/-- The size of the canvas is not read back. -/
theorem canvasSize_canvas (style : Style ℚ) (p : Placement ℚ) (canvas : Size ℚ) :
    canvasSize style { p with canvas } = canvasSize style p := rfl

theorem canvas_place (style : Style ℚ) (m : TextMetrics ℚ) (d : Diagram) :
    (d.place style m).canvas = canvasSize style (d.place style m) := by
  rw [place_eq]
  exact (canvasSize_canvas style (clearLeft style (framed style m d)) _).symm

/-- Nothing of the finished layout is nearer to the left edge than the padding. -/
theorem padding_le_leftEdges (style : Style ℚ) (m : TextMetrics ℚ) (d : Diagram) :
    ∀ x ∈ leftEdges (d.place style m), style.groupPadding ≤ x := by
  obtain ⟨dx, -, heq, hclear⟩ := place_eq_shiftRight style m d
  have hedges : leftEdges (d.place style m) = (leftEdges (framed style m d)).map (· + dx) := by
    rw [heq]
    exact leftEdges_shiftRight dx _
  intro x hx
  rw [hedges] at hx
  obtain ⟨y, hy, rfl⟩ := List.mem_map.mp hx
  exact hclear y hy

/-! ## From top to bottom -/

theorem headerHeight_place_nonneg (style : Style ℚ) (m : TextMetrics ℚ) (d : Diagram) :
    0 ≤ (d.place style m).headerHeight := by
  obtain ⟨dx, -, hmoved, -⟩ := moved_place style m d
  rw [hmoved.headerHeight]
  exact headerHeight_nonneg style m d (.unplaced d)

section

variable (hs : style.NonNegative) (hm : m.NonNegative style)

include hs hm

/-- The first row begins below the labels and the padding. -/
theorem headerHeight_add_le_top {k : Nat} (hk : k < d.events.length) :
    (d.place style m).headerHeight + style.minPaddingY ≤ ((d.place style m).eventBox k).top := by
  have hrow := rowTop_le hs hm ((d.place style m).headerHeight + style.minPaddingY) d.events (Nat.zero_le k)
  rw [rowTop_zero] at hrow
  rwa [(stacked_place hs hm d).top k _ (List.getElem?_eq_getElem hk)]

theorem terminalY_nonneg (d : Diagram) : 0 ≤ (d.place style m).terminalY := by
  have hheader := headerHeight_place_nonneg style m d
  have hrows := rowTop_le hs hm ((d.place style m).headerHeight + style.minPaddingY) d.events
    (Nat.zero_le d.events.length)
  rw [rowTop_zero, ← (stacked_place hs hm d).terminal] at hrows
  linarith [hs.minPaddingY]

/-- Frames reach into the padding above the first row, and no higher. -/
theorem frame_top_nonneg (hd : d.Resolved) (hb : d.Bracketed) (hpadding : style.groupPadding ≤ style.minPaddingY)
    (hmargin : style.blockMargin ≤ style.minPaddingY) {f : Frame ℚ} (hf : f ∈ (d.place style m).frames) :
    0 ≤ f.box.top := by
  obtain ⟨k, hk⟩ := List.mem_iff_getElem?.mp hf
  have hlt : k < d.blocks.length := by
    rw [← length_frames_place style m d]
    exact (List.getElem?_eq_some_iff.mp hk).1
  have hzip : (d.blocks[k], f) ∈ d.blocks.zip (d.place style m).frames :=
    List.mem_iff_getElem?.mpr ⟨k, List.getElem?_zip_eq_some.mpr ⟨List.getElem?_eq_getElem hlt, hk⟩⟩
  have hmem := List.getElem_mem hlt
  have hstart := (hb.lt _ hmem).trans (hb.finish_lt _ hmem)
  have htop := headerHeight_add_le_top hs hm hstart
  have hheader := headerHeight_place_nonneg style m d
  rw [(span_place hs hm hd hb hmargin hzip).1]
  linarith

end

/-! ## On the page -/

/-- Where boxes may stand: past the padding on the left, anywhere else on the canvas. -/
def page (style : Style ℚ) (p : Placement ℚ) : Box ℚ := ⟨style.groupPadding, 0, p.canvas.width, p.canvas.height⟩

theorem overhang_on_page (hs : style.NonNegative)
    (h : b ∈ (d.place style m).frames.map Frame.box ++ (d.place style m).events) (htop : 0 ≤ b.top) :
    b.Within (page style (d.place style m)) ∧ b.right + style.groupPadding ≤ (d.place style m).canvas.width ∧
      b.bottom + style.groupPadding ≤ (d.place style m).canvas.height := by
  have hedge : b.left ∈ leftEdges (d.place style m) := by
    rcases List.mem_append.mp h with hframe | hevent
    · obtain ⟨f, hf, rfl⟩ := List.mem_map.mp hframe
      exact List.mem_append_right _ (List.mem_map_of_mem hf)
    · exact List.mem_append_left _ (List.mem_append_right _ (List.mem_map_of_mem hevent))
  have hleft := padding_le_leftEdges style m d _ hedge
  obtain ⟨hright, hbottom⟩ := overhang_le_canvas style h
  rw [← canvas_place] at hright hbottom
  have hpad := hs.groupPadding
  refine ⟨⟨hleft, htop, ?_, ?_⟩, hright, hbottom⟩
  · show b.right ≤ (d.place style m).canvas.width
    linarith
  · show b.bottom ≤ (d.place style m).canvas.height
    linarith

section

variable (hs : style.NonNegative) (hm : m.NonNegative style) {i : Nat}

include hs hm

theorem getLast?_labels (hi : i < d.actors.length) :
    (d.place style m).labels.getLast? = some ((d.place style m).labelBox (d.actors.length - 1)) := by
  have hlined := linedUp_place hs hm d
  rw [List.getLast?_eq_getElem?, hlined.labels, hlined.labels_getElem? (by omega)]

/-- The canvas is measured from the last label, which ends farthest right. -/
theorem label_right_le_canvas (hi : i < d.actors.length) :
    ((d.place style m).labelBox i).right + style.minPaddingX ≤ (d.place style m).canvas.width := by
  have hright := (lastLabel_le_canvas style (getLast?_labels hs hm hi)).1
  have hfarthest := (linedUp_place hs hm d).right_le hs (by omega : i ≤ d.actors.length - 1) (by omega)
  rw [canvas_place]
  linarith

/-- There is room for the last label below the lifelines. -/
theorem terminalY_le_canvas (hi : i < d.actors.length) :
    (d.place style m).terminalY ≤ (d.place style m).canvas.height := by
  have hbottom := (lastLabel_le_canvas style (getLast?_labels hs hm hi)).2
  have hheight := ((linedUp_place hs hm d).upright (d.actors.length - 1) (by omega)).vertical
  rw [Box.height_eq] at hbottom
  rw [canvas_place]
  linarith

variable (hlevel : m.Level style)

include hlevel

/-- The last label is as high as any. -/
theorem label_bottom_le_canvas (hi : i < d.actors.length) :
    (d.place style m).terminalY + 2 * ((d.place style m).labelBox i).bottom ≤ (d.place style m).canvas.height := by
  have hlined := linedUp_place hs hm d
  have hlast : d.actors.length - 1 < d.actors.length := by omega
  have hbottom := (lastLabel_le_canvas style (getLast?_labels hs hm hi)).2
  have hsame : ((d.place style m).labelBox (d.actors.length - 1)).height = ((d.place style m).labelBox i).bottom := by
    rw [Box.height_eq, hlined.top _ hlast, hlined.bottom i _ (List.getElem?_eq_getElem hi),
      hlined.bottom _ _ (List.getElem?_eq_getElem hlast), sub_zero]
    exact congrArg (· + _) (hlevel _ _)
  rwa [hsame, ← canvas_place] at hbottom

/-- Labels are on the page from the top row down to the row below the lifelines. -/
theorem label_on_page (hi : i < d.actors.length) {y : ℚ} (hy : 0 ≤ y) (hterminal : y ≤ (d.place style m).terminalY) :
    (((d.place style m).labelBox i).shift 0 y).Within (page style (d.place style m)) ∧
      (((d.place style m).labelBox i).shift 0 y).right + style.minPaddingX ≤ (d.place style m).canvas.width := by
  have hlined := linedUp_place hs hm d
  have hpadding := hs.minPaddingX
  have hright := label_right_le_canvas hs hm hi
  have hbottom := label_bottom_le_canvas hs hm hlevel hi
  have hleft : style.groupPadding ≤ ((d.place style m).labelBox i).left := by
    have hmem := List.mem_of_getElem? (hlined.labels_getElem? hi)
    apply padding_le_leftEdges style m d
    exact List.mem_append_left _ (List.mem_append_left _ (List.mem_map_of_mem hmem))
  have htop := hlined.top i hi
  have hheight := (hlined.upright i hi).vertical
  simp only [Box.shift_right, add_zero]
  refine ⟨⟨?_, ?_, ?_, ?_⟩, hright⟩
  · show style.groupPadding ≤ _ + 0
    linarith
  · show 0 ≤ _ + y
    linarith
  · show _ + 0 ≤ (d.place style m).canvas.width
    linarith
  · show _ + y ≤ (d.place style m).canvas.height
    linarith

end

/-- Every box but the bars is on the canvas, with room on the right and below. -/
structure OnCanvas (style : Style ℚ) (d : Diagram) (p : Placement ℚ) : Prop where
  labels : p.labels.length = d.actors.length
  events : p.events.length = d.events.length
  frames : p.frames.length = d.blocks.length
  label : ∀ i < d.actors.length, (p.labelBox i).Within (page style p) ∧
    (p.labelBox i).right + style.minPaddingX ≤ p.canvas.width
  /-- The same label below its lifeline. -/
  repeated : ∀ i < d.actors.length, ((p.labelBox i).shift 0 p.terminalY).Within (page style p) ∧
    ((p.labelBox i).shift 0 p.terminalY).right + style.minPaddingX ≤ p.canvas.width
  event : ∀ k < d.events.length, (p.eventBox k).Within (page style p) ∧
    (p.eventBox k).right + style.groupPadding ≤ p.canvas.width ∧
    (p.eventBox k).bottom + style.groupPadding ≤ p.canvas.height
  frame : ∀ f ∈ p.frames, f.box.Within (page style p) ∧
    f.box.right + style.groupPadding ≤ p.canvas.width ∧ f.box.bottom + style.groupPadding ≤ p.canvas.height

end Layout

open Layout in
/-- In every layout of a linked diagram, with text of one height and rows far enough apart,
    every label, event and frame is on the canvas. -/
theorem Diagram.onCanvas_of_build {ss : List Numbered} {d : Diagram} {style : Style ℚ} {m : TextMetrics ℚ}
    (h : build ss = .ok d) (hs : style.NonNegative) (hm : m.NonNegative style)
    (hlevel : m.Level style) (hpadding : style.groupPadding ≤ style.minPaddingY)
    (hmargin : style.blockMargin ≤ style.minPaddingY) : OnCanvas style d (d.place style m) := by
  have hstacked := stacked_place hs hm d
  have hterminal := terminalY_nonneg hs hm d
  refine ⟨(linedUp_place hs hm d).labels, hstacked.length, length_frames_place style m d, fun i hi => ?_,
    fun i hi => label_on_page hs hm hlevel hi hterminal le_rfl, fun k hk => ?_, fun f hf => ?_⟩
  · have htop := label_on_page hs hm hlevel hi le_rfl hterminal
    rwa [Box.shift_zero] at htop
  · have hmem := List.mem_of_getElem? (hstacked.events_getElem? (List.getElem?_eq_getElem hk))
    have htop := headerHeight_add_le_top hs hm hk
    have hheader := headerHeight_place_nonneg style m d
    apply overhang_on_page hs (List.mem_append_right _ hmem)
    linarith [hs.minPaddingY]
  · have htop := frame_top_nonneg hs hm (resolved_of_build h) (bracketed_of_build h) hpadding hmargin hf
    exact overhang_on_page hs (List.mem_append_left _ (List.mem_map_of_mem hf)) htop

open Layout in
/-- Nested frames with a note beyond the first label and a message beyond the last. -/
theorem Diagram.onCanvas_overhanging :
    ∃ ss, ss = [⟨1, .message "a" ⟨.solid, none⟩ "b" "first"⟩, ⟨2, .blockStart .loop "outer"⟩,
      ⟨3, .blockStart .alt "inner"⟩, ⟨4, .note .left ["a"] "far to the left"⟩,
      ⟨5, .message "b" ⟨.solid, none⟩ "b" "far beyond the last label"⟩, ⟨6, .blockEnd⟩, ⟨7, .blockEnd⟩] ∧
    ∃ d, build ss = .ok d ∧
      (d.place .default (.fixed (8 : ℚ) 16)).labels = [⟨166, 0, 204, 26⟩, ⟨256, 0, 294, 26⟩] ∧
      (d.place .default (.fixed (8 : ℚ) 16)).frames.map Frame.box = [⟨15, 153, 535, 341⟩, ⟨10, 92, 540, 396⟩] ∧
      (d.place .default (.fixed (8 : ℚ) 16)).canvas = ⟨550, 518⟩ ∧
      OnCanvas .default d (d.place .default (.fixed 8 16)) := by
  have hm : (TextMetrics.fixed (8 : ℚ) 16).NonNegative .default :=
    TextMetrics.fixed_nonNegative (by decide) (by decide) _
  refine ⟨_, rfl, ?d, ?build, ?labels, ?frames, ?canvas,
    onCanvas_of_build ?build Style.default_nonNegative hm (TextMetrics.fixed_level 8 16 _) (by decide) (by decide)⟩
  case build => exact rfl
  case labels => decide +kernel
  case frames => decide +kernel
  case canvas => decide +kernel

end SequenceDiagram
