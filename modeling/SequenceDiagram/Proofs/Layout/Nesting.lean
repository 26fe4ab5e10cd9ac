/-
  SequenceDiagram.Proofs.Layout.Nesting — frames among events and inside one another.

  Inner frames stand before outer ones, so an outer frame has taken in every frame nested
  in it (`within_framed`). Up and down no frame grows beyond its own events: a nested
  frame with its margin fits into the padding between rows, and the first row of a block
  is as high as its header (`span_framed`). So frames keep clear of every event outside
  their block (`FramesClear`), and hold every event, label and frame inside it
  (`FramesHold`). All of this is kept when the layout is moved to the right.
-/

import SequenceDiagram.Proofs.Diagram.Blocks
import SequenceDiagram.Proofs.Layout.Frames
import SequenceDiagram.Proofs.Layout.Placing

namespace SequenceDiagram

namespace Layout

variable {style : Style ℚ} {m : TextMetrics ℚ} {d : Diagram} {p q : Placement ℚ} {b c : Block} {f g : Frame ℚ}

/-! ## Every block has its frame -/

theorem framedBlocks_fst (style : Style ℚ) (m : TextMetrics ℚ) (d : Diagram) (p : Placement ℚ) :
    (framedBlocks style m d p).map (·.1) = d.blocks := by
  apply List.ext_getElem?
  intro k
  rw [List.getElem?_map, framedBlocks_getElem?, Option.map_map]
  exact Option.map_id'

/-- The frames of a placement are those that its own labels and events give. -/
theorem zip_frameBlocks (style : Style ℚ) (m : TextMetrics ℚ) (d : Diagram) (p : Placement ℚ) :
    d.blocks.zip (frameBlocks style m d p).frames = framedBlocks style m d (frameBlocks style m d p) :=
  (List.zip_of_prod (framedBlocks_fst style m d (frameBlocks style m d p)) rfl).symm

theorem zip_framed (style : Style ℚ) (m : TextMetrics ℚ) (d : Diagram) :
    d.blocks.zip (framed style m d).frames = framedBlocks style m d (framed style m d) := zip_frameBlocks ..

theorem length_frames_framed (style : Style ℚ) (m : TextMetrics ℚ) (d : Diagram) :
    (framed style m d).frames.length = d.blocks.length := by
  rw [← framedBlocks_fst style m d (framed style m d), List.length_map]
  exact List.length_map _

/-- A frame is made from its block's content, the frames before it and its header. -/
theorem mem_framedBlocks (h : (b, f) ∈ framedBlocks style m d p) : ∃ k, d.blocks[k]? = some b ∧
    (framedBlocks style m d p)[k]? = some (b, f) ∧ f = frame style m d p ((framedBlocks style m d p).take k) b := by
  obtain ⟨k, hk⟩ := List.mem_iff_getElem?.mp h
  have hframe := hk
  rw [framedBlocks_getElem?] at hframe
  obtain ⟨b', hb, heq⟩ := Option.map_eq_some_iff.mp hframe
  cases heq
  exact ⟨k, hb, hk, rfl⟩

theorem box_frame (style : Style ℚ) (m : TextMetrics ℚ) (d : Diagram) (p : Placement ℚ)
    (before : List (Block × Frame ℚ)) (b : Block) : (frame style m d p before b).box =
      fitHeader style (blockLabel style m b.kind b.text) (before.foldl (takeIn style b) (contentBox style d p b)) := rfl

/-- Blocks stand in the order they end, and an inner block ends first. -/
theorem lt_of_inside {i k : Nat} (hb : d.Bracketed) (hc : d.blocks[i]? = some c) (hk : d.blocks[k]? = some b)
    (hin : Inside c b) : i < k := by
  obtain ⟨hi, rfl⟩ := List.getElem?_eq_some_iff.mp hc
  obtain ⟨hlt, rfl⟩ := List.getElem?_eq_some_iff.mp hk
  by_contra hle
  rcases Nat.eq_or_lt_of_le (Nat.not_lt.mp hle) with rfl | hgt
  · exact absurd hin.2 (Nat.lt_irrefl _)
  · exact absurd hin.2 (Nat.lt_asymm (List.pairwise_iff_getElem.mp hb.ordered k i hlt hi hgt))

/-! ## The rows of a frame -/

section

variable (hs : style.NonNegative) (hm : m.NonNegative style) (hstacked : Stacked style m d p)

include hs hm hstacked

/-- The rows of an inner block stand apart from the first and the last row around it. -/
theorem rows_of_inside (hin : Inside c b) (hlt : c.start < c.finish) (hfinish : b.finish < d.events.length) :
    (p.eventBox b.start).top + style.minPaddingY ≤ (p.eventBox c.start).top ∧
      (p.eventBox (c.finish - 1)).bottom + style.minPaddingY ≤ (p.eventBox (b.finish - 1)).bottom := by
  have hafter : b.start < c.start := hin.1
  have hbefore : c.finish < b.finish := hin.2
  have hfirst : b.start < d.events.length := by omega
  have hlast : b.finish - 1 < d.events.length := by omega
  have hupper := hstacked.apart hs hm hafter (by omega)
  have hlower := hstacked.apart hs hm (by omega : c.finish - 1 < b.finish - 1) hlast
  have htop := (hstacked.upright b.start _ (List.getElem?_eq_getElem hfirst)).vertical
  have hbottom := (hstacked.upright (b.finish - 1) _ (List.getElem?_eq_getElem hlast)).vertical
  constructor <;> linarith

/-- The first row alone is as high as the header. -/
theorem header_le_rows {line : Nat} (hstart : d.events[b.start]? = some ⟨line, .blockStart b.kind b.text⟩)
    (hlt : b.start < b.finish) (hfinish : b.finish < d.events.length) :
    (p.eventBox b.start).top + (blockLabel style m b.kind b.text).headerHeight ≤ (p.eventBox (b.finish - 1)).bottom := by
  have hrow := hstacked.height b.start _ hstart
  have hsize : (eventSize style m (.blockStart b.kind b.text)).height =
      (blockLabel style m b.kind b.text).headerHeight := rfl
  rw [← hsize, ← hrow]
  exact hstacked.bottom_le hs hm (by omega) (by omega)

end

section

variable (hs : style.NonNegative) (hm : m.NonNegative style) (hlined : LinedUp style m d p)
  (hstacked : Stacked style m d p) (hd : d.Resolved) (hb : d.Bracketed)

include hs hm hlined hstacked hd hb

theorem holds_framed (h : (b, f) ∈ framedBlocks style m d p) : Holds style d p b f.box := by
  obtain ⟨k, hk, -, rfl⟩ := mem_framedBlocks h
  have hmem := List.mem_of_getElem? hk
  have hcontent := contentBox_holds hs hm hstacked hlined hd (hb.lt b hmem) (hb.finish_lt b hmem).le
  rw [box_frame]
  exact hcontent.mono ((within_foldl_takeIn hcontent.upright b _).trans (within_fitHeader style _ _))

/-- A frame holds every frame nested in it, with the margin. -/
theorem within_framed (h : (b, f) ∈ framedBlocks style m d p) (h' : (c, g) ∈ framedBlocks style m d p)
    (hin : Inside c b) : (g.box.grow style.blockMargin).Within f.box := by
  obtain ⟨k, hk, -, rfl⟩ := mem_framedBlocks h
  have hmem := List.mem_of_getElem? hk
  have hcontent := contentBox_holds hs hm hstacked hlined hd (hb.lt b hmem) (hb.finish_lt b hmem).le
  have hearlier : (c, g) ∈ (framedBlocks style m d p).take k := by
    obtain ⟨i, hi, hframe, -⟩ := mem_framedBlocks h'
    have hlt := lt_of_inside hb hi hk hin
    exact List.mem_iff_getElem?.mpr ⟨i, by rw [List.getElem?_take, if_pos hlt, hframe]⟩
  rw [box_frame]
  exact (inner_within_foldl_takeIn hcontent.upright hearlier hin).trans (within_fitHeader style _ _)

/-- When padding and margin fit between rows, a frame spans exactly the rows of its block. -/
theorem span_framed (hpad : style.blockMargin ≤ style.minPaddingY) : ∀ x ∈ framedBlocks style m d p,
    x.2.box.top = (p.eventBox x.1.start).top - style.groupPadding ∧
      x.2.box.bottom = (p.eventBox (x.1.finish - 1)).bottom + style.groupPadding := by
  refine framedBlocks_induction (P := fun b f => f.box.top = (p.eventBox b.start).top - style.groupPadding ∧
    f.box.bottom = (p.eventBox (b.finish - 1)).bottom + style.groupPadding) fun k b hk hbefore => ?_
  have hmem := List.mem_of_getElem? hk
  have hlt := hb.lt b hmem
  have hfinish := hb.finish_lt b hmem
  obtain ⟨line, hstart⟩ := hb.start b hmem
  have hupright := (contentBox_holds hs hm hstacked hlined hd hlt hfinish.le).upright
  obtain ⟨htop, hbottom⟩ := contentBox_span hs hm hstacked hlined hd hlt hfinish.le
  have hinner : ∀ x ∈ (framedBlocks style m d p).take k, Inside x.1 b →
      (contentBox style d p b).top ≤ (x.2.box.grow style.blockMargin).top ∧
        (x.2.box.grow style.blockMargin).bottom ≤ (contentBox style d p b).bottom := by
    rintro ⟨c, g⟩ hx hin
    have hx' := List.mem_of_mem_take hx
    obtain ⟨i, hi, -⟩ := mem_framedBlocks hx'
    obtain ⟨hfirst, hlast⟩ := rows_of_inside hs hm hstacked hin (hb.lt c (List.mem_of_getElem? hi)) hfinish
    obtain ⟨hgtop, hgbottom⟩ := hbefore (c, g) hx
    rw [(holds_framed hs hm hlined hstacked hd hb hx').upright.grow_eq hs.blockMargin, htop, hbottom]
    constructor
    · show _ ≤ g.box.top - style.blockMargin
      linarith
    · show g.box.bottom + style.blockMargin ≤ _
      linarith
  obtain ⟨htop', hbottom'⟩ := foldl_takeIn_vertical hupright hinner
  have hheader := header_le_rows hs hm hstacked hstart hlt hfinish
  have hfits : (blockLabel style m b.kind b.text).headerHeight + style.groupPadding ≤
      (((framedBlocks style m d p).take k).foldl (takeIn style b) (contentBox style d p b)).height := by
    rw [Box.height_eq, htop', hbottom', htop, hbottom]
    linarith [hs.groupPadding]
  rw [box_frame, bottom_fitHeader hfits]
  exact ⟨htop'.trans htop, hbottom'.trans hbottom⟩

end

/-! ## The finished layout -/

theorem mem_zip_frames {dx : ℚ} (hframes : q.frames = p.frames.map fun f => { f with box := f.box.shift dx 0 })
    (h : (b, f) ∈ d.blocks.zip q.frames) :
    ∃ g, (b, g) ∈ d.blocks.zip p.frames ∧ f.box = g.box.shift dx 0 ∧ f.headerHeight = g.headerHeight := by
  rw [hframes, List.zip_map_right] at h
  obtain ⟨⟨b', g⟩, hg, heq⟩ := List.mem_map.mp h
  cases heq
  exact ⟨g, hg, rfl, rfl⟩

theorem held_moved {dx : ℚ} (h : Moved dx p q) (b : Block) :
    held d q b = (held d p b).map (Prod.map id (·.shift dx 0)) := by
  unfold held
  rw [h.events, List.zip_map_right, List.map_take, List.map_drop]

theorem covered_moved {dx : ℚ} (h : Moved dx p q) (b : Block) (a : Nat) :
    Covered d (held d q b) a ↔ Covered d (held d p b) a := by
  unfold Covered
  rw [held_moved h]
  simp only [List.mem_map, exists_exists_and_eq_and, forall_exists_index, and_imp, forall_apply_eq_imp_iff₂,
    Prod.map_fst, id_eq]

/-- What a box holds, it holds when both are moved. -/
theorem Holds.moved {dx : ℚ} {box : Box ℚ} (h : Holds style d p b box) (hs : style.NonNegative)
    (hlined : LinedUp style m d p) (hstacked : Stacked style m d p) (hd : d.Resolved) (hmoved : Moved dx p q) :
    Holds style d q b (box.shift dx 0) := by
  refine ⟨h.upright.shift _ _, fun x hx hmarker => ?_, fun a ha => ?_⟩
  · rw [held_moved hmoved] at hx
    obtain ⟨y, hy, rfl⟩ := List.mem_map.mp hx
    rw [Prod.map_snd, (upright_of_held hstacked hy).shift_grow hs.groupPadding]
    exact (h.event y hy hmarker).shift _ _
  · rw [covered_moved hmoved] at ha
    have hactor : a < p.labels.length := by
      rw [hlined.labels]
      rcases ha with ⟨x, hx, ha⟩ | ⟨-, ha⟩
      · exact resolved_held hd hx ha
      · exact ha
    obtain ⟨hleft, hright⟩ := h.label a ha
    rw [hmoved.labelBox hactor]
    simp only [Box.shift_left, Box.shift_right]
    constructor <;> linarith

/-- Where no event of a block refers to an actor, every label is covered. -/
theorem covered_of_unreferenced (hb : d.Bracketed) (hmem : b ∈ d.blocks) {a : Nat} (ha : a < d.actors.length)
    (hnone : ∀ k e, b.start < k → k < b.finish → d.events[k]? = some e → e.action.referenced = []) :
    Covered d (held d p b) a := by
  refine .inr ⟨fun x hx => ?_, ha⟩
  obtain ⟨k, hstart, hfinish, he, -⟩ := mem_held.mp hx
  rcases Nat.eq_or_lt_of_le hstart with rfl | hlt
  · obtain ⟨line, hline⟩ := hb.start b hmem
    rw [← Option.some.inj (hline.symm.trans he)]
    rfl
  · exact hnone k x.1 hlt hfinish he

theorem length_frames_place (style : Style ℚ) (m : TextMetrics ℚ) (d : Diagram) :
    (d.place style m).frames.length = d.blocks.length := by
  obtain ⟨dx, -, -, hframes, -⟩ := moved_place style m d
  rw [hframes, List.length_map, length_frames_framed]

theorem headerHeight_place (h : (b, f) ∈ d.blocks.zip (d.place style m).frames) :
    f.headerHeight = (blockLabel style m b.kind b.text).headerHeight := by
  obtain ⟨dx, -, -, hframes, -⟩ := moved_place style m d
  obtain ⟨g, hg, -, hheader⟩ := mem_zip_frames hframes h
  rw [zip_framed] at hg
  obtain ⟨k, -, -, rfl⟩ := mem_framedBlocks hg
  exact hheader

section

variable (hs : style.NonNegative) (hm : m.NonNegative style) (hd : d.Resolved) (hb : d.Bracketed)

include hs hm hd hb

theorem span_place (hpad : style.blockMargin ≤ style.minPaddingY)
    (h : (b, f) ∈ d.blocks.zip (d.place style m).frames) :
    f.box.top = ((d.place style m).eventBox b.start).top - style.groupPadding ∧
      f.box.bottom = ((d.place style m).eventBox (b.finish - 1)).bottom + style.groupPadding := by
  obtain ⟨dx, -, hmoved, hframes, -⟩ := moved_place style m d
  obtain ⟨g, hg, hbox, -⟩ := mem_zip_frames hframes h
  have hmem := (List.of_mem_zip hg).1
  have hlt := hb.lt b hmem
  have hfinish := hb.finish_lt b hmem
  have hstacked := stacked_framed hs hm d
  rw [zip_framed] at hg
  obtain ⟨htop, hbottom⟩ := span_framed hs hm (linedUp_framed hs hm d) hstacked hd hb hpad (b, g) hg
  rw [hbox, hmoved.eventBox (by rw [hstacked.length]; omega), hmoved.eventBox (by rw [hstacked.length]; omega),
    Box.shift_top, Box.shift_top, Box.shift_bottom, Box.shift_bottom, htop, hbottom]
  constructor <;> ring

theorem holds_place (h : (b, f) ∈ d.blocks.zip (d.place style m).frames) :
    Holds style d (d.place style m) b f.box := by
  obtain ⟨dx, -, hmoved, hframes, -⟩ := moved_place style m d
  obtain ⟨g, hg, hbox, -⟩ := mem_zip_frames hframes h
  have hlined := linedUp_framed hs hm d
  have hstacked := stacked_framed hs hm d
  rw [zip_framed] at hg
  rw [hbox]
  exact (holds_framed hs hm hlined hstacked hd hb hg).moved hs hlined hstacked hd hmoved

theorem within_place (h : (b, f) ∈ d.blocks.zip (d.place style m).frames)
    (h' : (c, g) ∈ d.blocks.zip (d.place style m).frames) (hin : Inside c b) :
    (g.box.grow style.blockMargin).Within f.box := by
  obtain ⟨dx, -, hmoved, hframes, -⟩ := moved_place style m d
  obtain ⟨f', hf, hfbox, -⟩ := mem_zip_frames hframes h
  obtain ⟨g', hg, hgbox, -⟩ := mem_zip_frames hframes h'
  have hlined := linedUp_framed hs hm d
  have hstacked := stacked_framed hs hm d
  rw [zip_framed] at hf hg
  have hupright := (holds_framed hs hm hlined hstacked hd hb hg).upright
  rw [hfbox, hgbox, hupright.shift_grow hs.blockMargin]
  exact (within_framed hs hm hlined hstacked hd hb hf hg hin).shift dx 0

end

/-! ## Frames and the events outside -/

/-- Frames span the rows of their blocks and keep clear of every other row. -/
structure FramesClear (style : Style ℚ) (d : Diagram) (p : Placement ℚ) : Prop where
  frames : p.frames.length = d.blocks.length
  events : p.events.length = d.events.length
  bounds : ∀ b ∈ d.blocks, b.start < b.finish ∧ b.finish < d.events.length
  top : ∀ b f, (b, f) ∈ d.blocks.zip p.frames → f.box.top = (p.eventBox b.start).top - style.groupPadding
  bottom : ∀ b f, (b, f) ∈ d.blocks.zip p.frames →
    f.box.bottom = (p.eventBox (b.finish - 1)).bottom + style.groupPadding
  above : ∀ b f, (b, f) ∈ d.blocks.zip p.frames → ∀ k < b.start, (p.eventBox k).bottom ≤ f.box.top
  /-- The last marker of a block stands below its frame already. -/
  below : ∀ b f, (b, f) ∈ d.blocks.zip p.frames → ∀ k, b.finish ≤ k → k < d.events.length →
    f.box.bottom ≤ (p.eventBox k).top
  disjoint : ∀ b f, (b, f) ∈ d.blocks.zip p.frames → ∀ c g, (c, g) ∈ d.blocks.zip p.frames →
    b.finish < c.start → f.box.bottom ≤ g.box.top
  /-- The band of the header ends above whatever stands in the block. -/
  header : ∀ b f, (b, f) ∈ d.blocks.zip p.frames → ∀ k, b.start < k → k ≤ b.finish →
    f.box.top + f.headerHeight ≤ (p.eventBox k).top

/-- The first row of a block is as high as the header of its frame. -/
theorem headerHeight_eq (hs : style.NonNegative) (hm : m.NonNegative style) (hb : d.Bracketed)
    (h : (b, f) ∈ d.blocks.zip (d.place style m).frames) : ((d.place style m).eventBox b.start).bottom =
      ((d.place style m).eventBox b.start).top + f.headerHeight := by
  obtain ⟨line, hline⟩ := hb.start b (List.of_mem_zip h).1
  rw [headerHeight_place h]
  exact (stacked_place hs hm d).height b.start _ hline

end Layout

open Layout in
/-- In every layout of a linked diagram with rows far enough apart, frames keep clear of the
    events outside their blocks. -/
theorem Diagram.framesClear_of_build {ss : List Numbered} {d : Diagram} {style : Style ℚ} {m : TextMetrics ℚ}
    (h : build ss = .ok d) (hs : style.NonNegative) (hm : m.NonNegative style)
    (hpadding : style.groupPadding ≤ style.minPaddingY) (hmargin : style.blockMargin ≤ style.minPaddingY) :
    FramesClear style d (d.place style m) := by
  have hb := bracketed_of_build h
  have hstacked := stacked_place hs hm d
  have hspan := fun b f (hf : (b, f) ∈ d.blocks.zip (d.place style m).frames) =>
    span_place hs hm (resolved_of_build h) hb hmargin hf
  have hbounds : ∀ b ∈ d.blocks, b.start < b.finish ∧ b.finish < d.events.length :=
    fun b hmem => ⟨hb.lt b hmem, hb.finish_lt b hmem⟩
  refine ⟨length_frames_place style m d, hstacked.length, hbounds, fun b f hf => (hspan b f hf).1,
    fun b f hf => (hspan b f hf).2, fun b f hf k hk => ?_, fun b f hf k hk hlt => ?_,
    fun b f hf c g hg hbc => ?_, fun b f hf k hk hle => ?_⟩
  · obtain ⟨hstart, hfinish⟩ := hbounds b (List.of_mem_zip hf).1
    have happart := hstacked.apart hs hm hk (by omega)
    rw [(hspan b f hf).1]
    linarith
  · obtain ⟨hstart, -⟩ := hbounds b (List.of_mem_zip hf).1
    have happart := hstacked.apart hs hm (by omega : b.finish - 1 < k) hlt
    rw [(hspan b f hf).2]
    linarith
  · obtain ⟨hstart, hfinish⟩ := hbounds b (List.of_mem_zip hf).1
    obtain ⟨hstart', hfinish'⟩ := hbounds c (List.of_mem_zip hg).1
    -- the last marker of the upper block stands between the two
    have hupper := hstacked.apart hs hm (by omega : b.finish - 1 < b.finish) hfinish
    have hlower := hstacked.apart hs hm hbc (by omega)
    have hmarker := (hstacked.upright b.finish _ (List.getElem?_eq_getElem hfinish)).vertical
    rw [(hspan b f hf).2, (hspan c g hg).1]
    linarith
  · obtain ⟨hstart, hfinish⟩ := hbounds b (List.of_mem_zip hf).1
    have happart := hstacked.apart hs hm hk (by omega)
    rw [headerHeight_eq hs hm hb hf] at happart
    rw [(hspan b f hf).1]
    linarith [hs.groupPadding, hs.minPaddingY]

open Layout in
/-- A block inside another, and one below both. -/
theorem Diagram.framesClear_nested :
    ∃ ss, ss = [⟨1, .message "a" ⟨.solid, none⟩ "b" "first"⟩, ⟨2, .blockStart .loop "outer"⟩,
      ⟨3, .note .left ["a"] "far to the left"⟩, ⟨4, .blockStart .alt "inner"⟩,
      ⟨5, .message "b" ⟨.dashed, none⟩ "b" "to itself"⟩, ⟨6, .blockEnd⟩, ⟨7, .blockEnd⟩,
      ⟨8, .blockStart .loop "nothing"⟩, ⟨9, .blockEnd⟩] ∧
    ∃ d, build ss = .ok d ∧
      d.blocks = [⟨.alt, "inner", 3, 5⟩, ⟨.loop, "outer", 1, 6⟩, ⟨.loop, "nothing", 7, 8⟩] ∧
      (d.place .default (.fixed (8 : ℚ) 16)).frames.map Frame.box =
        [⟨241, 204, 402, 341⟩, ⟨10, 92, 407, 396⟩, ⟨151, 456, 299, 512⟩] ∧
      FramesClear .default d (d.place .default (.fixed 8 16)) := by
  have hm : (TextMetrics.fixed (8 : ℚ) 16).NonNegative .default :=
    TextMetrics.fixed_nonNegative (by decide) (by decide) _
  refine ⟨_, rfl, ?d, ?build, ?blocks, ?frames,
    framesClear_of_build ?build Style.default_nonNegative hm (by decide) (by decide)⟩
  case build => exact rfl
  case blocks => rfl
  case frames => decide +kernel

/-! ## Frames and what is inside -/

/-- Frames go around the events of their blocks, the labels these refer to and the frames
    nested in them. -/
structure Layout.FramesHold (style : Style ℚ) (d : Diagram) (p : Placement ℚ) : Prop where
  frames : p.frames.length = d.blocks.length
  events : p.events.length = d.events.length
  labels : p.labels.length = d.actors.length
  bounds : ∀ b ∈ d.blocks, b.start < b.finish ∧ b.finish < d.events.length
  /-- Every event between the markers but the markers of other blocks. -/
  event : ∀ b f, (b, f) ∈ d.blocks.zip p.frames → ∀ k e, b.start < k → k < b.finish → d.events[k]? = some e →
    e.action.isBlockMarker = false → ((p.eventBox k).grow style.groupPadding).Within f.box
  referenced : ∀ b f, (b, f) ∈ d.blocks.zip p.frames → ∀ k e, b.start < k → k < b.finish → d.events[k]? = some e →
    ∀ a ∈ e.action.referenced, a < d.actors.length ∧ f.box.left ≤ (p.labelBox a).left - style.groupPadding ∧
      (p.labelBox a).right + style.groupPadding ≤ f.box.right
  /-- A block whose events refer to no actor goes around the labels of all. -/
  everyone : ∀ b f, (b, f) ∈ d.blocks.zip p.frames →
    (∀ k e, b.start < k → k < b.finish → d.events[k]? = some e → e.action.referenced = []) →
    ∀ a < d.actors.length, f.box.left ≤ (p.labelBox a).left - style.groupPadding ∧
      (p.labelBox a).right + style.groupPadding ≤ f.box.right
  nested : ∀ b f, (b, f) ∈ d.blocks.zip p.frames → ∀ c g, (c, g) ∈ d.blocks.zip p.frames → Inside c b →
    (g.box.grow style.blockMargin).Within f.box

open Layout in
/-- In every layout of a linked diagram frames hold all that they group. -/
theorem Diagram.framesHold_of_build {ss : List Numbered} {d : Diagram} {style : Style ℚ} {m : TextMetrics ℚ}
    (h : build ss = .ok d) (hs : style.NonNegative) (hm : m.NonNegative style) :
    FramesHold style d (d.place style m) := by
  have hb := bracketed_of_build h
  have hd := resolved_of_build h
  have hstacked := stacked_place hs hm d
  have hholds := fun b f (hf : (b, f) ∈ d.blocks.zip (d.place style m).frames) => holds_place hs hm hd hb hf
  refine ⟨length_frames_place style m d, hstacked.length, (linedUp_place hs hm d).labels,
    fun b hmem => ⟨hb.lt b hmem, hb.finish_lt b hmem⟩, fun b f hf k e hstart hfinish he hmarker => ?_,
    fun b f hf k e hstart hfinish he a ha => ?_, fun b f hf hnone a ha => ?_,
    fun b f hf c g hg hin => within_place hs hm hd hb hf hg hin⟩
  · have hwithin := (hholds b f hf).event _ (mem_held_of_getElem? hstacked hstart.le hfinish he) hmarker
    exact hwithin
  · have hactor := hd e (List.mem_of_getElem? he) a ha
    have hheld := mem_held_of_getElem? hstacked hstart.le hfinish he
    exact ⟨hactor, (hholds b f hf).label a (.inl ⟨_, hheld, ha⟩)⟩
  · exact (hholds b f hf).label a (covered_of_unreferenced hb (List.of_mem_zip hf).1 ha hnone)

open Layout in
/-- A block that refers to no actor, inside one that refers to some. -/
theorem Diagram.framesHold_unreferenced :
    ∃ ss, ss = [⟨1, .message "a" ⟨.solid, none⟩ "b" "first"⟩, ⟨2, .message "c" ⟨.solid, none⟩ "c" "alone"⟩,
      ⟨3, .blockStart .loop "outer"⟩, ⟨4, .note .left ["a"] "far to the left"⟩, ⟨5, .blockStart .alt "nothing"⟩,
      ⟨6, .blockEnd⟩, ⟨7, .message "b" ⟨.dashed, none⟩ "a" "back"⟩, ⟨8, .blockEnd⟩] ∧
    ∃ d, build ss = .ok d ∧ d.blocks = [⟨.alt, "nothing", 4, 5⟩, ⟨.loop, "outer", 2, 7⟩] ∧
      (d.place .default (.fixed (8 : ℚ) 16)).frames.map Frame.box = [⟨151, 285, 367, 341⟩, ⟨10, 173, 372, 447⟩] ∧
      FramesHold .default d (d.place .default (.fixed 8 16)) := by
  have hm : (TextMetrics.fixed (8 : ℚ) 16).NonNegative .default :=
    TextMetrics.fixed_nonNegative (by decide) (by decide) _
  refine ⟨_, rfl, ?d, ?build, ?blocks, ?frames, framesHold_of_build ?build Style.default_nonNegative hm⟩
  case build => exact rfl
  case blocks => rfl
  case frames => decide +kernel

end SequenceDiagram
