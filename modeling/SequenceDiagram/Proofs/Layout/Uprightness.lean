/-
  SequenceDiagram.Proofs.Layout.Uprightness — every box stands upright after every phase.

  Lengths may be negative here, those of the style and those that texts are measured to
  have. A size may then be one no box has, and gaps may put what is right of a box to its
  left. Still the left edge of a box is never right of its right edge and its top never
  below its bottom, since each box that is written is one of three:

  - drawn between two corners, whose coordinates are put in order: a size, a bar, a note
    over several actors, a frame around what it holds or joined with another;
  - an upright box moved: a label or an event put into its column, everything shifted
    clear of the left edge;
  - a frame grown down and to the right, which happens only where it is too small, so that
    an edge that is set goes outward (`upright_frame`).

  So one write leaves all boxes upright (`Upright.sizeActor` to `Upright.frameBlock`), on
  any placement and whatever else stands there, a phase is a loop of writes
  (`Upright.run`), and a run of phases begins with boxes of no size (`Upright.runs`). Of a
  linked diagram the boxes that are written are those of its parts (`upright_of_build`).
-/

import SequenceDiagram.Proofs.Layout.Frames
import SequenceDiagram.Proofs.Layout.Settling

namespace SequenceDiagram

namespace Box

theorem upright_ofCorners (x0 y0 x1 y1 : ℚ) : (ofCorners x0 y0 x1 y1).Upright := by
  rw [ofCorners_exact]
  exact ⟨min_le_max, min_le_max⟩

theorem upright_zero : (zero : Box ℚ).Upright := ⟨le_rfl, le_rfl⟩

end Box

namespace Layout

variable {style : Style ℚ} {m : TextMetrics ℚ} {d : Diagram} {p : Placement ℚ}

theorem upright_bar (style : Style ℚ) (p : Placement ℚ) (placed : List (Box ℚ)) (a : Activation) :
    (bar style p placed a).Upright := Box.upright_ofCorners ..

/-- Whatever the frames before it are, a frame is upright. -/
theorem upright_frame (style : Style ℚ) (m : TextMetrics ℚ) (d : Diagram) (p : Placement ℚ)
    (before : List (Block × Frame ℚ)) (b : Block) : (frame style m d p before b).box.Upright := by
  have hcontent : (contentBox style d p b).Upright := Box.upright_ofCorners ..
  have hjoined : (before.foldl (takeIn style b) (contentBox style d p b)).Upright :=
    hcontent.of_within (within_foldl_takeIn hcontent b before)
  exact hjoined.of_within (within_fitHeader style _ _)

end Layout

/-- Every box of a placement has its edges in order. -/
structure Placement.Upright (p : Placement ℚ) : Prop where
  labels : ∀ b ∈ p.labels, b.Upright
  events : ∀ b ∈ p.events, b.Upright
  bars : ∀ b ∈ p.bars, b.Upright
  frames : ∀ f ∈ p.frames, f.box.Upright

namespace Placement.Upright

open InPlace (runs)

variable {style : Style ℚ} {m : TextMetrics ℚ} {d : Diagram} {p : Placement ℚ}

theorem unplaced (d : Diagram) : (Placement.unplaced d : Placement ℚ).Upright where
  labels := List.forall_mem_map.mpr fun _ _ => Box.upright_zero
  events := List.forall_mem_map.mpr fun _ _ => Box.upright_zero
  bars := List.forall_mem_map.mpr fun _ _ => Box.upright_zero
  frames := List.forall_mem_map.mpr fun _ _ => Box.upright_zero

/-! ## One write -/

/-- What all entries of a list have and the one that is written has too. -/
theorem forall_mem_set {β : Type} {P : β → Prop} {bs : List β} {b : β} (hbs : ∀ c ∈ bs, P c) (hb : P b) (i : Nat) :
    ∀ c ∈ bs.set i b, P c := by
  intro c hc
  rcases List.mem_or_eq_of_mem_set hc with hold | rfl
  · exact hbs c hold
  · exact hb

/-- What is read where nothing was written has no size. -/
theorem upright_getD {bs : List (Box ℚ)} (h : ∀ b ∈ bs, b.Upright) (i : Nat) : (bs.getD i .zero).Upright := by
  rw [List.getD_eq_getElem?_getD]
  cases hi : bs[i]? with
  | none => exact Box.upright_zero
  | some b => exact h b (List.mem_of_getElem? hi)

theorem sizeActor (h : p.Upright) (header : ℚ) (item : Actor × Nat) :
    (InPlace.sizeActor style m (p, header) item).1.Upright :=
  ⟨forall_mem_set h.labels (Box.upright_ofCorners ..) _, h.events, h.bars, h.frames⟩

theorem placeEvent (h : p.Upright) (y : ℚ) (item : Event × Nat) :
    (InPlace.placeEvent style m (p, y) item).1.Upright :=
  have hsize : (Box.ofSize (Layout.eventSize style m item.1.action)).Upright := Box.upright_ofCorners ..
  ⟨h.labels, forall_mem_set h.events (hsize.shift _ _) _, h.bars, h.frames⟩

theorem placeActor (h : p.Upright) (before : Option (Box ℚ)) (i : Nat) :
    (InPlace.placeActor style (p, before) i).1.Upright :=
  ⟨forall_mem_set h.labels ((upright_getD h.labels i).moveTo _) _, h.events, h.bars, h.frames⟩

theorem anchorEvent (h : p.Upright) (lifelines : List ℚ) (item : Event × Nat) :
    (InPlace.anchorEvent style lifelines p item).Upright :=
  ⟨h.labels, forall_mem_set h.events (Layout.upright_anchor (upright_getD h.events item.2)) _, h.bars, h.frames⟩

theorem placeBar (h : p.Upright) (item : Activation × Nat) : (InPlace.placeBar style p item).Upright :=
  ⟨h.labels, h.events, forall_mem_set h.bars (Layout.upright_bar ..) _, h.frames⟩

theorem frameBlock (h : p.Upright) (item : Block × Nat) : (InPlace.frameBlock style m d p item).Upright :=
  ⟨h.labels, h.events, h.bars, forall_mem_set h.frames (Layout.upright_frame ..) _⟩

theorem shiftRight (h : p.Upright) (dx : ℚ) : (Layout.shiftRight dx p).Upright where
  labels := List.forall_mem_map.mpr fun b hb => (h.labels b hb).shift _ _
  events := List.forall_mem_map.mpr fun b hb => (h.events b hb).shift _ _
  bars := List.forall_mem_map.mpr fun b hb => (h.bars b hb).shift _ _
  frames := List.forall_mem_map.mpr fun f hf => (h.frames f hf).shift _ _

/-! ## Phases and runs of them -/

theorem sizeActors (h : p.Upright) (d : Diagram) : (InPlace.sizeActors style m d p).Upright := by
  have hloop : (d.actors.zipIdx.foldl (InPlace.sizeActor style m) (p, Scalar.ofNat 0)).1.Upright :=
    List.foldlRecOn (motive := fun state : Placement ℚ × ℚ => state.1.Upright) _ _ h
      fun _ hp item _ => hp.sizeActor _ item
  exact ⟨hloop.labels, hloop.events, hloop.bars, hloop.frames⟩

theorem placeEvents (h : p.Upright) (d : Diagram) : (InPlace.placeEvents style m d p).Upright := by
  have hloop : (d.events.zipIdx.foldl (InPlace.placeEvent style m) (p, p.headerHeight + style.minPaddingY)).1.Upright :=
    List.foldlRecOn (motive := fun state : Placement ℚ × ℚ => state.1.Upright) _ _ h
      fun _ hp item _ => hp.placeEvent _ item
  exact ⟨hloop.labels, hloop.events, hloop.bars, hloop.frames⟩

theorem placeActors (h : p.Upright) (d : Diagram) : (InPlace.placeActors style d p).Upright := by
  have hlabels : ((List.range d.actors.length).foldl (InPlace.placeActor style) (p, none)).1.Upright :=
    List.foldlRecOn (motive := fun state : Placement ℚ × Option (Box ℚ) => state.1.Upright) _ _ h
      fun _ hp i _ => hp.placeActor _ i
  exact List.foldlRecOn (motive := Placement.Upright) _ _ hlabels fun _ hp item _ => hp.anchorEvent _ item

theorem placeBars (h : p.Upright) (d : Diagram) : (InPlace.placeBars style d p).Upright :=
  List.foldlRecOn (motive := Placement.Upright) _ _ h fun _ hp item _ => hp.placeBar item

theorem frameBlocks (h : p.Upright) (d : Diagram) : (InPlace.frameBlocks style m d p).Upright :=
  List.foldlRecOn (motive := Placement.Upright) _ _ h fun _ hp item _ => hp.frameBlock item

theorem sizeCanvas (h : p.Upright) (style : Style ℚ) : (Layout.sizeCanvas style p).Upright := by
  obtain ⟨dx, -, heq, -⟩ := Layout.clearLeft_eq style p
  have hclear : (Layout.clearLeft style p).Upright := by
    rw [heq]
    exact h.shiftRight dx
  exact ⟨hclear.labels, hclear.events, hclear.bars, hclear.frames⟩

theorem run (h : p.Upright) (style : Style ℚ) (m : TextMetrics ℚ) (d : Diagram) (phase : Phase) :
    (InPlace.run style m d p phase).Upright := by
  cases phase with
  | sizeActors => exact h.sizeActors d
  | placeEvents => exact h.placeEvents d
  | placeActors => exact h.placeActors d
  | placeBars => exact h.placeBars d
  | frameBlocks => exact h.frameBlocks d
  | sizeCanvas => exact h.sizeCanvas style

theorem runs (h : p.Upright) (d : Diagram) (steps : List (Style ℚ × TextMetrics ℚ × Phase)) :
    (InPlace.runs d p steps).Upright :=
  List.foldlRecOn (motive := Placement.Upright) _ _ h fun _ hp _ _ => hp.run ..

end Placement.Upright

namespace InPlace

/-- After every run of phases, in any order and each with lengths of its own, the parts of a linked diagram
    have their boxes and all of these are upright. The phases of a run up to any of them are a run too. -/
theorem upright_of_build {ss : List Numbered} {d : Diagram} (h : Diagram.build ss = .ok d)
    (steps : List (Style ℚ × TextMetrics ℚ × Phase)) :
    (runs d (.unplaced d) steps).Fits d ∧ (runs d (.unplaced d) steps).Upright :=
  ⟨fits_runs (Diagram.indexed_of_build h) (.unplaced d) steps, (Placement.Upright.unplaced d).runs d steps⟩

/-- Events are stacked, and bars and frames drawn before labels have a size; then lengths and texts are
    negative, events stand above the labels, frames are bounded by gaps, and the canvas has less than no size. -/
theorem upright_over_negative :
    ∃ ss, ss = [⟨1, .message "a" ⟨.solid, some .start⟩ "b" "out"⟩, ⟨2, .blockStart .loop "outer"⟩,
      ⟨3, .message "b" ⟨.solid, some .start⟩ "b" "again"⟩, ⟨4, .note .over ["b", "a"] "x"⟩,
      ⟨5, .blockStart .alt "inner"⟩, ⟨6, .blockEnd⟩, ⟨7, .blockEnd⟩] ∧
    ∃ d, Diagram.build ss = .ok d ∧
    ∃ style : Style ℚ, style = { Style.default with
      minPaddingX := -30, minPaddingY := -25, selfDiameter := -30, activationWidth := -10, groupBaseHeight := -30,
      groupPadding := -40, groupTabHeight := -20, blockMargin := -5 } ∧
    ∃ m : TextMetrics ℚ, m = .fixed (-8) (-16) ∧
    ∃ steps, steps = [(Style.default, TextMetrics.fixed 8 16, Phase.placeEvents), (style, m, .placeBars),
      (style, m, .frameBlocks), (style, m, .sizeActors), (style, m, .placeEvents), (style, m, .placeActors),
      (style, m, .frameBlocks), (style, m, .placeBars), (style, m, .sizeCanvas)] ∧
      (runs d (.unplaced d) steps).bars = [⟨2, -362, 12, -22⟩, ⟨-13, -362, -3, -123⟩] ∧
      (runs d (.unplaced d) steps).frames.map Frame.box = [⟨-22, -237, 10, -187⟩, ⟨-22, -242, 10, -90⟩] ∧
      (runs d (.unplaced d) steps).canvas = ⟨-12, -59⟩ ∧
      (runs d (.unplaced d) steps).Fits d ∧ (runs d (.unplaced d) steps).Upright := by
  refine ⟨_, rfl, ?d, ?build, _, rfl, _, rfl, _, rfl, ?bars, ?frames, ?canvas, upright_of_build ?build _⟩
  case build => exact rfl
  case bars => decide +kernel
  case frames => decide +kernel
  case canvas => decide +kernel

end InPlace

end SequenceDiagram
