/-
  SequenceDiagram.Proofs.Layout.Tiling — events tile the picture from top to bottom.

  The events are stacked in the order of the document below the tallest label, and no
  later phase moves one up or down or gives it another height, the box of a note over
  actors that is made anew among them. So in the finished layout each event begins the
  padding below the one before it (`Stacked.next`), the first below the labels, and the
  lifelines end the padding below the last (`Stacked.last`).

  The height of the labels is that of the tallest (`headerHeight_tallest`). Where rows are
  apart at all, events therefore overlap neither each other nor one of the two rows of labels.
-/

import SequenceDiagram.Proofs.Layout.Canvas

namespace SequenceDiagram

namespace Layout

variable {style : Style ℚ} {m : TextMetrics ℚ} {d : Diagram} {p : Placement ℚ} {i j : Nat}

/-! ## One event after the other -/

namespace Stacked

variable (h : Stacked style m d p)

include h

theorem first (hi : 0 < d.events.length) : (p.eventBox 0).top = p.headerHeight + style.minPaddingY := by
  rw [h.top 0 _ (List.getElem?_eq_getElem hi), rowTop_zero]

theorem next (hi : i + 1 < d.events.length) :
    (p.eventBox (i + 1)).top = (p.eventBox i).bottom + style.minPaddingY := by
  have hbefore : i < d.events.length := by omega
  rw [h.top (i + 1) _ (List.getElem?_eq_getElem hi), h.bottom_eq (List.getElem?_eq_getElem hbefore)]

theorem last (hi : i + 1 = d.events.length) : p.terminalY = (p.eventBox i).bottom + style.minPaddingY := by
  have hlast : i < d.events.length := by omega
  rw [h.terminal, h.bottom_eq (List.getElem?_eq_getElem hlast), hi]

theorem terminalY_of_nil (hnil : d.events = []) : p.terminalY = p.headerHeight + style.minPaddingY := by
  rw [h.terminal, hnil]
  exact rowTop_zero _ _

end Stacked

/-! ## The tallest label -/

section

variable (hs : style.NonNegative) (hm : m.NonNegative style)

include hs hm

theorem height_label_place {a : Actor} (ha : d.actors[i]? = some a) :
    ((d.place style m).labelBox i).height = (labelSize style m a.name).height := by
  have hlined := linedUp_place hs hm d
  have hi := (List.getElem?_eq_some_iff.mp ha).1
  rw [Box.height_eq, hlined.bottom i a ha, hlined.top i hi, sub_zero]

theorem headerHeight_place_eq (d : Diagram) : (d.place style m).headerHeight =
    d.actors.foldl (fun w a => Scalar.larger w (labelSize style m a.name).height) 0 := by
  obtain ⟨dx, -, hmoved, -⟩ := moved_place style m d
  have hheight : ∀ a : Actor, (Box.ofSize (labelSize style m a.name)).height = (labelSize style m a.name).height := by
    intro a
    rw [Box.ofSize_eq (labelSize_nonNegative hs hm a.name)]
    exact sub_zero _
  have hfold : (framed style m d).headerHeight =
      ((d.actors.map fun a => Box.ofSize (labelSize style m a.name)).map Box.height).foldl Scalar.larger 0 := rfl
  rw [hmoved.headerHeight, hfold, List.map_map, List.foldl_map]
  simp only [Function.comp_apply, hheight]

/-- No label is higher than the height of the labels, and one is as high. -/
theorem headerHeight_tallest (d : Diagram) :
    (∀ i < d.actors.length, ((d.place style m).labelBox i).height ≤ (d.place style m).headerHeight) ∧
      (0 < d.actors.length → ∃ i < d.actors.length,
        ((d.place style m).labelBox i).height = (d.place style m).headerHeight) := by
  have hle : ∀ i < d.actors.length, ((d.place style m).labelBox i).height ≤ (d.place style m).headerHeight := by
    intro i hi
    rw [height_label_place hs hm (List.getElem?_eq_getElem hi), headerHeight_place_eq hs hm]
    exact Scalar.le_foldl_larger_of_mem (fun a : Actor => (labelSize style m a.name).height) (List.getElem_mem hi) 0
  refine ⟨hle, fun hpos => ?_⟩
  rcases Scalar.foldl_larger_attained (fun a : Actor => (labelSize style m a.name).height) d.actors 0 with
    hzero | ⟨a, ha, hheight⟩
  · -- no label has a height, and the first has the greatest
    have hfirst := hle 0 hpos
    have hnonneg : 0 ≤ ((d.place style m).labelBox 0).height :=
      sub_nonneg.mpr ((linedUp_place hs hm d).upright 0 hpos).vertical
    rw [headerHeight_place_eq hs hm, hzero] at hfirst ⊢
    exact ⟨0, hpos, le_antisymm hfirst hnonneg⟩
  · obtain ⟨i, hi⟩ := List.mem_iff_getElem?.mp ha
    refine ⟨i, (List.getElem?_eq_some_iff.mp hi).1, ?_⟩
    rw [height_label_place hs hm hi, headerHeight_place_eq hs hm, hheight]

end

/-- The events of a finished layout from top to bottom, and the two rows of labels. -/
structure Tiled (ss : List Numbered) (style : Style ℚ) (m : TextMetrics ℚ) (d : Diagram) (p : Placement ℚ) : Prop where
  /-- The events are what the statements say, in their order. -/
  order : List.Forall₂ (Tells d.names) (ss.filter (!·.statement.isOtherwise)) d.events
  labels : p.labels.length = d.actors.length
  events : p.events.length = d.events.length
  tallest : ∀ i < d.actors.length, (p.labelBox i).height ≤ p.headerHeight
  attained : 0 < d.actors.length → ∃ i < d.actors.length, (p.labelBox i).height = p.headerHeight
  unlabelled : d.actors = [] → p.headerHeight = 0
  first : 0 < d.events.length → (p.eventBox 0).top = p.headerHeight + style.minPaddingY
  next : ∀ i, i + 1 < d.events.length → (p.eventBox (i + 1)).top = (p.eventBox i).bottom + style.minPaddingY
  last : ∀ i, i + 1 = d.events.length → p.terminalY = (p.eventBox i).bottom + style.minPaddingY
  empty : d.events = [] → p.terminalY = p.headerHeight + style.minPaddingY
  /-- An event is as high as it was measured. -/
  height : ∀ i e, d.events[i]? = some e →
    (p.eventBox i).height = (eventSize style m e.action).height ∧ (p.eventBox i).top ≤ (p.eventBox i).bottom
  apart : 0 < style.minPaddingY → ∀ i j, i < j → j < d.events.length → (p.eventBox i).bottom < (p.eventBox j).top
  belowLabels : 0 < style.minPaddingY → ∀ i < d.actors.length, ∀ j < d.events.length,
    (p.labelBox i).bottom < (p.eventBox j).top
  /-- The same labels below the lifelines begin lower than every event ends. -/
  aboveRepeated : 0 < style.minPaddingY → ∀ i < d.actors.length, ∀ j < d.events.length,
    (p.eventBox j).bottom < ((p.labelBox i).shift 0 p.terminalY).top

end Layout

open Layout in
/-- In every layout of a linked diagram the events tile the picture from top to bottom. -/
theorem Diagram.tiled_of_build {ss : List Numbered} {d : Diagram} {style : Style ℚ} {m : TextMetrics ℚ}
    (h : build ss = .ok d) (hs : style.NonNegative) (hm : m.NonNegative style) :
    Tiled ss style m d (d.place style m) := by
  have hstacked := stacked_place hs hm d
  have hlined := linedUp_place hs hm d
  obtain ⟨htallest, hattained⟩ := headerHeight_tallest hs hm d
  constructor
  case order => exact (resolves_of_build h).events
  case labels => exact hlined.labels
  case events => exact hstacked.length
  case tallest => exact htallest
  case attained => exact hattained
  case unlabelled =>
    intro hnil
    rw [headerHeight_place_eq hs hm, hnil]
    rfl
  case first => exact hstacked.first
  case next => exact fun i hi => hstacked.next hi
  case last => exact fun i hi => hstacked.last hi
  case empty => exact hstacked.terminalY_of_nil
  case height =>
    intro i e he
    refine ⟨?_, (hstacked.upright i e he).vertical⟩
    rw [Box.height_eq, hstacked.height i e he, add_sub_cancel_left]
  case apart =>
    intro hrows i j hij hj
    have happart := hstacked.apart hs hm hij hj
    linarith
  case belowLabels =>
    intro hrows i hi j hj
    have hlabel := htallest i hi
    have htop := headerHeight_add_le_top hs hm hj
    rw [Box.height_eq, hlined.top i hi] at hlabel
    linarith
  case aboveRepeated =>
    intro hrows i hi j hj
    have hterminal := hstacked.bottom_le_terminalY hs hm hj
    rw [Box.shift_top, hlined.top i hi]
    linarith

open Layout in
/-- Every kind of event, notes over one and over two actors among them. -/
theorem Diagram.tiled_mixed :
    ∃ ss, ss = [⟨1, .message "a" ⟨.solid, none⟩ "b" "first"⟩, ⟨2, .note .over ["a"] "over one"⟩,
      ⟨3, .blockStart .alt "either"⟩, ⟨4, .message "b" ⟨.solid, none⟩ "b" "to itself"⟩, ⟨5, .otherwise "or"⟩,
      ⟨6, .note .over ["b", "a"] "over both"⟩, ⟨7, .note .left ["a"] "far to the left"⟩, ⟨8, .blockEnd⟩] ∧
    ∃ d, build ss = .ok d ∧ (d.place .default (.fixed (8 : ℚ) 16)).headerHeight = 26 ∧
      (d.place .default (.fixed (8 : ℚ) 16)).events.map (fun b : Box ℚ => (b.top, b.bottom)) =
        [(51, 77), (102, 128), (153, 189), (214, 270), (295, 321), (346, 372), (397, 427)] ∧
      (d.place .default (.fixed (8 : ℚ) 16)).terminalY = 452 ∧
      0 < (Style.default : Style ℚ).minPaddingY ∧
      Tiled ss .default (.fixed 8 16) d (d.place .default (.fixed 8 16)) := by
  have hm : (TextMetrics.fixed (8 : ℚ) 16).NonNegative .default :=
    TextMetrics.fixed_nonNegative (by decide) (by decide) _
  refine ⟨_, rfl, ?d, ?build, ?header, ?rows, ?terminal, by decide,
    tiled_of_build ?build Style.default_nonNegative hm⟩
  case build => exact rfl
  case header => decide +kernel
  case rows => decide +kernel
  case terminal => decide +kernel

end SequenceDiagram
