/-
  SequenceDiagram.Proofs.Layout.Rows — events from top to bottom.

  The row of an event begins below the rows before it: their heights, and the padding
  after each (`rowTop`). In a placement that is stacked every event stands in its row, so
  an earlier event ends at least the padding above a later one, and lifelines end below
  the last row. Stacking events makes such a placement, and moving boxes sideways keeps it.
-/

import SequenceDiagram.Proofs.Layout.Fitting
import SequenceDiagram.Proofs.Layout.Sizes

namespace SequenceDiagram

theorem Placement.eventBox_eq {p : Placement ℚ} {i : Nat} {b : Box ℚ} (h : p.events[i]? = some b) :
    p.eventBox i = b := by
  unfold eventBox
  rw [List.getD_eq_getElem?_getD, h]
  rfl

theorem Placement.labelBox_eq {p : Placement ℚ} {i : Nat} {b : Box ℚ} (h : p.labels[i]? = some b) :
    p.labelBox i = b := by
  unfold labelBox
  rw [List.getD_eq_getElem?_getD, h]
  rfl

theorem Placement.events_getElem? {p : Placement ℚ} {i : Nat} (h : i < p.events.length) :
    p.events[i]? = some (p.eventBox i) := by
  have hbox := List.getElem?_eq_getElem h
  rwa [eventBox_eq hbox]

theorem Placement.labels_getElem? {p : Placement ℚ} {i : Nat} (h : i < p.labels.length) :
    p.labels[i]? = some (p.labelBox i) := by
  have hbox := List.getElem?_eq_getElem h
  rwa [labelBox_eq hbox]

namespace Layout

variable {style : Style ℚ} {m : TextMetrics ℚ} {d : Diagram} {p : Placement ℚ} {y : ℚ} {es : List Event} {e : Event}
  {i j : Nat}

/-! ## Rows -/

/-- Where the row of event `i` begins when the first row begins at `y`. -/
def rowTop (style : Style ℚ) (m : TextMetrics ℚ) (y : ℚ) (es : List Event) (i : Nat) : ℚ :=
  y + ((es.take i).map fun e => (eventSize style m e.action).height + style.minPaddingY).sum

theorem rowTop_zero (y : ℚ) (es : List Event) : rowTop style m y es 0 = y := add_zero y

theorem rowTop_cons (y : ℚ) (e : Event) (es : List Event) (i : Nat) :
    rowTop style m y (e :: es) (i + 1) =
      rowTop style m (y + ((eventSize style m e.action).height + style.minPaddingY)) es i := by
  unfold rowTop
  rw [List.take_succ_cons, List.map_cons, List.sum_cons]
  ring

theorem rowTop_succ (h : es[i]? = some e) :
    rowTop style m y es (i + 1) = rowTop style m y es i + ((eventSize style m e.action).height + style.minPaddingY) := by
  unfold rowTop
  rw [List.take_add_one, h, List.map_append, List.sum_append]
  simp only [Option.toList_some, List.map_cons, List.map_nil, List.sum_singleton]
  ring

theorem rowTop_le_succ (hs : style.NonNegative) (hm : m.NonNegative style) (y : ℚ) (es : List Event) (i : Nat) :
    rowTop style m y es i ≤ rowTop style m y es (i + 1) := by
  cases h : es[i]? with
  | none =>
    have hlength := List.getElem?_eq_none_iff.mp h
    unfold rowTop
    rw [List.take_of_length_le hlength, List.take_of_length_le (by omega)]
  | some e =>
    have hheight := (eventSize_nonNegative hs hm e.action).height
    have hpadding := hs.minPaddingY
    rw [rowTop_succ h]
    linarith

theorem rowTop_le (hs : style.NonNegative) (hm : m.NonNegative style) (y : ℚ) (es : List Event) (h : i ≤ j) :
    rowTop style m y es i ≤ rowTop style m y es j :=
  monotone_nat_of_le_succ (rowTop_le_succ hs hm y es) h

theorem stackEvents_getElem? (y : ℚ) (es : List Event) (i : Nat) : (stackEvents style m y es).1[i]? =
    es[i]?.map fun e => (Box.ofSize (eventSize style m e.action)).shift 0 (rowTop style m y es i) := by
  induction es generalizing y i with
  | nil => rfl
  | cons e es ih =>
    cases i with
    | zero =>
      simp only [List.getElem?_cons_zero, Option.map_some, rowTop_zero]
      rfl
    | succ i =>
      simp only [List.getElem?_cons_succ, rowTop_cons]
      exact ih _ _

theorem stackEvents_bottom (y : ℚ) (es : List Event) :
    (stackEvents style m y es).2 = rowTop style m y es es.length := by
  induction es generalizing y with
  | nil => exact (rowTop_zero y []).symm
  | cons e es ih =>
    rw [List.length_cons, rowTop_cons]
    exact ih _

/-! ## Placements in rows -/

/-- Every event stands in its row, and lifelines end after the last. -/
structure Stacked (style : Style ℚ) (m : TextMetrics ℚ) (d : Diagram) (p : Placement ℚ) : Prop where
  length : p.events.length = d.events.length
  top : ∀ i e, d.events[i]? = some e →
    (p.eventBox i).top = rowTop style m (p.headerHeight + style.minPaddingY) d.events i
  height : ∀ i e, d.events[i]? = some e →
    (p.eventBox i).bottom = (p.eventBox i).top + (eventSize style m e.action).height
  upright : ∀ i e, d.events[i]? = some e → (p.eventBox i).Upright
  terminal : p.terminalY = rowTop style m (p.headerHeight + style.minPaddingY) d.events d.events.length

namespace Stacked

theorem events_getElem? (h : Stacked style m d p) (he : d.events[i]? = some e) : p.events[i]? = some (p.eventBox i) :=
  Placement.events_getElem? (h.length.symm ▸ (List.getElem?_eq_some_iff.mp he).1)

theorem bottom_eq (h : Stacked style m d p) (he : d.events[i]? = some e) : (p.eventBox i).bottom + style.minPaddingY =
    rowTop style m (p.headerHeight + style.minPaddingY) d.events (i + 1) := by
  rw [h.height i e he, h.top i e he, rowTop_succ he]
  ring

/-- An earlier event ends at least the padding above a later one. -/
theorem apart (h : Stacked style m d p) (hs : style.NonNegative) (hm : m.NonNegative style) (hij : i < j)
    (hj : j < d.events.length) : (p.eventBox i).bottom + style.minPaddingY ≤ (p.eventBox j).top := by
  have hi : i < d.events.length := by omega
  rw [h.bottom_eq (List.getElem?_eq_getElem hi), h.top j _ (List.getElem?_eq_getElem hj)]
  exact rowTop_le hs hm _ _ hij

theorem top_le (h : Stacked style m d p) (hs : style.NonNegative) (hm : m.NonNegative style) (hij : i ≤ j)
    (hj : j < d.events.length) : (p.eventBox i).top ≤ (p.eventBox j).top := by
  have hi : i < d.events.length := by omega
  rw [h.top i _ (List.getElem?_eq_getElem hi), h.top j _ (List.getElem?_eq_getElem hj)]
  exact rowTop_le hs hm _ _ hij

theorem bottom_le (h : Stacked style m d p) (hs : style.NonNegative) (hm : m.NonNegative style) (hij : i ≤ j)
    (hj : j < d.events.length) : (p.eventBox i).bottom ≤ (p.eventBox j).bottom := by
  have hi : i < d.events.length := by omega
  have hrow : rowTop style m (p.headerHeight + style.minPaddingY) d.events (i + 1) ≤
      rowTop style m (p.headerHeight + style.minPaddingY) d.events (j + 1) := rowTop_le hs hm _ _ (by omega)
  rw [← h.bottom_eq (List.getElem?_eq_getElem hi), ← h.bottom_eq (List.getElem?_eq_getElem hj)] at hrow
  linarith

/-- Lifelines end at least the padding below every event. -/
theorem bottom_le_terminalY (h : Stacked style m d p) (hs : style.NonNegative) (hm : m.NonNegative style)
    (hi : i < d.events.length) : (p.eventBox i).bottom + style.minPaddingY ≤ p.terminalY := by
  rw [h.bottom_eq (List.getElem?_eq_getElem hi), h.terminal]
  exact rowTop_le hs hm _ _ hi

end Stacked

/-! ## Placing labels and events -/

theorem headerHeight_nonneg (style : Style ℚ) (m : TextMetrics ℚ) (d : Diagram) (p : Placement ℚ) :
    0 ≤ (sizeActors style m d p).headerHeight := Scalar.le_foldl_larger id _ 0

theorem stacked_placeEvents (hs : style.NonNegative) (hm : m.NonNegative style) (d : Diagram) (p : Placement ℚ) :
    Stacked style m d (placeEvents style m d p) := by
  have hbox : ∀ i e, d.events[i]? = some e → (placeEvents style m d p).eventBox i =
      (Box.ofSize (eventSize style m e.action)).shift 0
        (rowTop style m (p.headerHeight + style.minPaddingY) d.events i) := by
    intro i e he
    apply Placement.eventBox_eq
    show (stackEvents style m _ d.events).1[i]? = _
    rw [stackEvents_getElem?, he]
    rfl
  refine ⟨length_stackEvents _ _, fun i e he => ?_, fun i e he => ?_, fun i e he => ?_, stackEvents_bottom _ _⟩
  · rw [hbox i e he, Box.ofSize_eq (eventSize_nonNegative hs hm e.action), Box.shift_top, zero_add]
    rfl
  · rw [hbox i e he, Box.ofSize_eq (eventSize_nonNegative hs hm e.action), Box.shift_top, Box.shift_bottom]
    ring
  · rw [hbox i e he]
    exact (Box.upright_ofSize (eventSize_nonNegative hs hm e.action)).shift _ _

end Layout

end SequenceDiagram
