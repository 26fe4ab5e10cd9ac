/-
  SequenceDiagram.Proofs.Layout.Placing — the layout of a diagram as a whole.

  Sizing and stacking give rows, placing labels and events columns, and framing the
  blocks all boxes of the layout but the bars. What is left is to move everything to the
  right by one distance, after which nothing is nearer to the left edge than the group
  padding (`place_eq_shiftRight`). Being lined up, stacked and anchored is kept by such a move,
  so the finished layout is all three; its deltas are what the requests of the messages
  make of the least deltas.
-/

import SequenceDiagram.Layout.Phases
import SequenceDiagram.Proofs.Diagram.Names
import SequenceDiagram.Proofs.Layout.Columns

namespace SequenceDiagram

namespace Layout

variable {style : Style ℚ} {m : TextMetrics ℚ} {d : Diagram} {p q : Placement ℚ} {dx : ℚ}

/-! ## The phases -/

/-- Labels sized, deltas widened and events stacked. -/
def rows (style : Style ℚ) (m : TextMetrics ℚ) (d : Diagram) : Placement ℚ :=
  placeEvents style m d (sizeActors style m d (.unplaced d))

/-- Everything placed, but nothing moved to the right yet. -/
def framed (style : Style ℚ) (m : TextMetrics ℚ) (d : Diagram) : Placement ℚ :=
  frameBlocks style m d (placeBars style d (placeActors style d (rows style m d)))

theorem place_eq (style : Style ℚ) (m : TextMetrics ℚ) (d : Diagram) :
    d.place style m = sizeCanvas style (framed style m d) := rfl

/-- The first delta is zero and the others are the least gap. -/
def leastDeltas (style : Style ℚ) (actors : Nat) : List ℚ :=
  (List.range actors).map fun i => if i = 0 then 0 else style.minPaddingX

theorem deltas_sizeActors (style : Style ℚ) (m : TextMetrics ℚ) (d : Diagram) (p : Placement ℚ) :
    (sizeActors style m d p).deltas = leastDeltas style d.actors.length := by
  apply List.ext_getElem
  · simp [sizeActors, leastDeltas]
  · intro i _ _
    simp [sizeActors, leastDeltas]

theorem deltas_rows (style : Style ℚ) (m : TextMetrics ℚ) (d : Diagram) : (rows style m d).deltas =
    widenAll (leastDeltas style d.actors.length) (requests style m d.actors.length d.events) := by
  have hlength : (leastDeltas style d.actors.length).length = d.actors.length := by simp [leastDeltas]
  show d.events.foldl (widenFor style m) (sizeActors style m d _).deltas = _
  rw [deltas_sizeActors, foldl_widenFor, hlength]

theorem length_deltas_rows (style : Style ℚ) (m : TextMetrics ℚ) (d : Diagram) :
    (rows style m d).deltas.length = d.actors.length := by
  rw [deltas_rows, length_widenAll]
  simp [leastDeltas]

/-! ## Moving to the right -/

/-- The same labels and events some way to the right, with whatever bars, frames and canvas. -/
structure Moved (dx : ℚ) (p q : Placement ℚ) : Prop where
  labels : q.labels = p.labels.map (·.shift dx 0)
  deltas : q.deltas = p.deltas
  events : q.events = p.events.map (·.shift dx 0)
  headerHeight : q.headerHeight = p.headerHeight
  terminalY : q.terminalY = p.terminalY

namespace Moved

variable {i : Nat}

theorem of_eq (hlabels : q.labels = p.labels) (hdeltas : q.deltas = p.deltas) (hevents : q.events = p.events)
    (hheader : q.headerHeight = p.headerHeight) (hterminal : q.terminalY = p.terminalY) : Moved 0 p q := by
  have hboxes : ∀ bs : List (Box ℚ), bs.map (·.shift 0 0) = bs := by
    intro bs
    simp only [Box.shift_zero, List.map_id']
  exact ⟨hlabels.trans (hboxes _).symm, hdeltas, hevents.trans (hboxes _).symm, hheader, hterminal⟩

theorem labelBox (h : Moved dx p q) (hi : i < p.labels.length) : q.labelBox i = (p.labelBox i).shift dx 0 := by
  apply Placement.labelBox_eq
  rw [h.labels, List.getElem?_map, Placement.labels_getElem? hi]
  rfl

theorem eventBox (h : Moved dx p q) (hi : i < p.events.length) : q.eventBox i = (p.eventBox i).shift dx 0 := by
  apply Placement.eventBox_eq
  rw [h.events, List.getElem?_map, Placement.events_getElem? hi]
  rfl

theorem linedUp (h : Moved dx p q) (hp : LinedUp style m d p) : LinedUp style m d q := by
  have hbox : ∀ i < d.actors.length, q.labelBox i = (p.labelBox i).shift dx 0 := by
    intro i hi
    exact h.labelBox (hp.labels.symm ▸ hi)
  refine ⟨?_, h.deltas.symm ▸ hp.deltas, fun i hi => ?_, fun i hi => ?_, fun i a ha => ?_, fun i hi => ?_,
    fun i delta hdelta => ?_⟩
  · rw [h.labels, List.length_map, hp.labels]
  · rw [hbox i hi]
    exact (hp.upright i hi).shift _ _
  · rw [hbox i hi, Box.shift_top, hp.top i hi, add_zero]
  · rw [hbox i (List.getElem?_eq_some_iff.mp ha).1, Box.shift_bottom, hp.bottom i a ha, add_zero]
  · rw [hbox i (by omega), hbox (i + 1) hi, Box.shift_left, Box.shift_right]
    linarith [hp.apart i hi]
  · rw [h.deltas] at hdelta
    have hi : i + 1 < d.actors.length := by
      rw [← hp.deltas]
      exact (List.getElem?_eq_some_iff.mp hdelta).1
    rw [hbox i (by omega), hbox (i + 1) hi, Box.shift_midX, Box.shift_midX]
    linarith [hp.spread i delta hdelta]

theorem stacked (h : Moved dx p q) (hp : Stacked style m d p) : Stacked style m d q := by
  have hbox : ∀ i e, d.events[i]? = some e → q.eventBox i = (p.eventBox i).shift dx 0 := by
    intro i e he
    exact h.eventBox (hp.length.symm ▸ (List.getElem?_eq_some_iff.mp he).1)
  refine ⟨?_, fun i e he => ?_, fun i e he => ?_, fun i e he => ?_, ?_⟩
  · rw [h.events, List.length_map, hp.length]
  · rw [hbox i e he, h.headerHeight, Box.shift_top, hp.top i e he, add_zero]
  · rw [hbox i e he, Box.shift_top, Box.shift_bottom, hp.height i e he, add_zero, add_zero]
  · rw [hbox i e he]
    exact (hp.upright i e he).shift _ _
  · rw [h.terminalY, h.headerHeight, hp.terminal]

theorem anchored (h : Moved dx p q) (hd : d.Resolved) (hlabels : p.labels.length = d.actors.length)
    (hevents : p.events.length = d.events.length) (hp : Anchored style m d p) : Anchored style m d q := by
  have hbox : ∀ k e, d.events[k]? = some e → q.eventBox k = (p.eventBox k).shift dx 0 := by
    intro k e he
    exact h.eventBox (hevents.symm ▸ (List.getElem?_eq_some_iff.mp he).1)
  have hlabel : ∀ (k : Nat) (e : Event) a, d.events[k]? = some e → a ∈ e.action.referenced →
      q.labelBox a = (p.labelBox a).shift dx 0 := by
    intro k e a he ha
    exact h.labelBox (hlabels.symm ▸ hd e (List.mem_of_getElem? he) a ha)
  refine ⟨fun k e he hmessage => ?_, fun k line arrow source destination text activation he hne => ?_,
    fun k line arrow actor text activation he => ?_⟩
  · rw [hbox k e he, Box.shift_width, hp.width k e he hmessage]
  · have hsource := hlabel k _ source he (by simp [Action.referenced, Action.source?])
    have hdestination := hlabel k _ destination he (by simp [Action.referenced, Action.destination?])
    rw [hbox k _ he, hsource, hdestination, Box.shift_midX, Box.shift_midX, Box.shift_midX,
      hp.message k line arrow source destination text activation he hne]
    ring
  · have hactor := hlabel k _ actor he (by simp [Action.referenced, Action.source?])
    rw [hbox k _ he, hactor, Box.shift_midX, Box.shift_left, hp.loop k line arrow actor text activation he]

end Moved

/-- The left edges of everything but the bars. -/
def leftEdges (p : Placement ℚ) : List ℚ :=
  p.labels.map Box.left ++ p.events.map Box.left ++ p.frames.map (·.box.left)

theorem shiftRight_zero (p : Placement ℚ) : shiftRight 0 p = p := by
  unfold shiftRight
  simp only [Scalar.ofNat_exact, Nat.cast_zero, Box.shift_zero, List.map_id']

theorem leftEdges_shiftRight (dx : ℚ) (p : Placement ℚ) : leftEdges (shiftRight dx p) = (leftEdges p).map (· + dx) := by
  unfold leftEdges shiftRight
  simp only [List.map_append, List.map_map]
  rfl

theorem moved_shiftRight (dx : ℚ) (p : Placement ℚ) : Moved dx p (shiftRight dx p) := ⟨rfl, rfl, rfl, rfl, rfl⟩

/-- Clearing the left edge moves everything by one distance, and then nothing is nearer to
    the edge than the padding. -/
theorem clearLeft_eq (style : Style ℚ) (p : Placement ℚ) : ∃ dx, 0 ≤ dx ∧ clearLeft style p = shiftRight dx p ∧
    ∀ x ∈ leftEdges p, style.groupPadding ≤ x + dx := by
  have hedge : leftEdge? p = (Scalar.range? (leftEdges p)).map (·.1) := rfl
  unfold clearLeft
  rw [hedge]
  cases h : Scalar.range? (leftEdges p) with
  | none =>
    refine ⟨0, le_rfl, (shiftRight_zero p).symm, fun x hx => ?_⟩
    rw [Scalar.range?_eq_none_iff.mp h] at hx
    cases hx
  | some range =>
    obtain ⟨left, right⟩ := range
    obtain ⟨-, -, hleast⟩ := Scalar.range?_eq_some h
    rw [Option.map_some]
    by_cases hnear : left < style.groupPadding
    · refine ⟨style.groupPadding - left, sub_nonneg.mpr hnear.le, if_pos hnear, fun x hx => ?_⟩
      linarith [(hleast x hx).1]
    · refine ⟨0, le_rfl, (if_neg hnear).trans (shiftRight_zero p).symm, fun x hx => ?_⟩
      linarith [(hleast x hx).1, not_lt.mp hnear]

/-! ## The finished layout -/

theorem moved_framed (style : Style ℚ) (m : TextMetrics ℚ) (d : Diagram) :
    Moved 0 (placeActors style d (rows style m d)) (framed style m d) := .of_eq rfl rfl rfl rfl rfl

theorem linedUp_framed (hs : style.NonNegative) (hm : m.NonNegative style) (d : Diagram) :
    LinedUp style m d (framed style m d) :=
  (moved_framed style m d).linedUp (linedUp_placeActors hs hm rfl (length_deltas_rows style m d))

theorem stacked_rows (hs : style.NonNegative) (hm : m.NonNegative style) (d : Diagram) :
    Stacked style m d (rows style m d) := stacked_placeEvents hs hm d _

theorem stacked_framed (hs : style.NonNegative) (hm : m.NonNegative style) (d : Diagram) :
    Stacked style m d (framed style m d) := (moved_framed style m d).stacked (stacked_rows hs hm d).placeActors

theorem anchored_framed (hs : style.NonNegative) (hm : m.NonNegative style) (hd : d.Resolved) :
    Anchored style m d (framed style m d) := by
  have hrows := stacked_rows hs hm d
  have hcolumns := linedUp_placeActors hs hm rfl (length_deltas_rows style m d)
  refine (moved_framed style m d).anchored hd hcolumns.labels hrows.placeActors.length
    (anchored_placeActors hrows.length fun k e he => ?_)
  have hbox : (rows style m d).events[k]? = _ := stackEvents_getElem? _ d.events k
  rw [he] at hbox
  rw [Placement.eventBox_eq hbox, Box.shift_width, Box.ofSize_eq (eventSize_nonNegative hs hm e.action)]
  exact sub_zero _

/-- The finished layout is the framed one moved clear of the left edge, on its canvas. -/
theorem place_eq_shiftRight (style : Style ℚ) (m : TextMetrics ℚ) (d : Diagram) : ∃ dx, 0 ≤ dx ∧
    d.place style m = { shiftRight dx (framed style m d) with canvas := (d.place style m).canvas } ∧
    ∀ x ∈ leftEdges (framed style m d), style.groupPadding ≤ x + dx := by
  obtain ⟨dx, hdx, heq, hclear⟩ := clearLeft_eq style (framed style m d)
  refine ⟨dx, hdx, ?_, hclear⟩
  rw [place_eq, ← heq]
  rfl

theorem moved_place (style : Style ℚ) (m : TextMetrics ℚ) (d : Diagram) :
    ∃ dx, 0 ≤ dx ∧ Moved dx (framed style m d) (d.place style m) ∧
      (d.place style m).frames = (framed style m d).frames.map (fun f => { f with box := f.box.shift dx 0 }) ∧
      ∀ x ∈ leftEdges (framed style m d), style.groupPadding ≤ x + dx := by
  obtain ⟨dx, hdx, heq, hclear⟩ := place_eq_shiftRight style m d
  have hmoved := moved_shiftRight dx (framed style m d)
  refine ⟨dx, hdx, ?_, ?_, hclear⟩
  · rw [heq]
    exact ⟨hmoved.labels, hmoved.deltas, hmoved.events, hmoved.headerHeight, hmoved.terminalY⟩
  · rw [heq]
    rfl

theorem linedUp_place (hs : style.NonNegative) (hm : m.NonNegative style) (d : Diagram) :
    LinedUp style m d (d.place style m) := by
  obtain ⟨dx, -, hmoved, -⟩ := moved_place style m d
  exact hmoved.linedUp (linedUp_framed hs hm d)

/-- Labels keep the width they were measured with. -/
theorem width_label_place (hs : style.NonNegative) (hm : m.NonNegative style) {i : Nat} {a : Actor}
    (ha : d.actors[i]? = some a) :
    ((d.place style m).labelBox i).width = (labelSize style m a.name).width := by
  obtain ⟨dx, -, hmoved, -⟩ := moved_place style m d
  obtain ⟨x, hx⟩ := labelBox_placeActors (p := rows style m d) rfl (length_deltas_rows style m d) ha
  have hi : i < (framed style m d).labels.length := by
    rw [(linedUp_framed hs hm d).labels]
    exact (List.getElem?_eq_some_iff.mp ha).1
  have hframed : (framed style m d).labelBox i = (Box.ofSize (labelSize style m a.name)).moveTo x := hx
  rw [hmoved.labelBox hi, hframed, Box.shift_width, Box.moveTo_width, Box.ofSize_eq (labelSize_nonNegative hs hm _)]
  exact sub_zero _

theorem stacked_place (hs : style.NonNegative) (hm : m.NonNegative style) (d : Diagram) :
    Stacked style m d (d.place style m) := by
  obtain ⟨dx, -, hmoved, -⟩ := moved_place style m d
  exact hmoved.stacked (stacked_framed hs hm d)

theorem anchored_place (hs : style.NonNegative) (hm : m.NonNegative style) (hd : d.Resolved) :
    Anchored style m d (d.place style m) := by
  obtain ⟨dx, -, hmoved, -⟩ := moved_place style m d
  exact hmoved.anchored hd (linedUp_framed hs hm d).labels (stacked_framed hs hm d).length (anchored_framed hs hm hd)

theorem deltas_place (style : Style ℚ) (m : TextMetrics ℚ) (d : Diagram) : (d.place style m).deltas =
    widenAll (leastDeltas style d.actors.length) (requests style m d.actors.length d.events) := by
  obtain ⟨dx, -, hmoved, -⟩ := moved_place style m d
  exact hmoved.deltas.trans (deltas_rows style m d)

end Layout

end SequenceDiagram
