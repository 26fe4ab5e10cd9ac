/-
  SequenceDiagram.Proofs.Layout.Columns — labels and events from left to right.

  In a placement that is lined up the labels stand in the order of the actors, each the
  padding after the one before, with lifelines at least their delta apart. Then the
  deltas between two lifelines add up to no more than their distance, and of two labels
  the earlier begins and ends farther left. In a placement that is anchored a message
  stands in the middle between its lifelines, and one to its own sender begins at its
  lifeline. Placing the labels and events makes such a placement, and moves no event up
  or down.
-/

import SequenceDiagram.Layout.Columns
import SequenceDiagram.Proofs.Layout.Gaps
import SequenceDiagram.Proofs.Layout.Rows

namespace SequenceDiagram.Layout

open Scalar (range?)

variable {style : Style ℚ} {m : TextMetrics ℚ} {d : Diagram} {p : Placement ℚ}

/-! ## Labels one after the other -/

section

variable {before : Option (Box ℚ)} {bs : List (Box ℚ)} {deltas : List ℚ} {i : Nat} {c c' : Box ℚ}

theorem lineUp_cons (before : Option (Box ℚ)) (b : Box ℚ) (bs : List (Box ℚ)) (delta : ℚ) (deltas : List ℚ) :
    lineUp style before (b :: bs) (delta :: deltas) =
      b.moveTo (labelLeft style before b.width delta) ::
        lineUp style (some (b.moveTo (labelLeft style before b.width delta))) bs deltas := rfl

/-- A label keeps its size when it is placed. -/
theorem lineUp_getElem? (h : (lineUp style before bs deltas)[i]? = some c) : ∃ b x, bs[i]? = some b ∧ c = b.moveTo x := by
  induction bs generalizing before deltas i with
  | nil => cases h
  | cons b bs ih =>
    cases deltas with
    | nil => cases h
    | cons delta deltas =>
      cases i with
      | zero => exact ⟨b, _, rfl, (Option.some.inj h).symm⟩
      | succ i => exact ih h

/-- The distance of a lifeline from the one before: its delta, or what both labels need. -/
theorem lineUp_next (h : (lineUp style before bs deltas)[i]? = some c)
    (h' : (lineUp style before bs deltas)[i + 1]? = some c') : ∃ delta, deltas[i + 1]? = some delta ∧
      c'.midX = c.midX + max delta (c.width / 2 + c'.width / 2 + style.minPaddingX) := by
  induction bs generalizing before deltas i with
  | nil => cases h
  | cons b bs ih =>
    cases deltas with
    | nil => cases h
    | cons delta deltas =>
      cases i with
      | succ i =>
        rw [lineUp_cons, List.getElem?_cons_succ] at h h'
        have hrest := ih h h'
        exact hrest
      | zero =>
        cases bs with
        | nil => cases h'
        | cons b' bs =>
          cases deltas with
          | nil => cases h'
          | cons delta' deltas =>
            have hc : c = b.moveTo _ := (Option.some.inj h).symm
            have hc' : c' = b'.moveTo (labelLeft style (some c) b'.width delta') := by
              rw [hc]
              exact (Option.some.inj h').symm
            refine ⟨delta', rfl, ?_⟩
            rw [hc', Box.moveTo_midX, Box.moveTo_width]
            simp only [labelLeft, Scalar.larger_exact, Scalar.half_exact]
            ring

end

/-- Labels stand in order, apart by the padding and lifelines by the deltas. -/
structure LinedUp (style : Style ℚ) (m : TextMetrics ℚ) (d : Diagram) (p : Placement ℚ) : Prop where
  labels : p.labels.length = d.actors.length
  deltas : p.deltas.length = d.actors.length
  upright : ∀ i < d.actors.length, (p.labelBox i).Upright
  top : ∀ i < d.actors.length, (p.labelBox i).top = 0
  bottom : ∀ i a, d.actors[i]? = some a → (p.labelBox i).bottom = (labelSize style m a.name).height
  apart : ∀ i, i + 1 < d.actors.length → (p.labelBox i).right + style.minPaddingX ≤ (p.labelBox (i + 1)).left
  spread : ∀ i delta, p.deltas[i + 1]? = some delta → delta ≤ (p.labelBox (i + 1)).midX - (p.labelBox i).midX

namespace LinedUp

variable {i j lo hi : Nat}

theorem labels_getElem? (h : LinedUp style m d p) (hi : i < d.actors.length) : p.labels[i]? = some (p.labelBox i) :=
  Placement.labels_getElem? (h.labels.symm ▸ hi)

theorem left_le (h : LinedUp style m d p) (hs : style.NonNegative) (hij : i ≤ j) (hj : j < d.actors.length) :
    (p.labelBox i).left ≤ (p.labelBox j).left := by
  induction j, hij using Nat.le_induction with
  | base => exact le_rfl
  | succ j hij ih =>
    have hwidth := (h.upright j (by omega)).horizontal
    have hnext := h.apart j hj
    have hpadding := hs.minPaddingX
    have := ih (by omega)
    linarith

/-- An earlier label ends at least the padding before a later one. -/
theorem right_add_le (h : LinedUp style m d p) (hs : style.NonNegative) (hij : i < j) (hj : j < d.actors.length) :
    (p.labelBox i).right + style.minPaddingX ≤ (p.labelBox j).left :=
  (h.apart i (by omega)).trans (h.left_le hs hij hj)

theorem right_le (h : LinedUp style m d p) (hs : style.NonNegative) (hij : i ≤ j) (hj : j < d.actors.length) :
    (p.labelBox i).right ≤ (p.labelBox j).right := by
  rcases Nat.eq_or_lt_of_le hij with rfl | hlt
  · exact le_rfl
  · have happart := h.right_add_le hs hlt hj
    have hwidth := (h.upright j hj).horizontal
    have hpadding := hs.minPaddingX
    linarith

/-- The deltas between two lifelines add up to no more than their distance. -/
theorem sum_between_le (h : LinedUp style m d p) (hlohi : lo ≤ hi) (hhi : hi < d.actors.length) :
    (between p.deltas lo hi).sum ≤ (p.labelBox hi).midX - (p.labelBox lo).midX := by
  induction hi, hlohi using Nat.le_induction with
  | base =>
    rw [between_self, List.sum_nil, sub_self]
  | succ hi hle ih =>
    have hlt : hi + 1 < p.deltas.length := by rwa [h.deltas]
    have hstep := h.spread hi _ (List.getElem?_eq_getElem hlt)
    have hsum := ih (by omega)
    rw [between_succ _ hle, List.sum_append, List.getElem?_eq_getElem hlt, Option.toList_some, List.sum_singleton]
    linarith

end LinedUp

section

variable (hlabels : p.labels = d.actors.map fun a => Box.ofSize (labelSize style m a.name))
  (hdeltas : p.deltas.length = d.actors.length)

include hlabels hdeltas

theorem length_lineUp_labels : (lineUp style none p.labels p.deltas).length = d.actors.length := by
  have hsized : p.labels.length = d.actors.length := by rw [hlabels, List.length_map]
  rw [length_lineUp none (hsized.trans hdeltas.symm), hsized]

theorem lineUp_labels_getElem? {i : Nat} (hi : i < d.actors.length) :
    (lineUp style none p.labels p.deltas)[i]? = some ((placeActors style d p).labelBox i) :=
  Placement.labels_getElem? (p := placeActors style d p) ((length_lineUp_labels hlabels hdeltas).symm ▸ hi)

/-- Labels are moved to their places, their sizes kept. -/
theorem labelBox_placeActors {i : Nat} {a : Actor} (ha : d.actors[i]? = some a) :
    ∃ x, (placeActors style d p).labelBox i = (Box.ofSize (labelSize style m a.name)).moveTo x := by
  obtain ⟨b, x, hb, heq⟩ :=
    lineUp_getElem? (lineUp_labels_getElem? hlabels hdeltas (List.getElem?_eq_some_iff.mp ha).1)
  rw [hlabels, List.getElem?_map, ha] at hb
  obtain rfl := Option.some.inj hb
  exact ⟨x, heq⟩

end

theorem linedUp_placeActors (hs : style.NonNegative) (hm : m.NonNegative style)
    (hlabels : p.labels = d.actors.map fun a => Box.ofSize (labelSize style m a.name))
    (hdeltas : p.deltas.length = d.actors.length) : LinedUp style m d (placeActors style d p) := by
  have hlength : (lineUp style none p.labels p.deltas).length = d.actors.length :=
    length_lineUp_labels hlabels hdeltas
  have hbox : ∀ i, i < d.actors.length →
      (lineUp style none p.labels p.deltas)[i]? = some ((placeActors style d p).labelBox i) :=
    fun i hi => lineUp_labels_getElem? hlabels hdeltas hi
  have hplaced : ∀ i a, d.actors[i]? = some a →
      ∃ x, (placeActors style d p).labelBox i = (Box.ofSize (labelSize style m a.name)).moveTo x :=
    fun i a ha => labelBox_placeActors hlabels hdeltas ha
  refine ⟨hlength, hdeltas, fun i hi => ?_, fun i hi => ?_, fun i a ha => ?_, fun i hi => ?_, fun i delta hdelta => ?_⟩
  · obtain ⟨x, hx⟩ := hplaced i _ (List.getElem?_eq_getElem hi)
    rw [hx]
    exact (Box.upright_ofSize (labelSize_nonNegative hs hm _)).moveTo x
  · obtain ⟨x, hx⟩ := hplaced i _ (List.getElem?_eq_getElem hi)
    rw [hx, Box.moveTo_top, Box.ofSize_eq (labelSize_nonNegative hs hm _)]
  · obtain ⟨x, hx⟩ := hplaced i a ha
    rw [hx, Box.moveTo_bottom, Box.ofSize_eq (labelSize_nonNegative hs hm _)]
  · obtain ⟨delta, -, hmid⟩ := lineUp_next (hbox i (by omega)) (hbox (i + 1) hi)
    have hneed := le_max_right delta (((placeActors style d p).labelBox i).width / 2 +
      ((placeActors style d p).labelBox (i + 1)).width / 2 + style.minPaddingX)
    rw [Box.midX_eq, Box.midX_eq] at hmid
    simp only [Box.width_eq] at hmid hneed
    linarith
  · have hi : i + 1 < d.actors.length := by
      rw [← hdeltas]
      exact (List.getElem?_eq_some_iff.mp hdelta).1
    obtain ⟨delta', hdelta', hmid⟩ := lineUp_next (hbox i (by omega)) (hbox (i + 1) hi)
    obtain rfl : delta' = delta := Option.some.inj (hdelta'.symm.trans hdelta)
    rw [hmid, add_sub_cancel_left]
    exact le_max_left _ _

/-! ## Events at their lifelines -/

theorem lifeline_map_midX (labels : List (Box ℚ)) (i : Nat) :
    lifeline (labels.map Box.midX) i = (labels.getD i .zero).midX := by
  unfold lifeline
  rw [List.getD_eq_getElem?_getD, List.getD_eq_getElem?_getD, List.getElem?_map]
  cases labels[i]? with
  | none => exact Box.midX_zero.symm
  | some b => rfl

section

variable {lifelines : List ℚ} {e : Event} {b : Box ℚ}

/-- Anchoring moves a box sideways, or draws it anew with its top and bottom. -/
theorem anchor_cases (hb : b.Upright) (style : Style ℚ) (lifelines : List ℚ) (e : Event) :
    (∃ x, anchor style lifelines e b = b.moveTo x) ∨
      ∃ x reach, 0 ≤ reach ∧ anchor style lifelines e b = ⟨x - reach, b.top, x + reach, b.bottom⟩ := by
  unfold anchor
  split
  · split
    · exact .inl ⟨_, rfl⟩
    · exact .inl ⟨_, rfl⟩
  · split
    · exact .inl ⟨_, rfl⟩
    · rename_i first last _
      have hreach : 0 ≤ max b.width (last - first) / 2 := by
        have := hb.width_nonneg.trans (le_max_left b.width (last - first))
        linarith
      refine .inr ⟨(first + last) / 2, max b.width (last - first) / 2, hreach, ?_⟩
      simp only [Scalar.half_exact, Scalar.larger_exact]
      exact Box.ofCorners_eq (by linarith) hb.vertical
  · exact .inl ⟨_, rfl⟩
  · exact .inl ⟨_, rfl⟩
  · exact .inl ⟨_, rfl⟩
  · exact .inl ⟨_, rfl⟩

theorem anchor_top (hb : b.Upright) : (anchor style lifelines e b).top = b.top := by
  rcases anchor_cases hb style lifelines e with ⟨x, h⟩ | ⟨x, reach, -, h⟩
  · rw [h, Box.moveTo_top]
  · rw [h]

theorem anchor_bottom (hb : b.Upright) : (anchor style lifelines e b).bottom = b.bottom := by
  rcases anchor_cases hb style lifelines e with ⟨x, h⟩ | ⟨x, reach, -, h⟩
  · rw [h, Box.moveTo_bottom]
  · rw [h]

theorem upright_anchor (hb : b.Upright) : (anchor style lifelines e b).Upright := by
  rcases anchor_cases hb style lifelines e with ⟨x, h⟩ | ⟨x, reach, hreach, h⟩
  · rw [h]
    exact hb.moveTo x
  · rw [h]
    exact ⟨by show x - reach ≤ x + reach; linarith, hb.vertical⟩

end

theorem eventBox_placeActors {i : Nat} {e : Event} (hlength : p.events.length = d.events.length)
    (he : d.events[i]? = some e) : (placeActors style d p).eventBox i =
      anchor style ((placeActors style d p).labels.map Box.midX) e (p.eventBox i) := by
  have hi : i < p.events.length := hlength.symm ▸ (List.getElem?_eq_some_iff.mp he).1
  apply Placement.eventBox_eq
  show (List.zipWith _ d.events p.events)[i]? = _
  rw [List.getElem?_zipWith, he, Placement.events_getElem? hi]
  rfl

theorem Stacked.placeActors (h : Stacked style m d p) : Stacked style m d (placeActors style d p) := by
  refine ⟨?_, fun i e he => ?_, fun i e he => ?_, fun i e he => ?_, h.terminal⟩
  · show (List.zipWith _ d.events p.events).length = _
    rw [List.length_zipWith, h.length, min_self]
  · rw [eventBox_placeActors h.length he, anchor_top (h.upright i e he)]
    exact h.top i e he
  · rw [eventBox_placeActors h.length he, anchor_top (h.upright i e he), anchor_bottom (h.upright i e he)]
    exact h.height i e he
  · rw [eventBox_placeActors h.length he]
    exact upright_anchor (h.upright i e he)

/-- Messages stand at their lifelines, as wide as they were measured. -/
structure Anchored (style : Style ℚ) (m : TextMetrics ℚ) (d : Diagram) (p : Placement ℚ) : Prop where
  width : ∀ k e, d.events[k]? = some e → e.action.isMessage → (p.eventBox k).width = (eventSize style m e.action).width
  message : ∀ (k : Nat) line arrow source destination text activation,
    d.events[k]? = some ⟨line, .message arrow source destination text activation⟩ → source ≠ destination →
      (p.eventBox k).midX = ((p.labelBox source).midX + (p.labelBox destination).midX) / 2
  loop : ∀ (k : Nat) line arrow actor text activation,
    d.events[k]? = some ⟨line, .message arrow actor actor text activation⟩ →
      (p.eventBox k).left = (p.labelBox actor).midX

theorem anchored_placeActors (hlength : p.events.length = d.events.length)
    (hwidth : ∀ k e, d.events[k]? = some e → (p.eventBox k).width = (eventSize style m e.action).width) :
    Anchored style m d (placeActors style d p) := by
  refine ⟨fun k e he hmessage => ?_, fun k line arrow source destination text activation he hne => ?_,
    fun k line arrow actor text activation he => ?_⟩
  · rw [eventBox_placeActors hlength he, ← hwidth k e he]
    obtain ⟨line, action⟩ := e
    cases action with
    | message arrow source destination text activation =>
      simp only [anchor]
      split
      · exact Box.moveTo_width _ _
      · exact Box.moveTo_width _ _
    | note side actors text => cases hmessage
    | blockStart kind text => cases hmessage
    | blockEnd => cases hmessage
  · rw [eventBox_placeActors hlength he]
    simp only [anchor, if_neg hne, lifeline_map_midX, Scalar.half_exact, Box.moveTo_midX]
    show _ - _ + _ = ((List.getD _ source Box.zero).midX + (List.getD _ destination Box.zero).midX) / 2
    ring
  · rw [eventBox_placeActors hlength he]
    simp only [anchor, if_true, lifeline_map_midX, Box.moveTo_left]
    rfl

end SequenceDiagram.Layout
