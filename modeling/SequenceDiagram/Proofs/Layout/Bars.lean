/-
  SequenceDiagram.Proofs.Layout.Bars — bars beside their lifelines, half a bar further at each level.

  A bar is made from the bar of its parent, which was placed before it. So how far it is to
  the right of its lifeline depends on its depth alone: the bar of an activation without a
  parent has the lifeline in its middle, and each level moves it half a bar further
  (`barAt`). Up and down it runs from the middle of its first event to the middle of its
  last, or to the end of the lifelines, which is further down by at least the padding.

  Placing the bars makes such a placement, and moving everything to the right keeps it
  (`barred_place`). Labels hold the nearest bars: a lifeline is at least the padding of a
  text away from both edges of its label. Nothing widens the canvas for the bars
  themselves, so what holds on the right holds up to a depth only.
-/

import SequenceDiagram.Proofs.Diagram.Ancestors
import SequenceDiagram.Proofs.Layout.Canvas

namespace SequenceDiagram

theorem Placement.barBox_eq {p : Placement ℚ} {k : Nat} {b : Box ℚ} (h : p.bars[k]? = some b) : p.barBox k = b := by
  unfold barBox
  rw [List.getD_eq_getElem?_getD, h]
  rfl

theorem Placement.bars_getElem? {p : Placement ℚ} {k : Nat} (h : k < p.bars.length) : p.bars[k]? = some (p.barBox k) := by
  have hbox := List.getElem?_eq_getElem h
  rwa [barBox_eq hbox]

namespace Layout

variable {style : Style ℚ} {m : TextMetrics ℚ} {d : Diagram} {p : Placement ℚ} {k : Nat} {x : Activation}

/-! ## Where a bar stands -/

/-- The middle of the event that ends an activation, or the end of the lifelines. -/
def barBottom (p : Placement ℚ) (x : Activation) : ℚ := x.finish.elim p.terminalY fun e => (p.eventBox e).midY

def barLeft (style : Style ℚ) (d : Diagram) (p : Placement ℚ) (k : Nat) (x : Activation) : ℚ :=
  (p.labelBox x.actor).midX - style.activationWidth / 2 + d.depth k * (style.activationWidth / 2)

/-- The bar of activation `k`, found from its depth and not from other bars. -/
def barAt (style : Style ℚ) (d : Diagram) (p : Placement ℚ) (k : Nat) (x : Activation) : Box ℚ :=
  ⟨barLeft style d p k x, (p.eventBox x.start).midY, barLeft style d p k x + style.activationWidth, barBottom p x⟩

/-- Every bar stands by its depth. -/
structure Barred (style : Style ℚ) (d : Diagram) (p : Placement ℚ) : Prop where
  length : p.bars.length = d.activations.length
  bar : ∀ k x, d.activations[k]? = some x → p.barBox k = barAt style d p k x

section

variable (hs : style.NonNegative) (hm : m.NonNegative style) (hstacked : Stacked style m d p) (hd : d.Spanned)
  (hx : d.activations[k]? = some x)

include hs hm hstacked hd hx

/-- A bar ends at least the padding below the middle of the event it begins at. -/
theorem midY_add_le_barBottom : (p.eventBox x.start).midY + style.minPaddingY ≤ barBottom p x := by
  have hstart := hd.start_lt hx
  have hmid := (hstacked.upright x.start _ (List.getElem?_eq_getElem hstart)).midY_le_bottom
  unfold barBottom
  cases hj : x.finish with
  | none =>
    have hterminal := hstacked.bottom_le_terminalY hs hm hstart
    show (p.eventBox x.start).midY + style.minPaddingY ≤ p.terminalY
    linarith
  | some j =>
    have hlt : x.start < j := ((hd.finish k x hx j).mp hj).lt
    have hfinish := hd.finish_lt hx hj
    have happart := hstacked.apart hs hm hlt hfinish
    have hmid' := (hstacked.upright j _ (List.getElem?_eq_getElem hfinish)).top_le_midY
    show (p.eventBox x.start).midY + style.minPaddingY ≤ (p.eventBox j).midY
    linarith

/-- No bar reaches below the lifelines. -/
theorem barBottom_le_terminalY : barBottom p x ≤ p.terminalY := by
  unfold barBottom
  cases hj : x.finish with
  | none => exact le_rfl
  | some j =>
    have hfinish := hd.finish_lt hx hj
    have hmid := (hstacked.upright j _ (List.getElem?_eq_getElem hfinish)).midY_le_bottom
    have hterminal := hstacked.bottom_le_terminalY hs hm hfinish
    show (p.eventBox j).midY ≤ p.terminalY
    linarith [hs.minPaddingY]

end

/-! ## Placing the bars -/

theorem bar_eq (style : Style ℚ) (p : Placement ℚ) (placed : List (Box ℚ)) (x : Activation) :
    bar style p placed x =
      let left := x.parent.elim ((p.labelBox x.actor).midX - style.activationWidth / 2) fun parent =>
        (placed.getD parent .zero).left + style.activationWidth / 2
      Box.ofCorners left (p.eventBox x.start).midY (left + style.activationWidth) (barBottom p x) := by
  obtain ⟨actor, start, finish, parent⟩ := x
  cases finish <;> cases parent <;> rfl

theorem bars_placeBars_getElem? (style : Style ℚ) (d : Diagram) (p : Placement ℚ) (k : Nat) :
    (placeBars style d p).bars[k]? = d.activations[k]?.map (bar style p ((placeBars style d p).bars.take k)) :=
  foldl_snoc_getElem? (bar style p) d.activations k

/-- A bar is half a bar to the right of its parent's, and so by its depth from its lifeline. -/
theorem barred_placeBars (hs : style.NonNegative) (hm : m.NonNegative style) (hstacked : Stacked style m d p)
    (hd : d.Spanned) : Barred style d (placeBars style d p) := by
  have hlength : (placeBars style d p).bars.length = d.activations.length := length_foldl_snoc (bar style p) d.activations
  refine ⟨hlength, fun k => ?_⟩
  induction k using Nat.strong_induction_on with
  | h k ih =>
    intro x hx
    have hleft : x.parent.elim ((p.labelBox x.actor).midX - style.activationWidth / 2) (fun parent =>
        (((placeBars style d p).bars.take k).getD parent .zero).left + style.activationWidth / 2) =
          barLeft style d p k x := by
      cases hparent : x.parent with
      | none =>
        rw [barLeft, Diagram.Spanned.depth_of_none hx hparent, Nat.cast_zero, zero_mul, add_zero]
        rfl
      | some q =>
        obtain ⟨hlt, y, hy, hactor, -⟩ := hd.enclosed hx hparent
        have hq : q < d.activations.length := (List.getElem?_eq_some_iff.mp hy).1
        have hplaced : ((placeBars style d p).bars.take k).getD q .zero = barAt style d p q y := by
          rw [List.getD_eq_getElem?_getD, List.getElem?_take_of_lt hlt, Placement.bars_getElem? (hlength.symm ▸ hq),
            Option.getD_some]
          exact ih q hlt y hy
        rw [Option.elim_some, hplaced]
        show barLeft style d p q y + style.activationWidth / 2 = barLeft style d p k x
        rw [barLeft, barLeft, hactor, hd.depth_of_some hx hparent, Nat.cast_add, Nat.cast_one]
        ring
    have hright : barLeft style d p k x ≤ barLeft style d p k x + style.activationWidth := by
      linarith [hs.activationWidth]
    have hdown : (p.eventBox x.start).midY ≤ barBottom p x := by
      linarith [midY_add_le_barBottom hs hm hstacked hd hx, hs.minPaddingY]
    apply Placement.barBox_eq
    rw [bars_placeBars_getElem?, hx, Option.map_some, bar_eq, hleft]
    exact congrArg some (Box.ofCorners_eq hright hdown)

/-! ## The finished layout -/

theorem Barred.shiftRight (h : Barred style d p) (hd : d.Indexed) (hfits : p.Fits d) (dx : ℚ) :
    Barred style d (shiftRight dx p) := by
  have hmoved := moved_shiftRight dx p
  refine ⟨(List.length_map _).trans h.length, fun k x hx => ?_⟩
  have hk := (List.getElem?_eq_some_iff.mp hx).1
  have hmem := List.mem_of_getElem? hx
  have hbar : (Layout.shiftRight dx p).barBox k = (p.barBox k).shift dx 0 := by
    apply Placement.barBox_eq
    show (p.bars.map _)[k]? = _
    rw [List.getElem?_map, Placement.bars_getElem? (h.length.symm ▸ hk)]
    rfl
  have hlabel := hmoved.labelBox (hfits.labels.symm ▸ hd.actor x hmem)
  have hevent : ∀ e < d.events.length, ((Layout.shiftRight dx p).eventBox e).midY = (p.eventBox e).midY := by
    intro e he
    rw [hmoved.eventBox (hfits.events.symm ▸ he), Box.shift_midY, add_zero]
  have hbottom : barBottom (Layout.shiftRight dx p) x = barBottom p x := by
    unfold barBottom
    cases hj : x.finish with
    | none => rfl
    | some j => exact hevent j (hd.finish x hmem j hj)
  have hleft : barLeft style d (Layout.shiftRight dx p) k x = barLeft style d p k x + dx := by
    rw [barLeft, barLeft, hlabel, Box.shift_midX]
    ring
  rw [hbar, h.bar k x hx, barAt, barAt, hevent _ (hd.start x hmem), hbottom, hleft]
  show (⟨_, _, _, _⟩ : Box ℚ) = ⟨_, _, _, _⟩
  simp only [add_zero, add_right_comm]

/-- The size of the canvas moves no bar. -/
theorem Barred.withCanvas (h : Barred style d p) (canvas : Size ℚ) : Barred style d { p with canvas } := ⟨h.length, h.bar⟩

theorem barred_framed (hs : style.NonNegative) (hm : m.NonNegative style) (hd : d.Spanned) :
    Barred style d (framed style m d) := by
  have h := barred_placeBars hs hm (stacked_rows hs hm d).placeActors hd
  exact ⟨h.length, h.bar⟩

theorem barred_place (hs : style.NonNegative) (hm : m.NonNegative style) (hd : d.Spanned) (hindexed : d.Indexed) :
    Barred style d (d.place style m) := by
  obtain ⟨dx, -, heq, -⟩ := place_eq_shiftRight style m d
  have hfits : (framed style m d).Fits d :=
    (Placement.Fits.unplaced d).runAll [.sizeActors, .placeEvents, .placeActors, .placeBars, .frameBlocks]
  have h := (barred_framed hs hm hd).shiftRight hindexed hfits dx
  rw [heq]
  exact h.withCanvas _

/-! ## Bars and the canvas -/

section

variable (hs : style.NonNegative) (hm : m.NonNegative style) {i : Nat}

include hs hm

/-- A lifeline is the padding of a text away from the edges of its label, and these are the
    margin of the page away from the edges of the canvas. -/
theorem lifeline_on_canvas (hi : i < d.actors.length) :
    style.groupPadding + style.textPaddingX ≤ ((d.place style m).labelBox i).midX ∧
      ((d.place style m).labelBox i).midX + style.textPaddingX + style.minPaddingX ≤ (d.place style m).canvas.width := by
  have hlined := linedUp_place hs hm d
  have hleft : style.groupPadding ≤ ((d.place style m).labelBox i).left := by
    have hmem := List.mem_of_getElem? (hlined.labels_getElem? hi)
    apply padding_le_leftEdges style m d
    exact List.mem_append_left _ (List.mem_append_left _ (List.mem_map_of_mem hmem))
  have hright := label_right_le_canvas hs hm hi
  have hwidth := width_label_place hs hm (List.getElem?_eq_getElem hi)
  have htext : style.textPaddingX * 2 ≤ (labelSize style m d.actors[i].name).width :=
    le_add_of_nonneg_left (hm.label _).width
  rw [Box.width_eq] at hwidth
  rw [Box.midX_eq]
  constructor <;> linarith

variable (hd : d.Spanned) (hindexed : d.Indexed) (hx : d.activations[k]? = some x)

include hd hindexed hx

theorem bar_left_nonneg (hnarrow : style.activationWidth ≤ 2 * (style.groupPadding + style.textPaddingX)) :
    0 ≤ ((d.place style m).barBox k).left := by
  have hlifeline := (lifeline_on_canvas hs hm (hindexed.actor x (List.mem_of_getElem? hx))).1
  have hdepth : (0 : ℚ) ≤ d.depth k * (style.activationWidth / 2) :=
    mul_nonneg (Nat.cast_nonneg _) (by linarith [hs.activationWidth])
  rw [(barred_place hs hm hd hindexed).bar k x hx]
  show 0 ≤ _ - style.activationWidth / 2 + _
  linarith

/-- Bars fit on the right up to the depth that the margin beside the label leaves room for. -/
theorem bar_right_le_canvas
    (hdeep : (d.depth k + 1) * style.activationWidth ≤ 2 * (style.textPaddingX + style.minPaddingX)) :
    ((d.place style m).barBox k).right ≤ (d.place style m).canvas.width := by
  have hlifeline := (lifeline_on_canvas hs hm (hindexed.actor x (List.mem_of_getElem? hx))).2
  rw [(barred_place hs hm hd hindexed).bar k x hx]
  show _ - style.activationWidth / 2 + d.depth k * (style.activationWidth / 2) + style.activationWidth ≤ _
  linarith

theorem bar_vertical : 0 ≤ ((d.place style m).barBox k).top ∧
    ((d.place style m).barBox k).top + style.minPaddingY ≤ ((d.place style m).barBox k).bottom ∧
    ((d.place style m).barBox k).bottom ≤ (d.place style m).canvas.height := by
  have hstacked := stacked_place hs hm d
  have hmem := List.mem_of_getElem? hx
  have hstart := hindexed.start x hmem
  have htop := headerHeight_add_le_top hs hm hstart
  have hheader := headerHeight_place_nonneg style m d
  have hmid := (hstacked.upright x.start _ (List.getElem?_eq_getElem hstart)).top_le_midY
  have hbottom := barBottom_le_terminalY hs hm hstacked hd hx
  have hcanvas := terminalY_le_canvas hs hm (hindexed.actor x hmem)
  rw [(barred_place hs hm hd hindexed).bar k x hx]
  refine ⟨?_, midY_add_le_barBottom hs hm hstacked hd hx, hbottom.trans hcanvas⟩
  show 0 ≤ ((d.place style m).eventBox x.start).midY
  linarith [hs.minPaddingY]

end

end Layout

end SequenceDiagram
