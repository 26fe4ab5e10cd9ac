/-
  SequenceDiagram.Proofs.Layout.BarNesting — bars nest as their activations do.

  Up and down a bar runs from the middle of one event to the middle of a later one, or to
  the end of the lifelines. So how two bars of an actor lie to each other is how their
  activations do in the list of events. An ancestor starts earlier and does not end
  earlier, and its bar reaches above and no less far down (`bar_inside`). Of two
  activations that are not inside one another one ends before the other starts, and its
  bar ends at least the padding above the other's (`bars_apart`). What is inside another
  is at a deeper level, so bars of one level are always apart.
-/

import SequenceDiagram.Proofs.Diagram.Replay
import SequenceDiagram.Proofs.Layout.Bars

namespace SequenceDiagram

namespace Layout

variable {style : Style ℚ} {m : TextMetrics ℚ} {d : Diagram} {p : Placement ℚ} {i j k q : Nat} {x y : Activation}

theorem barBottom_of_none (hopen : x.finish = none) : barBottom p x = p.terminalY := by
  rw [barBottom, hopen]
  rfl

theorem barBottom_of_some (hj : x.finish = some j) : barBottom p x = (p.eventBox j).midY := by
  rw [barBottom, hj]
  rfl

theorem Barred.top_eq (h : Barred style d p) (hx : d.activations[k]? = some x) :
    (p.barBox k).top = (p.eventBox x.start).midY := by
  rw [h.bar k x hx]
  rfl

theorem Barred.bottom_eq (h : Barred style d p) (hx : d.activations[k]? = some x) :
    (p.barBox k).bottom = barBottom p x := by
  rw [h.bar k x hx]
  rfl

namespace Stacked

variable (h : Stacked style m d p) (hs : style.NonNegative) (hm : m.NonNegative style)

include h hs hm

/-- The middles of two events are at least the padding apart. -/
theorem midY_add_le (hij : i < j) (hj : j < d.events.length) :
    (p.eventBox i).midY + style.minPaddingY ≤ (p.eventBox j).midY := by
  have hi : i < d.events.length := by omega
  have happart := h.apart hs hm hij hj
  have habove := (h.upright i _ (List.getElem?_eq_getElem hi)).midY_le_bottom
  have hbelow := (h.upright j _ (List.getElem?_eq_getElem hj)).top_le_midY
  linarith

/-- An ancestor's bar begins higher and ends no higher. -/
theorem bar_inside (hd : d.Spanned) (hx : d.activations[k]? = some x) (hq : q ∈ d.ancestors k)
    (hy : d.activations[q]? = some y) : (p.eventBox y.start).midY + style.minPaddingY ≤ (p.eventBox x.start).midY ∧
      barBottom p x ≤ barBottom p y := by
  obtain ⟨-, z, hz, -, hstart, hfinish⟩ := hd.encloses_of_mem_ancestors hx hq
  obtain rfl : z = y := Option.some.inj (hz.symm.trans hy)
  refine ⟨h.midY_add_le hs hm hstart (hd.start_lt hx), ?_⟩
  cases hopen : z.finish with
  | none =>
    rw [barBottom_of_none hopen]
    exact barBottom_le_terminalY hs hm h hd hx
  | some j =>
    obtain ⟨i, hi, hij⟩ := hfinish j hopen
    have hmid := h.midY_add_le hs hm hij (hd.finish_lt hy hopen)
    rw [barBottom_of_some hi, barBottom_of_some hopen]
    linarith [hs.minPaddingY]

/-- A bar that is not around a later one of its actor ends above it. -/
theorem bar_above (hd : d.Spanned) (hx : d.activations[k]? = some x) (hy : d.activations[j]? = some y)
    (hactor : x.actor = y.actor) (hkj : k < j) (hnot : k ∉ d.ancestors j) :
    barBottom p x + style.minPaddingY ≤ (p.eventBox y.start).midY := by
  have hstart := hd.start_lt_start hx hy hkj
  have hended : ∃ e, x.finish = some e ∧ e < y.start := by
    by_contra hopen
    refine hnot ((hd.mem_ancestors_iff hy).mpr ⟨x, hx, hactor, hstart, fun e he => ?_⟩)
    by_contra hlt
    exact hopen ⟨e, he, by omega⟩
  obtain ⟨e, he, hlt⟩ := hended
  have hmid := h.midY_add_le hs hm hlt (hd.start_lt hy)
  rwa [barBottom_of_some he]

/-- So of two bars of an actor, neither around the other, one ends above the other. -/
theorem bars_apart (hd : d.Spanned) (hbarred : Barred style d p) (hx : d.activations[k]? = some x)
    (hy : d.activations[j]? = some y) (hne : k ≠ j) (hactor : x.actor = y.actor) (hkj : k ∉ d.ancestors j)
    (hjk : j ∉ d.ancestors k) : (p.barBox k).bottom + style.minPaddingY ≤ (p.barBox j).top ∨
      (p.barBox j).bottom + style.minPaddingY ≤ (p.barBox k).top := by
  rw [hbarred.bottom_eq hx, hbarred.bottom_eq hy, hbarred.top_eq hx, hbarred.top_eq hy]
  rcases lt_or_gt_of_ne hne with hlt | hgt
  · exact .inl (h.bar_above hs hm hd hx hy hactor hlt hkj)
  · exact .inr (h.bar_above hs hm hd hy hx hactor.symm hgt hjk)

end Stacked

/-- How the bars of a finished layout lie to their lifelines, their events and each other. -/
structure BarsNest (style : Style ℚ) (d : Diagram) (p : Placement ℚ) : Prop where
  length : p.bars.length = d.activations.length
  /-- Ancestors are found going from parent to parent. -/
  ancestors : ∀ (k : Nat) x, d.activations[k]? = some x →
    d.ancestors k = x.parent.elim [] fun q => q :: d.ancestors q
  left : ∀ (k : Nat) x, d.activations[k]? = some x → (p.barBox k).left =
    (p.labelBox x.actor).midX - style.activationWidth / 2 + (d.ancestors k).length * (style.activationWidth / 2)
  width : ∀ k, k < d.activations.length → (p.barBox k).width = style.activationWidth
  top : ∀ (k : Nat) x, d.activations[k]? = some x → (p.barBox k).top = (p.eventBox x.start).midY
  bottom : ∀ (k : Nat) x j, d.activations[k]? = some x → x.finish = some j →
    (p.barBox k).bottom = (p.eventBox j).midY
  openBottom : ∀ (k : Nat) x, d.activations[k]? = some x → x.finish = none → (p.barBox k).bottom = p.terminalY
  upright : ∀ k, k < d.activations.length → (p.barBox k).top < (p.barBox k).bottom
  /-- A bar lies within the bar of its parent from top to bottom. -/
  inside : ∀ (k : Nat) x q, d.activations[k]? = some x → x.parent = some q →
    (p.barBox q).top < (p.barBox k).top ∧ (p.barBox k).bottom ≤ (p.barBox q).bottom
  /-- Of two bars of an actor, neither around the other, one ends above the other. -/
  apart : ∀ (k j : Nat) x y, d.activations[k]? = some x → d.activations[j]? = some y → k ≠ j → x.actor = y.actor →
    k ∉ d.ancestors j → j ∉ d.ancestors k →
      (p.barBox k).bottom < (p.barBox j).top ∨ (p.barBox j).bottom < (p.barBox k).top
  /-- So bars at one level never overlap. -/
  level : ∀ (k j : Nat) x y, d.activations[k]? = some x → d.activations[j]? = some y → k ≠ j → x.actor = y.actor →
    (d.ancestors k).length = (d.ancestors j).length →
      (p.barBox k).bottom < (p.barBox j).top ∨ (p.barBox j).bottom < (p.barBox k).top

end Layout

open Layout in
/-- In every layout of a linked diagram whose rows are apart, the bars nest as the activations do. -/
theorem Diagram.barsNest_of_build {ss : List Numbered} {d : Diagram} {style : Style ℚ} {m : TextMetrics ℚ}
    (h : build ss = .ok d) (hs : style.NonNegative) (hm : m.NonNegative style) (hrows : 0 < style.minPaddingY) :
    BarsNest style d (d.place style m) := by
  have hd := spanned_of_build h
  have hbarred := barred_place hs hm hd (indexed_of_build h)
  have hstacked := stacked_place hs hm d
  -- activations at one level are not around one another
  have hlevel : ∀ (k j : Nat) x, d.activations[k]? = some x → (d.ancestors k).length = (d.ancestors j).length →
      j ∉ d.ancestors k := by
    intro k j x hx hsame hmem
    have hlt : (d.ancestors j).length < (d.ancestors k).length := hd.depth_lt_of_mem_ancestors hx hmem
    omega
  have hapart : ∀ (k j : Nat) x y, d.activations[k]? = some x → d.activations[j]? = some y → k ≠ j →
      x.actor = y.actor → k ∉ d.ancestors j → j ∉ d.ancestors k →
        ((d.place style m).barBox k).bottom < ((d.place style m).barBox j).top ∨
          ((d.place style m).barBox j).bottom < ((d.place style m).barBox k).top := by
    intro k j x y hx hy hne hactor hkj hjk
    rcases hstacked.bars_apart hs hm hd hbarred hx hy hne hactor hkj hjk with habove | habove
    · exact .inl (by linarith)
    · exact .inr (by linarith)
  constructor
  case length => exact hbarred.length
  case ancestors =>
    intro k x hx
    cases hparent : x.parent with
    | none => exact Spanned.ancestors_of_none hx hparent
    | some q => exact hd.ancestors_of_some hx hparent
  case left =>
    intro k x hx
    rw [hbarred.bar k x hx]
    rfl
  case width =>
    intro k hk
    rw [hbarred.bar k _ (List.getElem?_eq_getElem hk), Box.width_eq]
    exact add_sub_cancel_left _ _
  case top => exact fun k x hx => hbarred.top_eq hx
  case bottom => exact fun k x j hx hj => (hbarred.bottom_eq hx).trans (barBottom_of_some hj)
  case openBottom => exact fun k x hx hopen => (hbarred.bottom_eq hx).trans (barBottom_of_none hopen)
  case upright =>
    intro k hk
    have hx := List.getElem?_eq_getElem hk
    have hdown := midY_add_le_barBottom hs hm hstacked hd hx
    rw [hbarred.top_eq hx, hbarred.bottom_eq hx]
    linarith
  case inside =>
    intro k x q hx hparent
    obtain ⟨-, y, hy, -⟩ := hd.enclosed hx hparent
    have hmem : q ∈ d.ancestors k := by
      rw [hd.ancestors_of_some hx hparent]
      exact List.mem_cons_self
    obtain ⟨hstart, hfinish⟩ := hstacked.bar_inside hs hm hd hx hmem hy
    rw [hbarred.top_eq hx, hbarred.top_eq hy, hbarred.bottom_eq hx, hbarred.bottom_eq hy]
    exact ⟨by linarith, hfinish⟩
  case apart => exact hapart
  case level =>
    intro k j x y hx hy hne hactor hsame
    exact hapart k j x y hx hy hne hactor (hlevel j k y hy hsame.symm) (hlevel k j x hx hsame)

open Layout in
/-- Two bars after one another inside a third, then one that stays open with another in it. -/
theorem Diagram.barsNest_siblings :
    ∃ ss, ss = [⟨1, .message "a" ⟨.solid, some .start⟩ "b" "x"⟩, ⟨2, .message "b" ⟨.solid, some .start⟩ "b" ""⟩,
      ⟨3, .message "b" ⟨.solid, some .finish⟩ "b" ""⟩, ⟨4, .message "a" ⟨.solid, some .start⟩ "b" ""⟩,
      ⟨5, .message "b" ⟨.dashed, some .finish⟩ "a" ""⟩, ⟨6, .message "b" ⟨.dashed, some .finish⟩ "a" ""⟩,
      ⟨7, .message "a" ⟨.solid, some .start⟩ "b" ""⟩, ⟨8, .message "b" ⟨.solid, some .start⟩ "b" ""⟩] ∧
    ∃ d, build ss = .ok d ∧ (List.range 5).map d.ancestors = [[], [0], [0], [], [3]] ∧
      (d.place .default (.fixed (8 : ℚ) 16)).bars =
        [⟨112, 64, 122, 379⟩, ⟨117, 130, 127, 211⟩, ⟨117, 277, 127, 328⟩, ⟨112, 430, 122, 549⟩, ⟨117, 496, 127, 549⟩] ∧
      BarsNest .default d (d.place .default (.fixed 8 16)) := by
  have hm : (TextMetrics.fixed (8 : ℚ) 16).NonNegative .default :=
    TextMetrics.fixed_nonNegative (by decide) (by decide) _
  refine ⟨_, rfl, ?d, ?build, ?ancestors, ?bars,
    barsNest_of_build ?build Style.default_nonNegative hm (by decide)⟩
  case build => exact rfl
  case ancestors => decide +kernel
  case bars => decide +kernel

end SequenceDiagram
