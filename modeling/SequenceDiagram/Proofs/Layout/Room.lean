/-
  SequenceDiagram.Proofs.Layout.Room — every message has the room it was measured to need.

  A message asks for its width between its lifelines when it is stacked. Deltas only grow
  after that, lifelines are placed at least their deltas apart, and the move to the right
  keeps every distance; so however messages overlap, all of them fit in the end
  (`room_of_spans`). No delta is larger than asked for: each is the least gap, or the
  even share of a message that stands over it.
-/

import Mathlib.Algebra.Order.Group.Abs
import SequenceDiagram.Proofs.Layout.Placing

namespace SequenceDiagram

namespace Layout

variable {style : Style ℚ} {m : TextMetrics ℚ} {d : Diagram} {e : Event} {lo hi : Nat}

theorem Spans.lt {actors : Nat} {a : Action} (h : Spans actors a lo hi) : lo < hi := by
  cases h with
  | between arrow text activation hne => omega
  | beside arrow text activation hnext => omega

/-- The lifelines a message stands between are at least its width apart. -/
theorem room_of_spans (hs : style.NonNegative) (hm : m.NonNegative style) (he : e ∈ d.events)
    (hspans : Spans d.actors.length e.action lo hi) (hhi : hi < d.actors.length) :
    (eventSize style m e.action).width ≤
      ((d.place style m).labelBox hi).midX - ((d.place style m).labelBox lo).midX := by
  have hlength : (leastDeltas style d.actors.length).length = d.actors.length := by simp [leastDeltas]
  have hrequest : (⟨lo, hi, (eventSize style m e.action).width⟩ : Request) ∈
      requests style m d.actors.length d.events := mem_requests.mpr ⟨e, he, hspans, rfl⟩
  have hmet := widenAll_meets hrequest hspans.lt (hlength.symm ▸ hhi)
  rw [← deltas_place] at hmet
  exact hmet.trans ((linedUp_place hs hm d).sum_between_le hspans.lt.le hhi)

/-- Every delta but the first is the least gap or the share of a message over it. -/
theorem delta_place {i : Nat} {delta : ℚ} (h : (d.place style m).deltas[i]? = some delta) :
    delta = (if i = 0 then 0 else style.minPaddingX) ∨
      ∃ e ∈ d.events, ∃ lo hi, Spans d.actors.length e.action lo hi ∧ lo < i ∧ i ≤ hi ∧
        delta = (eventSize style m e.action).width / (hi - lo) := by
  rw [deltas_place] at h
  rcases widenAll_given h with hleast | ⟨r, hr, hlo, hhi, hshare⟩
  · left
    unfold leastDeltas at hleast
    rw [List.getElem?_map, Option.map_eq_some_iff] at hleast
    obtain ⟨k, hk, hdelta⟩ := hleast
    obtain ⟨_, rfl⟩ := List.getElem?_eq_some_iff.mp hk
    rw [List.getElem_range] at hdelta
    exact hdelta.symm
  · right
    obtain ⟨e, he, hspans, hwidth⟩ := mem_requests.mp hr
    refine ⟨e, he, r.lo, r.hi, hspans, hlo, hhi, ?_⟩
    rw [hshare, Request.share, hwidth, Nat.cast_sub hspans.lt.le]

/-- A box no wider than two points are apart, with its middle between them, lies between them. -/
theorem between_of_midX {b : Box ℚ} {x y : ℚ} (hwidth : b.width ≤ |y - x|) (hmid : b.midX = (x + y) / 2) :
    min x y ≤ b.left ∧ b.right ≤ max x y := by
  rw [Box.midX_eq] at hmid
  rw [Box.width_eq] at hwidth
  rcases le_total x y with h | h
  · rw [abs_of_nonneg (sub_nonneg.mpr h)] at hwidth
    rw [min_eq_left h, max_eq_right h]
    constructor <;> linarith
  · rw [abs_of_nonpos (sub_nonpos.mpr h)] at hwidth
    rw [min_eq_right h, max_eq_left h]
    constructor <;> linarith

/-- What a layout gives the messages of the statements that its diagram was linked from. -/
structure Roomy (ss : List Numbered) (style : Style ℚ) (m : TextMetrics ℚ) (d : Diagram) (p : Placement ℚ) : Prop where
  labels : p.labels.length = d.actors.length
  deltas : p.deltas.length = d.actors.length
  events : p.events.length = d.events.length
  /-- Actors are numbered as their names are first mentioned. -/
  order : d.names = (mentioned ss).eraseDups
  upright : ∀ i < d.actors.length, (p.labelBox i).Upright
  /-- An earlier actor stands to the left of a later one, the padding between their labels. -/
  apart : ∀ i j, i < j → j < d.actors.length → (p.labelBox i).right + style.minPaddingX ≤ (p.labelBox j).left
  /-- The box of a message is as wide as it was measured. -/
  width : ∀ k e, d.events[k]? = some e → e.action.isMessage → (p.eventBox k).width = (eventSize style m e.action).width
  /-- Between two actors it lies in the middle between their lifelines, which leave its width. -/
  between : ∀ (k : Nat) line arrow source destination text activation,
    d.events[k]? = some ⟨line, .message arrow source destination text activation⟩ → source ≠ destination →
      source < d.actors.length ∧ destination < d.actors.length ∧
      (p.eventBox k).width ≤ |(p.labelBox destination).midX - (p.labelBox source).midX| ∧
      min (p.labelBox source).midX (p.labelBox destination).midX ≤ (p.eventBox k).left ∧
      (p.eventBox k).right ≤ max (p.labelBox source).midX (p.labelBox destination).midX ∧
      (p.eventBox k).midX = ((p.labelBox source).midX + (p.labelBox destination).midX) / 2
  /-- From an actor to itself it begins at the lifeline and ends no later than the next. -/
  beside : ∀ (k : Nat) line arrow actor text activation,
    d.events[k]? = some ⟨line, .message arrow actor actor text activation⟩ →
      actor < d.actors.length ∧ (p.eventBox k).left = (p.labelBox actor).midX ∧
      (actor + 1 < d.actors.length → (p.eventBox k).right ≤ (p.labelBox (actor + 1)).midX)
  first : ∀ delta, p.deltas[0]? = some delta → delta = 0
  /-- Any other delta is the least gap, or the even share of a message over it. -/
  other : ∀ i delta, 0 < i → p.deltas[i]? = some delta → delta = style.minPaddingX ∨
    ∃ e ∈ d.events, ∃ lo hi, Spans d.actors.length e.action lo hi ∧ lo < i ∧ i ≤ hi ∧
      delta = (eventSize style m e.action).width / (hi - lo)

/-- The lifelines of a message between two actors are at least its width apart. -/
theorem width_le_abs (hs : style.NonNegative) (hm : m.NonNegative style) {line : Nat} {arrow : Arrow}
    {source destination : Nat} {text : String} {activation : Option Nat}
    (he : ⟨line, .message arrow source destination text activation⟩ ∈ d.events) (hne : source ≠ destination)
    (hsource : source < d.actors.length) (hdestination : destination < d.actors.length) :
    (eventSize style m (.message arrow source destination text activation)).width ≤
      |((d.place style m).labelBox destination).midX - ((d.place style m).labelBox source).midX| := by
  have hroom := room_of_spans hs hm he (.between arrow text activation hne) (max_lt hsource hdestination)
  rcases lt_or_gt_of_ne hne with hlt | hgt
  · rw [max_eq_right hlt.le, min_eq_left hlt.le] at hroom
    exact hroom.trans (le_abs_self _)
  · rw [max_eq_left hgt.le, min_eq_right hgt.le] at hroom
    rw [abs_sub_comm]
    exact hroom.trans (le_abs_self _)

end Layout

open Layout in
/-- In every layout of a linked diagram every message has the room it was measured to need. -/
theorem Diagram.roomy_of_build {ss : List Numbered} {d : Diagram} {style : Style ℚ} {m : TextMetrics ℚ}
    (h : build ss = .ok d) (hs : style.NonNegative) (hm : m.NonNegative style) :
    Roomy ss style m d (d.place style m) := by
  have hlined := linedUp_place hs hm d
  have hstacked := stacked_place hs hm d
  have hanchored := anchored_place hs hm (resolved_of_build h)
  refine ⟨hlined.labels, hlined.deltas, hstacked.length, names_of_build h, hlined.upright,
    fun i j hij hj => hlined.right_add_le hs hij hj, hanchored.width,
    fun k line arrow source destination text activation he hne => ?_,
    fun k line arrow actor text activation he => ?_, fun delta hdelta => ?_, fun i delta hi hdelta => ?_⟩
  · have hmem := List.mem_of_getElem? he
    have hsource := resolved_of_build h _ hmem source (by simp [Action.referenced, Action.source?])
    have hdestination := resolved_of_build h _ hmem destination (by simp [Action.referenced, Action.destination?])
    have hwidth := width_le_abs hs hm hmem hne hsource hdestination
    rw [← hanchored.width k _ he rfl] at hwidth
    have hmid := hanchored.message k line arrow source destination text activation he hne
    obtain ⟨hleft, hright⟩ := between_of_midX hwidth hmid
    exact ⟨hsource, hdestination, hwidth, hleft, hright, hmid⟩
  · have hmem := List.mem_of_getElem? he
    have hactor := resolved_of_build h _ hmem actor (by simp [Action.referenced, Action.source?])
    have hleft := hanchored.loop k line arrow actor text activation he
    refine ⟨hactor, hleft, fun hnext => ?_⟩
    have hroom := room_of_spans hs hm hmem (.beside arrow text activation hnext) hnext
    rw [← hanchored.width k _ he rfl, Box.width_eq, hleft] at hroom
    linarith
  · rcases delta_place hdelta with hzero | ⟨e, -, lo, hi, -, hlo, -⟩
    · exact hzero
    · omega
  · rcases delta_place hdelta with hleast | hshare
    · rw [if_neg (by omega)] at hleast
      exact .inl hleast
    · exact .inr hshare

open Layout in
/-- A message over two gaps, the first of which has more than its share already. -/
theorem Diagram.roomy_overlapping :
    ∃ ss, ss = [⟨1, .message "a" ⟨.solid, none⟩ "b" "a wide message"⟩,
      ⟨2, .message "c" ⟨.dashed, none⟩ "a" "over both of the gaps, in part"⟩,
      ⟨3, .message "b" ⟨.solid, none⟩ "b" "to itself"⟩, ⟨4, .message "c" ⟨.solid, none⟩ "c" "at the end"⟩] ∧
    ∃ d, build ss = .ok d ∧ d.names = ["a", "b", "c"] ∧
      (d.place .default (.fixed (8 : ℚ) 16)).deltas = [0, 162, 145] ∧
      Roomy ss .default (.fixed 8 16) d (d.place .default (.fixed 8 16)) := by
  have hm : (TextMetrics.fixed (8 : ℚ) 16).NonNegative .default :=
    TextMetrics.fixed_nonNegative (by decide) (by decide) _
  refine ⟨_, rfl, ?d, ?build, ?names, ?deltas, roomy_of_build ?build Style.default_nonNegative hm⟩
  case build => exact rfl
  case names => rfl
  case deltas => decide +kernel

end SequenceDiagram
