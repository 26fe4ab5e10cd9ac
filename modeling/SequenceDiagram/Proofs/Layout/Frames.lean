/-
  SequenceDiagram.Proofs.Layout.Frames — how the frame of a block comes about.

  The content of a block is the hull of its events and of the labels it covers, padded
  (`contentBox_eq`, `contentBox_holds`). Taking in the frames nested in it and
  making room for the header only ever grow the box, so what was inside stays inside.
  Frames are made in the order of the blocks, each from the frames before it, so a fact
  about all frames follows when each has it if those before it do (`framedBlocks_induction`).
-/

import SequenceDiagram.Layout.Frames
import SequenceDiagram.Proofs.Layout.Columns
import SequenceDiagram.Proofs.Diagram.Names

namespace SequenceDiagram.Layout

variable {style : Style ℚ} {m : TextMetrics ℚ} {d : Diagram} {p : Placement ℚ} {b : Block}

/-! ## Ranges -/

/-- From the least beginning to the greatest end of some intervals. -/
def Hull (intervals : List (ℚ × ℚ)) : Option (ℚ × ℚ) → Prop
  | none => intervals = []
  | some (lo, hi) =>
    (∃ x ∈ intervals, x.1 = lo) ∧ (∃ x ∈ intervals, x.2 = hi) ∧ ∀ x ∈ intervals, lo ≤ x.1 ∧ x.2 ≤ hi

theorem Hull.stretch {intervals : List (ℚ × ℚ)} {range : Option (ℚ × ℚ)} (h : Hull intervals range) (lo hi : ℚ) :
    Hull (intervals ++ [(lo, hi)]) (stretch range lo hi) := by
  cases range with
  | none =>
    obtain rfl : intervals = [] := h
    refine ⟨⟨(lo, hi), by simp, rfl⟩, ⟨(lo, hi), by simp, rfl⟩, fun x hx => ?_⟩
    obtain rfl : x = (lo, hi) := by simpa using hx
    exact ⟨le_rfl, le_rfl⟩
  | some range =>
    obtain ⟨a, b⟩ := range
    obtain ⟨⟨x, hx, hxa⟩, ⟨y, hy, hyb⟩, hall⟩ := h
    simp only [Layout.stretch, Scalar.smaller_exact, Scalar.larger_exact]
    refine ⟨?_, ?_, fun z hz => ?_⟩
    · rcases le_total a lo with hle | hle
      · exact ⟨x, List.mem_append_left _ hx, by rw [min_eq_left hle, hxa]⟩
      · exact ⟨(lo, hi), by simp, by rw [min_eq_right hle]⟩
    · rcases le_total b hi with hle | hle
      · exact ⟨(lo, hi), by simp, by rw [max_eq_right hle]⟩
      · exact ⟨y, List.mem_append_left _ hy, by rw [max_eq_left hle, hyb]⟩
    · rcases List.mem_append.mp hz with hz | hz
      · exact ⟨(min_le_left _ _).trans (hall z hz).1, (hall z hz).2.trans (le_max_left _ _)⟩
      · obtain rfl : z = (lo, hi) := by simpa using hz
        exact ⟨min_le_right _ _, le_max_right _ _⟩

theorem hull_foldl {β : Type} (f g : β → ℚ) (bs : List β) :
    Hull (bs.map fun b => (f b, g b)) (bs.foldl (fun range b => stretch range (f b) (g b)) none) := by
  induction bs using List.reverseRecOn with
  | nil => rfl
  | append_singleton bs b ih =>
    rw [List.map_append, List.foldl_append]
    exact ih.stretch _ _

/-- A hull is told by its ends. -/
theorem Hull.eq_some {intervals : List (ℚ × ℚ)} {range : Option (ℚ × ℚ)} {x y : ℚ × ℚ} (h : Hull intervals range)
    (hx : x ∈ intervals) (hy : y ∈ intervals) (hall : ∀ z ∈ intervals, x.1 ≤ z.1 ∧ z.2 ≤ y.2) :
    range = some (x.1, y.2) := by
  cases range with
  | none =>
    obtain rfl : intervals = [] := h
    cases hx
  | some range =>
    obtain ⟨lo, hi⟩ := range
    obtain ⟨⟨first, hfirst, rfl⟩, ⟨last, hlast, rfl⟩, hcover⟩ := h
    have hlo : first.1 = x.1 := le_antisymm (hcover x hx).1 (hall first hfirst).1
    have hhi : last.2 = y.2 := le_antisymm (hall last hlast).2 (hcover y hy).2
    rw [hlo, hhi]

theorem actorRange?_eq_none_iff {actors : List Nat} : actorRange? actors = none ↔ actors = [] := by
  cases actors <;> simp [actorRange?]

theorem actorRange?_eq_some {actors : List Nat} {first last : Nat} (h : actorRange? actors = some (first, last)) :
    first ∈ actors ∧ last ∈ actors ∧ ∀ a ∈ actors, first ≤ a ∧ a ≤ last := by
  cases actors with
  | nil => cases h
  | cons a actors =>
    cases h
    obtain ⟨hfirst, hleast⟩ := List.min?_eq_some_iff.mp (@List.min?_cons' Nat a _ actors)
    obtain ⟨hlast, hgreatest⟩ := List.max?_eq_some_iff.mp (@List.max?_cons' Nat a _ actors)
    exact ⟨hfirst, hlast, fun c hc => ⟨hleast c hc, hgreatest c hc⟩⟩

/-! ## What a block holds -/

theorem mem_held {e : Event} {c : Box ℚ} : (e, c) ∈ held d p b ↔
    ∃ k, b.start ≤ k ∧ k < b.finish ∧ d.events[k]? = some e ∧ p.events[k]? = some c := by
  unfold held
  rw [List.mem_iff_getElem?]
  constructor
  · rintro ⟨i, hi⟩
    rw [List.getElem?_take] at hi
    split at hi
    · rename_i hlt
      rw [List.getElem?_drop, List.getElem?_zip_eq_some] at hi
      exact ⟨b.start + i, by omega, by omega, hi⟩
    · cases hi
  · rintro ⟨k, hstart, hfinish, hk⟩
    refine ⟨k - b.start, ?_⟩
    rw [List.getElem?_take, if_pos (by omega), List.getElem?_drop, List.getElem?_zip_eq_some]
    rwa [Nat.add_sub_cancel' hstart]

/-- The label of an actor counts for a block when an event of the block refers to the actor,
    and every label does when no event of it refers to any. -/
def Covered (d : Diagram) (events : List (Event × Box ℚ)) (a : Nat) : Prop :=
  (∃ x ∈ events, a ∈ x.1.action.referenced) ∨ (∀ x ∈ events, x.1.action.referenced = []) ∧ a < d.actors.length

theorem coveredActors?_eq_none {events : List (Event × Box ℚ)} (h : coveredActors? d.actors.length events = none)
    (a : Nat) : ¬ Covered d events a := by
  unfold coveredActors? at h
  split at h
  · cases h
  · rename_i hnone
    have hempty : ∀ x ∈ events, x.1.action.referenced = [] :=
      List.flatMap_eq_nil_iff.mp (actorRange?_eq_none_iff.mp hnone)
    split at h
    · rename_i hzero
      rintro (⟨x, hx, ha⟩ | ⟨-, ha⟩)
      · rw [hempty x hx] at ha
        cases ha
      · omega
    · cases h

theorem coveredActors?_eq_some {events : List (Event × Box ℚ)} {first last : Nat}
    (hd : ∀ x ∈ events, ∀ a ∈ x.1.action.referenced, a < d.actors.length)
    (h : coveredActors? d.actors.length events = some (first, last)) :
    first ≤ last ∧ last < d.actors.length ∧ ∀ a, Covered d events a → first ≤ a ∧ a ≤ last := by
  unfold coveredActors? at h
  split at h
  · rename_i range hrange
    obtain rfl := Option.some.inj h
    obtain ⟨hfirst, hlast, hall⟩ := actorRange?_eq_some hrange
    obtain ⟨x, hx, hlast⟩ := List.mem_flatMap.mp hlast
    have hmem : last ∈ x.1.action.referenced := hlast
    refine ⟨(hall _ hfirst).2, hd x hx last hmem, fun a ha => ?_⟩
    rcases ha with ⟨y, hy, ha⟩ | ⟨hnone, -⟩
    · exact hall a (List.mem_flatMap.mpr ⟨y, hy, ha⟩)
    · rw [hnone x hx] at hmem
      cases hmem
  · rename_i hnone
    have hempty : ∀ x ∈ events, x.1.action.referenced = [] :=
      List.flatMap_eq_nil_iff.mp (actorRange?_eq_none_iff.mp hnone)
    split at h
    · cases h
    · obtain ⟨rfl, rfl⟩ := Prod.mk.inj (Option.some.inj h)
      refine ⟨Nat.zero_le _, by omega, fun a ha => ?_⟩
      rcases ha with ⟨x, hx, ha⟩ | ⟨-, ha⟩
      · rw [hempty x hx] at ha
        cases ha
      · omega

/-- What lies in a box around a block. -/
structure Holds (style : Style ℚ) (d : Diagram) (p : Placement ℚ) (b : Block) (c : Box ℚ) : Prop where
  upright : c.Upright
  event : ∀ x ∈ held d p b, x.1.action.isBlockMarker = false → (x.2.grow style.groupPadding).Within c
  label : ∀ a, Covered d (held d p b) a →
    c.left ≤ (p.labelBox a).left - style.groupPadding ∧ (p.labelBox a).right + style.groupPadding ≤ c.right

theorem Holds.mono {c c' : Box ℚ} (h : Holds style d p b c) (hc : c.Within c') : Holds style d p b c' where
  upright := h.upright.of_within hc
  event x hx hmarker := (h.event x hx hmarker).trans hc
  label a ha := ⟨hc.left.trans (h.label a ha).1, (h.label a ha).2.trans hc.right⟩

section

variable (hs : style.NonNegative) (hm : m.NonNegative style) (hstacked : Stacked style m d p)

include hstacked in
theorem mem_held_of_getElem? {k : Nat} {e : Event} (hstart : b.start ≤ k) (hfinish : k < b.finish)
    (he : d.events[k]? = some e) : (e, p.eventBox k) ∈ held d p b :=
  mem_held.mpr ⟨k, hstart, hfinish, he, hstacked.events_getElem? he⟩

include hs hm hstacked in
/-- Rows are in order, so the first event is the topmost and the last the lowest. -/
theorem vertical?_held (hlt : b.start < b.finish) (hfinish : b.finish ≤ d.events.length) :
    vertical? (held d p b) = some ((p.eventBox b.start).top, (p.eventBox (b.finish - 1)).bottom) := by
  have hhull : Hull _ (vertical? (held d p b)) := hull_foldl Box.top Box.bottom _
  have hfirst : b.start < d.events.length := by omega
  have hlast : b.finish - 1 < d.events.length := by omega
  have hmem : ∀ (k : Nat) (e : Event), b.start ≤ k → k < b.finish → d.events[k]? = some e →
      ((p.eventBox k).top, (p.eventBox k).bottom) ∈ ((held d p b).map (·.2)).map fun c => (c.top, c.bottom) := by
    intro k e hstart hk he
    have hheld := mem_held_of_getElem? hstacked hstart hk he
    exact List.mem_map_of_mem (List.mem_map_of_mem (f := Prod.snd) hheld)
  refine hhull.eq_some (hmem b.start _ le_rfl hlt (List.getElem?_eq_getElem hfirst))
    (hmem (b.finish - 1) _ (by omega) (by omega) (List.getElem?_eq_getElem hlast)) fun z hz => ?_
  simp only [List.mem_map] at hz
  obtain ⟨_, ⟨⟨e, c⟩, hc, rfl⟩, rfl⟩ := hz
  obtain ⟨k, hstart, hk, -, hbox⟩ := mem_held.mp hc
  rw [← Placement.eventBox_eq hbox]
  exact ⟨hstacked.top_le hs hm hstart (by omega), hstacked.bottom_le hs hm (by omega) (by omega)⟩

/-- The intervals a block takes in sideways: of its messages and notes, and of the labels it covers. -/
def intervals (d : Diagram) (p : Placement ℚ) (b : Block) : List (ℚ × ℚ) :=
  (((held d p b).filter (!·.1.action.isBlockMarker)).map (·.2)).map (fun c => (c.left, c.right)) ++
    (coveredActors? d.actors.length (held d p b)).toList.map fun range =>
      ((p.labelBox range.1).left, (p.labelBox range.2).right)

theorem hull_horizontal? (d : Diagram) (p : Placement ℚ) (b : Block) :
    Hull (intervals d p b) (horizontal? d p (held d p b)) := by
  unfold intervals horizontal?
  cases coveredActors? d.actors.length (held d p b) with
  | none =>
    simp only [Option.toList_none, List.map_nil, List.append_nil]
    exact hull_foldl Box.left Box.right _
  | some range => exact (hull_foldl Box.left Box.right _).stretch _ _

/-- The sideways extent of a block before it is padded. -/
def extent (d : Diagram) (p : Placement ℚ) (b : Block) : ℚ × ℚ :=
  (horizontal? d p (held d p b)).getD ((p.eventBox b.start).left, (p.eventBox b.start).right)

theorem extent_covers {x : ℚ × ℚ} (hx : x ∈ intervals d p b) : (extent d p b).1 ≤ x.1 ∧ x.2 ≤ (extent d p b).2 := by
  have hhull := hull_horizontal? d p b
  unfold extent
  cases h : horizontal? d p (held d p b) with
  | none =>
    rw [h] at hhull
    rw [Hull] at hhull
    rw [hhull] at hx
    cases hx
  | some range =>
    rw [h] at hhull
    exact hhull.2.2 x hx

theorem resolved_held (hd : d.Resolved) {x : Event × Box ℚ} (hx : x ∈ held d p b) {a : Nat}
    (ha : a ∈ x.1.action.referenced) : a < d.actors.length := by
  obtain ⟨k, -, -, he, -⟩ := mem_held.mp hx
  exact hd x.1 (List.mem_of_getElem? he) a ha

include hs in
/-- A covered label lies in the interval from the first to the last covered label. -/
theorem interval_of_covered (hlined : LinedUp style m d p) (hd : d.Resolved) {a : Nat}
    (ha : Covered d (held d p b) a) :
    ∃ x ∈ intervals d p b, x.1 ≤ (p.labelBox a).left ∧ (p.labelBox a).right ≤ x.2 := by
  cases h : coveredActors? d.actors.length (held d p b) with
  | none => exact absurd ha (coveredActors?_eq_none h a)
  | some range =>
    obtain ⟨first, last⟩ := range
    obtain ⟨-, hlast, hall⟩ := coveredActors?_eq_some (fun x hx _ => resolved_held hd hx) h
    obtain ⟨hfirst, hlast'⟩ := hall a ha
    refine ⟨((p.labelBox first).left, (p.labelBox last).right), ?_, hlined.left_le hs hfirst (by omega),
      hlined.right_le hs hlast' hlast⟩
    unfold intervals
    rw [h]
    exact List.mem_append_right _ (List.mem_singleton_self _)

include hstacked in
theorem upright_of_held {x : Event × Box ℚ} (h : x ∈ held d p b) : x.2.Upright := by
  obtain ⟨k, -, -, he, hbox⟩ := mem_held.mp h
  rw [← Placement.eventBox_eq hbox]
  exact hstacked.upright k _ he

include hs hstacked in
theorem interval_le (hlined : LinedUp style m d p) (hd : d.Resolved) {x : ℚ × ℚ} (hx : x ∈ intervals d p b) :
    x.1 ≤ x.2 := by
  unfold intervals at hx
  rcases List.mem_append.mp hx with hx | hx
  · simp only [List.mem_map, List.mem_filter] at hx
    obtain ⟨_, ⟨y, ⟨hy, -⟩, rfl⟩, rfl⟩ := hx
    exact (upright_of_held hstacked hy).horizontal
  · obtain ⟨⟨first, last⟩, h, rfl⟩ := List.mem_map.mp hx
    obtain ⟨hle, hlast, -⟩ := coveredActors?_eq_some (fun x hx _ => resolved_held hd hx) (Option.mem_toList.mp h)
    exact (hlined.upright first (by omega)).horizontal.trans (hlined.right_le hs hle hlast)

include hs hstacked in
theorem extent_le (hlined : LinedUp style m d p) (hd : d.Resolved) (hlt : b.start < b.finish)
    (hfinish : b.finish ≤ d.events.length) : (extent d p b).1 ≤ (extent d p b).2 := by
  cases h : intervals d p b with
  | nil =>
    have hhull := hull_horizontal? d p b
    have hstart : b.start < d.events.length := by omega
    unfold extent
    cases hrange : horizontal? d p (held d p b) with
    | none => exact (hstacked.upright b.start _ (List.getElem?_eq_getElem hstart)).horizontal
    | some range =>
      rw [hrange, h] at hhull
      obtain ⟨⟨x, hx, -⟩, -⟩ := hhull
      cases hx
  | cons x rest =>
    have hx : x ∈ intervals d p b := h ▸ List.mem_cons_self
    obtain ⟨hleft, hright⟩ := extent_covers hx
    exact hleft.trans ((interval_le hs hstacked hlined hd hx).trans hright)

include hs hm hstacked in
theorem top_le_bottom (hlt : b.start < b.finish) (hfinish : b.finish ≤ d.events.length) :
    (p.eventBox b.start).top ≤ (p.eventBox (b.finish - 1)).bottom := by
  have hlast : b.finish - 1 < d.events.length := by omega
  have hrows := hstacked.top_le hs hm (by omega : b.start ≤ b.finish - 1) hlast
  exact hrows.trans (hstacked.upright _ _ (List.getElem?_eq_getElem hlast)).vertical

include hs hm hstacked in
theorem contentBox_eq (hlined : LinedUp style m d p) (hd : d.Resolved) (hlt : b.start < b.finish)
    (hfinish : b.finish ≤ d.events.length) : contentBox style d p b =
      ⟨(extent d p b).1 - style.groupPadding, (p.eventBox b.start).top - style.groupPadding,
        (extent d p b).2 + style.groupPadding, (p.eventBox (b.finish - 1)).bottom + style.groupPadding⟩ := by
  have hpad := hs.groupPadding
  have hx := extent_le hs hstacked hlined hd hlt hfinish
  have hy := top_le_bottom hs hm hstacked hlt hfinish
  have hwide : (extent d p b).1 - style.groupPadding ≤ (extent d p b).2 + style.groupPadding := by linarith
  have hhigh : (p.eventBox b.start).top - style.groupPadding ≤
      (p.eventBox (b.finish - 1)).bottom + style.groupPadding := by linarith
  simp only [contentBox, vertical?_held hs hm hstacked hlt hfinish, Option.getD_some]
  exact Box.ofCorners_eq hwide hhigh

include hs hm hstacked in
theorem contentBox_span (hlined : LinedUp style m d p) (hd : d.Resolved) (hlt : b.start < b.finish)
    (hfinish : b.finish ≤ d.events.length) :
    (contentBox style d p b).top = (p.eventBox b.start).top - style.groupPadding ∧
      (contentBox style d p b).bottom = (p.eventBox (b.finish - 1)).bottom + style.groupPadding := by
  rw [contentBox_eq hs hm hstacked hlined hd hlt hfinish]
  exact ⟨rfl, rfl⟩

include hs hm hstacked in
/-- The content of a block goes around its events and the labels it covers. -/
theorem contentBox_holds (hlined : LinedUp style m d p) (hd : d.Resolved) (hlt : b.start < b.finish)
    (hfinish : b.finish ≤ d.events.length) : Holds style d p b (contentBox style d p b) := by
  have hpad := hs.groupPadding
  have hx := extent_le hs hstacked hlined hd hlt hfinish
  have hy := top_le_bottom hs hm hstacked hlt hfinish
  have hlast : b.finish - 1 < d.events.length := by omega
  rw [contentBox_eq hs hm hstacked hlined hd hlt hfinish]
  refine ⟨⟨?_, ?_⟩, fun x hx hmarker => ?_, fun a ha => ?_⟩
  · show _ - _ ≤ _ + _
    linarith
  · show _ - _ ≤ _ + _
    linarith
  · have hinterval : (x.2.left, x.2.right) ∈ intervals d p b := by
      have hkept : x ∈ (held d p b).filter (!·.1.action.isBlockMarker) :=
        List.mem_filter.mpr ⟨hx, by rw [hmarker]; rfl⟩
      exact List.mem_append_left _ (List.mem_map_of_mem (List.mem_map_of_mem (f := Prod.snd) hkept))
    obtain ⟨hleft, hright⟩ := extent_covers hinterval
    obtain ⟨k, hstart, hk, he, hbox⟩ := mem_held.mp hx
    have htop := hstacked.top_le hs hm hstart (by omega : k < d.events.length)
    have hbottom := hstacked.bottom_le hs hm (by omega : k ≤ b.finish - 1) hlast
    rw [Placement.eventBox_eq hbox] at htop hbottom
    rw [(upright_of_held hstacked hx).grow_eq hpad]
    exact ⟨sub_le_sub_right hleft _, sub_le_sub_right htop _, add_le_add_left hright _, add_le_add_left hbottom _⟩
  · obtain ⟨x, hx, hleft, hright⟩ := interval_of_covered hs hlined hd ha
    obtain ⟨hleft', hright'⟩ := extent_covers hx
    exact ⟨sub_le_sub_right (hleft'.trans hleft) _, add_le_add_left (hright.trans hright') _⟩

end

/-! ## Inner frames and headers -/

section

variable {outer : Block} {inner : Block × Frame ℚ} {before : List (Block × Frame ℚ)} {c : Box ℚ} {label : BlockLabel ℚ}

theorem within_takeIn (hc : c.Upright) (outer : Block) (inner : Block × Frame ℚ) :
    c.Within (takeIn style outer c inner) := by
  unfold takeIn
  split
  · exact hc.within_join_left _
  · exact .refl c

theorem within_foldl_takeIn (hc : c.Upright) (outer : Block) (before : List (Block × Frame ℚ)) :
    c.Within (before.foldl (takeIn style outer) c) := by
  induction before generalizing c with
  | nil => exact .refl c
  | cons inner before ih =>
    have hstep : c.Within (takeIn style outer c inner) := within_takeIn hc outer inner
    exact hstep.trans (ih (hc.of_within hstep))

/-- A frame nested in a block is taken in with its margin. -/
theorem inner_within_foldl_takeIn (hc : c.Upright) (hmem : inner ∈ before) (hin : Inside inner.1 outer) :
    (inner.2.box.grow style.blockMargin).Within (before.foldl (takeIn style outer) c) := by
  induction before generalizing c with
  | nil => cases hmem
  | cons first before ih =>
    have hstep : c.Within (takeIn style outer c first) := within_takeIn hc outer first
    have hnext := hc.of_within hstep
    rcases List.mem_cons.mp hmem with rfl | hmem
    · have htaken : (inner.2.box.grow style.blockMargin).Within (takeIn style outer c inner) := by
        unfold takeIn
        rw [if_pos hin]
        exact hc.within_join_right _
      exact htaken.trans (within_foldl_takeIn hnext outer before)
    · exact ih hnext hmem

/-- Nested frames that lie between the top and the bottom move neither. -/
theorem foldl_takeIn_vertical (hc : c.Upright) (h : ∀ x ∈ before, Inside x.1 outer →
      c.top ≤ (x.2.box.grow style.blockMargin).top ∧ (x.2.box.grow style.blockMargin).bottom ≤ c.bottom) :
    (before.foldl (takeIn style outer) c).top = c.top ∧ (before.foldl (takeIn style outer) c).bottom = c.bottom := by
  induction before generalizing c with
  | nil => exact ⟨rfl, rfl⟩
  | cons first before ih =>
    have hstep : (takeIn style outer c first).top = c.top ∧ (takeIn style outer c first).bottom = c.bottom := by
      unfold takeIn
      split
      · rename_i hin
        obtain ⟨htop, hbottom⟩ := h first List.mem_cons_self hin
        rw [hc.join_eq]
        exact ⟨min_eq_left htop, max_eq_left hbottom⟩
      · exact ⟨rfl, rfl⟩
    have hgrown : c.Within (takeIn style outer c first) := within_takeIn hc outer first
    have hnext := hc.of_within hgrown
    have hrest := ih hnext fun x hx hin => by
      rw [hstep.1, hstep.2]
      exact h x (List.mem_cons_of_mem _ hx) hin
    exact ⟨hrest.1.trans hstep.1, hrest.2.trans hstep.2⟩

theorem within_fitHeader (style : Style ℚ) (label : BlockLabel ℚ) (c : Box ℚ) : c.Within (fitHeader style label c) := by
  refine ⟨le_rfl, le_rfl, ?_, ?_⟩
  · show c.right ≤ if c.width < label.width then c.left + label.width else c.right
    split
    · rename_i h
      rw [Box.width_eq] at h
      linarith
    · exact le_rfl
  · show c.bottom ≤ if c.height < label.headerHeight + style.groupPadding
      then c.top + label.headerHeight + style.groupPadding else c.bottom
    split
    · rename_i h
      rw [Box.height_eq] at h
      linarith
    · exact le_rfl

/-- A box that has room for the header keeps its bottom. -/
theorem bottom_fitHeader (h : label.headerHeight + style.groupPadding ≤ c.height) :
    (fitHeader style label c).bottom = c.bottom := if_neg (not_lt.mpr h)

end

/-! ## Frame after frame -/

/-- The blocks with their frames. -/
def framedBlocks (style : Style ℚ) (m : TextMetrics ℚ) (d : Diagram) (p : Placement ℚ) : List (Block × Frame ℚ) :=
  d.blocks.foldl (fun before b => before ++ [(b, frame style m d p before b)]) []

theorem framedBlocks_getElem? (k : Nat) : (framedBlocks style m d p)[k]? =
    d.blocks[k]?.map fun b => (b, frame style m d p ((framedBlocks style m d p).take k) b) :=
  foldl_snoc_getElem? (fun before b => (b, frame style m d p before b)) d.blocks k

/-- What every frame has when those before it have it, all frames have. -/
theorem framedBlocks_induction {P : Block → Frame ℚ → Prop}
    (h : ∀ k b, d.blocks[k]? = some b → (∀ x ∈ (framedBlocks style m d p).take k, P x.1 x.2) →
      P b (frame style m d p ((framedBlocks style m d p).take k) b)) :
    ∀ x ∈ framedBlocks style m d p, P x.1 x.2 := by
  have hall : ∀ (k : Nat) x, (framedBlocks style m d p)[k]? = some x → P x.1 x.2 := by
    intro k
    induction k using Nat.strong_induction_on with
    | h k ih =>
      intro x hx
      rw [framedBlocks_getElem?] at hx
      obtain ⟨b, hb, rfl⟩ := Option.map_eq_some_iff.mp hx
      refine h k b hb fun y hy => ?_
      obtain ⟨i, hi⟩ := List.mem_iff_getElem?.mp hy
      rw [List.getElem?_take] at hi
      split at hi
      · rename_i hlt
        exact ih i hlt y hi
      · cases hi
  intro x hx
  obtain ⟨k, hk⟩ := List.mem_iff_getElem?.mp hx
  exact hall k x hk

end SequenceDiagram.Layout
