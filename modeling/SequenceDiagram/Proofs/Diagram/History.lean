/-
  SequenceDiagram.Proofs.Diagram.History — what was linked stays as it was.

  A diagram grows: names, events, blocks and what an actor ever had are only added to at
  the end, and the one thing that is written into something already there is the end of
  an activation that had none, which is an event yet to come (`Diagram.Grows`). This
  holds because the activation an end mark closes is taken off its actor's stack, and a
  draft keeps on the stacks exactly the activations without an end.

  Every statement makes a draft grow (`Draft.grows_of_add`), and one that fails leaves it
  as it is. So along any statements, going on after failures, each diagram grows into
  every later one (`Draft.grows_foldl`).
-/

import SequenceDiagram.Proofs.Diagram.Indices

namespace SequenceDiagram

/-- An activation some time after there were `n` events: as it was, or ended since. -/
def Activation.Later (n : Nat) (x y : Activation) : Prop :=
  y = x ∨ x.finish = none ∧ ∃ e, n ≤ e ∧ y = { x with finish := some e }

theorem Activation.Later.trans {n k : Nat} {x y z : Activation} (hxy : x.Later n y) (hnk : n ≤ k) (hyz : y.Later k z) :
    x.Later n z := by
  rcases hxy with rfl | ⟨hopen, e, he, rfl⟩
  · rcases hyz with rfl | ⟨hopen, e, he, rfl⟩
    · exact .inl rfl
    · exact .inr ⟨hopen, e, by omega, rfl⟩
  · rcases hyz with rfl | ⟨hended, -⟩
    · exact .inr ⟨hopen, e, he, rfl⟩
    · cases hended

namespace Diagram

/-- The second diagram is the first some time later. -/
structure Grows (d g : Diagram) : Prop where
  names : d.names <+: g.names
  owned : ∀ a, d.ownedBy a <+: g.ownedBy a
  events : d.events <+: g.events
  blocks : d.blocks <+: g.blocks
  activations : ∀ (k : Nat) x, d.activations[k]? = some x →
    ∃ y, g.activations[k]? = some y ∧ x.Later d.events.length y

namespace Grows

variable {d g k : Diagram}

theorem refl (d : Diagram) : d.Grows d :=
  ⟨List.prefix_rfl, fun _ => List.prefix_rfl, List.prefix_rfl, List.prefix_rfl, fun _ x hx => ⟨x, hx, .inl rfl⟩⟩

theorem trans (h : d.Grows g) (h' : g.Grows k) : d.Grows k := by
  refine ⟨h.names.trans h'.names, fun a => (h.owned a).trans (h'.owned a), h.events.trans h'.events,
    h.blocks.trans h'.blocks, fun i x hx => ?_⟩
  obtain ⟨y, hy, hxy⟩ := h.activations i x hx
  obtain ⟨z, hz, hyz⟩ := h'.activations i y hy
  exact ⟨z, hz, hxy.trans h.events.length_le hyz⟩

/-- A mark that starts an activation or does nothing writes into none that is there. -/
theorem activations_of_extends (h : d.activations <+: g.activations) (i : Nat) (x : Activation)
    (hx : d.activations[i]? = some x) : ∃ y, g.activations[i]? = some y ∧ x.Later d.events.length y :=
  ⟨x, getElem?_of_extends h hx, .inl rfl⟩

end Grows

end Diagram

namespace Draft

variable {d e : Draft} {s : Numbered}

/-- Names and blocks are added at the end. -/
theorem names_and_blocks_of_add (hs : d.add s = .ok e) :
    d.diagram.names <+: e.diagram.names ∧ d.diagram.blocks <+: e.diagram.blocks := by
  rcases add_cases hs with ⟨text, -, rfl⟩ | ⟨g, action, -, -, rfl, -, hnames, -, hblocks⟩ | ⟨kind, text, -, rfl⟩ |
    ⟨b, rest, -, -, rfl⟩
  · exact ⟨List.prefix_rfl, List.prefix_rfl⟩
  · exact ⟨hnames, hblocks ▸ List.prefix_rfl⟩
  · exact ⟨List.prefix_rfl, List.prefix_rfl⟩
  · exact ⟨List.prefix_rfl, List.prefix_append ..⟩

theorem grows_of_add (hd : d.Linked) (hs : d.add s = .ok e) : d.diagram.Grows e.diagram := by
  obtain ⟨hnames, hblocks⟩ := names_and_blocks_of_add hs
  cases step_of_add hs with
  | idle hidle =>
    rw [hidle]
    exact .refl _
  | keeps event h =>
    refine ⟨hnames, fun a => h.owned a ▸ List.prefix_rfl, h.events ▸ List.prefix_append .., hblocks, ?_⟩
    exact Diagram.Grows.activations_of_extends (h.activations ▸ List.prefix_rfl)
  | starts event actor h =>
    refine ⟨hnames, fun a => ?_, h.events ▸ List.prefix_append .., hblocks, ?_⟩
    · have howned := h.owned a
      by_cases ha : a = actor
      · rw [if_pos ha, ← ha] at howned
        exact howned ▸ List.prefix_append ..
      · rw [if_neg ha] at howned
        exact howned ▸ List.prefix_rfl
    · exact Diagram.Grows.activations_of_extends (h.activations ▸ List.prefix_append ..)
  | ends event actor id rest h =>
    refine ⟨hnames, fun a => h.owned a ▸ List.prefix_rfl, h.events ▸ List.prefix_append .., hblocks, fun k x hx => ?_⟩
    rw [h.activations, List.getElem?_modify, hx]
    by_cases hk : id = k
    · have hstack : id ∈ d.diagram.stackOf actor := h.last ▸ List.mem_append_right rest List.mem_cons_self
      obtain ⟨y, hy, -, hopen⟩ := hd.spanned.mem_stack.mp hstack
      obtain rfl : y = x := Option.some.inj (hy.symm.trans (hk ▸ hx))
      exact ⟨_, congrArg some (if_pos hk), .inr ⟨hopen, _, Nat.le_refl _, rfl⟩⟩
    · exact ⟨_, congrArg some (if_neg hk), .inl rfl⟩

/-! ## Going on after failures -/

theorem linked_addOrKeep (hd : d.Linked) (s : Numbered) : (d.addOrKeep s).Linked := by
  unfold addOrKeep
  cases hs : d.add s with
  | ok e => exact hd.add hs
  | error f => exact hd

theorem grows_addOrKeep (hd : d.Linked) (s : Numbered) : d.diagram.Grows (d.addOrKeep s).diagram := by
  unfold addOrKeep
  cases hs : d.add s with
  | ok e => exact grows_of_add hd hs
  | error f => exact .refl _

theorem linked_foldl (hd : d.Linked) (ss : List Numbered) : (ss.foldl addOrKeep d).Linked := by
  induction ss generalizing d with
  | nil => exact hd
  | cons s ss ih => exact ih (linked_addOrKeep hd s)

theorem grows_foldl (hd : d.Linked) (ss : List Numbered) : d.diagram.Grows (ss.foldl addOrKeep d).diagram := by
  induction ss generalizing d with
  | nil => exact .refl _
  | cons s ss ih => exact (grows_addOrKeep hd s).trans (ih (linked_addOrKeep hd s))

end Draft

end SequenceDiagram
