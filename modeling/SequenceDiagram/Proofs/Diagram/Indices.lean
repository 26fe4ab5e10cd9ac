/-
  SequenceDiagram.Proofs.Diagram.Indices — every number in a diagram names something.

  The parts of a diagram refer to each other by position: events to actors and to the
  activation they start or end, activations to their actor, their two events and their
  parent, actors to the activations they have open and ever had, blocks to their two
  events. In a linked diagram every such number is below the length of the list it is a
  position in, a parent stands before its activation, and a block is a range of events
  that is not empty (`Diagram.Indexed`).

  A draft keeps the two invariants this comes from, of its activations and of its blocks
  (`Draft.Linked`), so it holds between any two statements as well.
-/

import SequenceDiagram.Proofs.Diagram.Activations
import SequenceDiagram.Proofs.Diagram.Blocks
import SequenceDiagram.Proofs.Diagram.Names

namespace SequenceDiagram

/-- Every position that a part of a diagram refers to is there. -/
structure Diagram.Indexed (d : Diagram) : Prop where
  referenced : ∀ e ∈ d.events, ∀ a ∈ e.action.referenced, a < d.actors.length
  named : ∀ e ∈ d.events, ∀ k, e.action.activation? = some k → k < d.activations.length
  actor : ∀ x ∈ d.activations, x.actor < d.actors.length
  start : ∀ x ∈ d.activations, x.start < d.events.length
  finish : ∀ x ∈ d.activations, ∀ j, x.finish = some j → j < d.events.length
  parent : ∀ (k : Nat) x, d.activations[k]? = some x → ∀ p, x.parent = some p → p < k
  opened : ∀ a ∈ d.actors, ∀ k ∈ a.opened.toList, k < d.activations.length
  owned : ∀ a ∈ d.actors, ∀ k ∈ a.activations, k < d.activations.length
  block : ∀ b ∈ d.blocks, b.start < b.finish ∧ b.finish < d.events.length

/-! ## Between two statements -/

/-- What every draft keeps of its activations and its blocks. -/
structure Draft.Linked (d : Draft) : Prop where
  spanned : d.diagram.Spanned
  nested : Draft.Nested d

namespace Draft.Linked

variable {d e : Draft} {s : Numbered}

theorem empty : Linked Draft.empty := ⟨.empty, .empty⟩

theorem add (h : Linked d) (hs : d.add s = .ok e) : Linked e :=
  ⟨h.spanned.step (step_of_add hs), h.nested.add hs⟩

/-- The event an open block began with. -/
theorem start_lt (h : Linked d) {b : OpenBlock} (hb : b ∈ d.openBlocks.topFirst) : b.start < d.diagram.events.length := by
  obtain ⟨line, hline⟩ := h.nested.opened b hb
  exact (List.getElem?_eq_some_iff.mp hline).1

end Draft.Linked

theorem Draft.linked_of_run {ss : List Numbered} {d : Draft} (h : ss.foldlM Draft.add .empty = .ok d) : d.Linked :=
  run_induction (P := fun _ => Linked) .empty (fun _ _ _ _ hd hs => hd.add hs) h

/-! ## After the last -/

namespace Diagram

variable {d : Diagram} {a k : Nat}

theorem Spanned.lt_of_mem_stack (h : d.Spanned) (hk : k ∈ d.stackOf a) : k < d.activations.length := by
  obtain ⟨x, hx, -⟩ := h.mem_stack.mp hk
  exact (List.getElem?_eq_some_iff.mp hx).1

theorem Spanned.lt_of_mem_owned (h : d.Spanned) (hk : k ∈ d.ownedBy a) : k < d.activations.length := by
  rw [h.owned, activationsOf, mem_findIdxs] at hk
  obtain ⟨x, hx, -⟩ := hk
  exact (List.getElem?_eq_some_iff.mp hx).1

/-- The actor of an activation received the mark that started it. -/
theorem Spanned.actor_lt (h : d.Spanned) (hd : d.Resolved) {x : Activation} (hx : d.activations[k]? = some x) :
    x.actor < d.actors.length := by
  have hopening := (h.started x.actor x.start).mpr ⟨k, x, hx, rfl, rfl⟩
  rw [roles, List.getElem?_map] at hopening
  obtain ⟨e, he, hrole⟩ := Option.map_eq_some_iff.mp hopening
  have hdestination := (Action.role_opening_iff.mp hrole).2
  apply hd e (List.mem_of_getElem? he)
  simp [Action.referenced, hdestination]

theorem indexed_of_build {ss : List Numbered} (h : build ss = .ok d) : d.Indexed := by
  have hresolved := resolved_of_build h
  obtain ⟨e, he, rfl⟩ := build_eq_ok_iff.mp h
  have hlinked := Draft.linked_of_run he
  have hspanned := hlinked.spanned
  have hbracketed := hlinked.nested.bracketed
  constructor
  case referenced => exact hresolved
  case named =>
    intro event hevent k hk
    obtain ⟨i, hi⟩ := List.mem_iff_getElem?.mp hevent
    obtain ⟨x, hx, -⟩ := (hspanned.marked i event hi k).mp hk
    exact (List.getElem?_eq_some_iff.mp hx).1
  case actor =>
    intro x hx
    obtain ⟨k, hk⟩ := List.mem_iff_getElem?.mp hx
    exact hspanned.actor_lt hresolved hk
  case start =>
    intro x hx
    obtain ⟨k, hk⟩ := List.mem_iff_getElem?.mp hx
    exact hspanned.start_lt hk
  case finish =>
    intro x hx j hj
    obtain ⟨k, hk⟩ := List.mem_iff_getElem?.mp hx
    exact hspanned.finish_lt hk hj
  case parent => exact fun k x hx p hp => (hspanned.enclosed hx hp).1
  case opened =>
    intro a ha k hk
    obtain ⟨i, hi⟩ := List.mem_iff_getElem?.mp ha
    have hstack : e.diagram.stackOf i = a.opened.toList := held_of_actor hi
    exact hspanned.lt_of_mem_stack (hstack ▸ hk)
  case owned =>
    intro a ha k hk
    obtain ⟨i, hi⟩ := List.mem_iff_getElem?.mp ha
    have howned : e.diagram.ownedBy i = a.activations := held_of_actor hi
    exact hspanned.lt_of_mem_owned (howned ▸ hk)
  case block => exact fun b hb => ⟨hbracketed.lt b hb, hbracketed.finish_lt b hb⟩

end Diagram

end SequenceDiagram
