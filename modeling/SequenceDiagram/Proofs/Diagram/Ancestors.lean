/-
  SequenceDiagram.Proofs.Diagram.Ancestors — the activations around an activation.

  The parent of an activation stands before it, so going from parent to parent comes to
  an end. What is passed on the way, the innermost first, are the ancestors of the
  activation, and their number is its depth. Each is an activation of the same actor that
  started earlier and does not end before it does (`encloses_of_mem_ancestors`).

  During an event an actor is as many levels deep as its innermost activation there and
  the ancestors of that.
-/

import SequenceDiagram.Proofs.Diagram.Indices

namespace SequenceDiagram

namespace Diagram

/-- The activations around one, its parent first. -/
def ancestors (d : Diagram) (k : Nat) : List Nat :=
  match (d.activations[k]?).bind (·.parent) with
  | none => []
  | some p => if p < k then p :: d.ancestors p else []
termination_by k

def depth (d : Diagram) (k : Nat) : Nat := (d.ancestors k).length

/-- How many levels deep an actor is during an event: the innermost activation and its ancestors. -/
def level (d : Diagram) (actor event : Nat) : Nat := (d.activationAt? actor event).elim 0 (d.depth · + 1)

variable {d : Diagram} {a i k p : Nat} {x : Activation}

theorem spanned_of_build {ss : List Numbered} (h : build ss = .ok d) : d.Spanned := by
  obtain ⟨e, he, rfl⟩ := build_eq_ok_iff.mp h
  exact (Draft.linked_of_run he).spanned

namespace Spanned

theorem ancestors_of_none (hx : d.activations[k]? = some x) (hp : x.parent = none) : d.ancestors k = [] := by
  rw [ancestors, hx, Option.bind_some, hp]

theorem ancestors_of_some (h : d.Spanned) (hx : d.activations[k]? = some x) (hp : x.parent = some p) :
    d.ancestors k = p :: d.ancestors p := by
  have hlt := (h.enclosed hx hp).1
  rw [ancestors, hx, Option.bind_some, hp]
  exact if_pos hlt

theorem depth_of_none (hx : d.activations[k]? = some x) (hp : x.parent = none) : d.depth k = 0 := by
  rw [depth, ancestors_of_none hx hp]
  rfl

theorem depth_of_some (h : d.Spanned) (hx : d.activations[k]? = some x) (hp : x.parent = some p) :
    d.depth k = d.depth p + 1 := by
  rw [depth, h.ancestors_of_some hx hp]
  rfl

/-- An ancestor is of the same actor, started earlier and does not end earlier. -/
theorem encloses_of_mem_ancestors (h : d.Spanned) (hx : d.activations[k]? = some x) (hp : p ∈ d.ancestors k) :
    p < k ∧ ∃ y, d.activations[p]? = some y ∧ y.actor = x.actor ∧ y.start < x.start ∧
      ∀ j, y.finish = some j → ∃ j', x.finish = some j' ∧ j' < j := by
  induction k using Nat.strong_induction_on generalizing x with
  | h k ih =>
    cases hparent : x.parent with
    | none =>
      rw [ancestors_of_none hx hparent] at hp
      cases hp
    | some q =>
      obtain ⟨hlt, y, hy, hactor, hstart, hfinish⟩ := h.enclosed hx hparent
      rw [h.ancestors_of_some hx hparent] at hp
      rcases List.mem_cons.mp hp with rfl | hp
      · exact ⟨hlt, y, hy, hactor, hstart, hfinish⟩
      · -- an ancestor of the parent encloses the parent, which encloses the activation
        obtain ⟨hlt', z, hz, hactor', hstart', hfinish'⟩ := ih q hlt hy hp
        refine ⟨hlt'.trans hlt, z, hz, hactor'.trans hactor, hstart'.trans hstart, fun j hj => ?_⟩
        obtain ⟨i, hi, hij⟩ := hfinish' j hj
        obtain ⟨i', hi', hi'i⟩ := hfinish i hi
        exact ⟨i', hi', hi'i.trans hij⟩

/-- Ancestors are at fewer levels than what is inside them. -/
theorem depth_lt_of_mem_ancestors (h : d.Spanned) (hx : d.activations[k]? = some x) (hp : p ∈ d.ancestors k) :
    d.depth p < d.depth k := by
  induction k using Nat.strong_induction_on generalizing x with
  | h k ih =>
    cases hparent : x.parent with
    | none =>
      rw [ancestors_of_none hx hparent] at hp
      cases hp
    | some q =>
      obtain ⟨hlt, y, hy, -⟩ := h.enclosed hx hparent
      have hdepth := h.depth_of_some hx hparent
      rw [h.ancestors_of_some hx hparent] at hp
      rcases List.mem_cons.mp hp with rfl | hp
      · omega
      · have := ih q hlt hy hp
        omega

/-- The innermost activation of an actor is one of its own. -/
theorem actor_of_activationAt? (h : d.Spanned) (hk : d.activationAt? a i = some k) :
    ∃ x, d.activations[k]? = some x ∧ x.actor = a := by
  unfold activationAt? at hk
  split at hk
  · cases hk
  · rename_i actor hactor
    have howned : d.ownedBy a = actor.activations := held_of_actor hactor
    have hmem := List.mem_reverse.mp (List.mem_of_find?_eq_some hk)
    rw [← howned, h.owned, activationsOf, mem_findIdxs] at hmem
    obtain ⟨x, hx, hx'⟩ := hmem
    exact ⟨x, hx, beq_iff_eq.mp hx'⟩

end Spanned

theorem level_of_none (h : d.activationAt? a i = none) : d.level a i = 0 := by
  rw [level, h]
  rfl

theorem level_of_some (h : d.activationAt? a i = some k) : d.level a i = d.depth k + 1 := by
  rw [level, h]
  rfl

end Diagram

end SequenceDiagram
