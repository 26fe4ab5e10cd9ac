/-
  SequenceDiagram.Proofs.Diagram.Activations — activations are the matching of the marks.

  For one actor the marks are a run of brackets, one position per event: start marks it
  receives, end marks it sends. Every opening of the run is the start of one activation,
  which ends where its bracket closes and stays open when it never does. An end mark with
  nothing open does nothing. The parent of an activation is the innermost one its actor
  has open when it starts, and two activations of an actor are disjoint or one strictly
  encloses the other (`ActivationsMatched`).
-/

import SequenceDiagram.Proofs.Diagram.Spans

namespace SequenceDiagram

open SequenceDiagram.Bracket (Closes)

/-- What a diagram says about the marks of the statements it was linked from. -/
structure Diagram.ActivationsMatched (ss : List Numbered) (d : Diagram) : Prop where
  /-- Every statement but `else` has its event. -/
  events : List.Forall₂ (Tells d.names) (ss.filter (!·.statement.isOtherwise)) d.events
  /-- Every start mark starts one activation, of its receiver. -/
  started : ∀ a i : Nat, (∃ (k : Nat) (x : Activation), d.activations[k]? = some x ∧ x.actor = a ∧ x.start = i) ↔
    ∃ e, d.events[i]? = some e ∧ e.action.mark? = some .start ∧ e.action.destination? = some a
  ordered : d.activations.Pairwise (·.start < ·.start)
  finish : ∀ (k : Nat) x, d.activations[k]? = some x → ∀ j, x.finish = some j ↔ Closes (d.roles x.actor) x.start j
  unended : ∀ (k : Nat) x, d.activations[k]? = some x → (x.finish = none ↔ ∀ j, ¬ Closes (d.roles x.actor) x.start j)
  parent : ∀ (k : Nat) x, d.activations[k]? = some x → x.parent = (d.openBefore x.actor x.start).getLast?
  /-- A message names the activation it starts or ends. -/
  marked : ∀ (i : Nat) e, d.events[i]? = some e → ∀ k, e.action.activation? = some k ↔
    ∃ x, d.activations[k]? = some x ∧ (x.start = i ∨ x.finish = some i)
  /-- An end mark ends the innermost activation its sender has open, if there is one. -/
  ended : ∀ (i : Nat) e a, d.events[i]? = some e → e.action.mark? = some .finish → e.action.source? = some a →
    e.action.activation? = (d.openBefore a i).getLast?
  stack : ∀ (a : Nat) y, d.actors[a]? = some y → y.opened.toList = d.openOf a
  owned : ∀ (a : Nat) y, d.actors[a]? = some y → y.activations = d.activationsOf a
  /-- The starts less the ends, an end with nothing open not counting. -/
  count : ∀ (a : Nat) y, d.actors[a]? = some y → y.opened.size = (d.roles a).foldl Bracket.tally 0
  /-- An earlier activation of an actor ends before a later one or strictly encloses it. -/
  nested : ∀ (k k' : Nat) x y, k < k' → d.activations[k]? = some x → d.activations[k']? = some y → x.actor = y.actor →
    (∃ j, x.finish = some j ∧ j < y.start) ∨
      x.start < y.start ∧ ∀ j, x.finish = some j → ∃ j', y.finish = some j' ∧ j' < j
  enclosed : ∀ (k p : Nat) x, d.activations[k]? = some x → x.parent = some p →
    p < k ∧ ∃ y, d.activations[p]? = some y ∧ y.actor = x.actor ∧ y.start < x.start ∧
      ∀ j, y.finish = some j → ∃ j', x.finish = some j' ∧ j' < j

namespace Diagram.Spanned

variable {d : Diagram} {k : Nat} {x y : Activation}

/-! ## The matching -/

theorem nested (h : Spanned d) {k' : Nat} (hlt : k < k') (hx : d.activations[k]? = some x)
    (hy : d.activations[k']? = some y) (hactor : x.actor = y.actor) :
    (∃ j, x.finish = some j ∧ j < y.start) ∨
      x.start < y.start ∧ ∀ j, x.finish = some j → ∃ j', y.finish = some j' ∧ j' < j := by
  have hstart := h.start_lt_start hx hy hlt
  cases hj : x.finish with
  | none => exact .inr ⟨hstart, nofun⟩
  | some j =>
    have hclosed := (h.finish k x hx j).mp hj
    have hopen := (h.started y.actor y.start).mpr ⟨k', y, hy, rfl, rfl⟩
    rw [← hactor] at hopen
    rcases Nat.lt_trichotomy j y.start with hbefore | heq | hinside
    · exact .inl ⟨j, rfl, hbefore⟩
    · have hclosing := hclosed.closing
      rw [heq, hopen] at hclosing
      cases hclosing
    · obtain ⟨j', hj', hclosed'⟩ := Bracket.closes_inside hclosed hopen hstart hinside
      rw [hactor] at hclosed'
      refine .inr ⟨hstart, fun m hm => ⟨j', (h.finish k' y hy j').mpr hclosed', ?_⟩⟩
      exact Option.some.inj hm ▸ hj'

theorem enclosed (h : Spanned d) {p : Nat} (hx : d.activations[k]? = some x) (hp : x.parent = some p) :
    p < k ∧ ∃ y, d.activations[p]? = some y ∧ y.actor = x.actor ∧ y.start < x.start ∧
      ∀ j, y.finish = some j → ∃ j', x.finish = some j' ∧ j' < j := by
  rw [h.parent k x hx] at hp
  obtain ⟨y, hy, hopen⟩ := mem_findIdxs.mp (List.mem_of_getLast? hp)
  simp only [Bool.and_eq_true, beq_iff_eq, decide_eq_true_eq] at hopen
  obtain ⟨⟨hactor, hstart⟩, hfinish⟩ := hopen
  have hlt : p < k := by
    rcases Nat.lt_trichotomy p k with hlt | rfl | hlt
    · exact hlt
    · obtain rfl : y = x := Option.some.inj (hy.symm.trans hx)
      exact absurd hstart (Nat.lt_irrefl _)
    · exact absurd hstart (Nat.lt_asymm (h.start_lt_start hx hy hlt))
  refine ⟨hlt, y, hy, hactor, hstart, fun j hj => ?_⟩
  rw [hj, Option.all_some, decide_eq_true_eq] at hfinish
  rcases h.nested hlt hy hx hactor with ⟨j', hj', hbefore⟩ | ⟨-, hinside⟩
  · rw [hj, Option.some.injEq] at hj'
    omega
  · exact hinside j hj

theorem matched (h : Spanned d) {ss : List Numbered}
    (hevents : List.Forall₂ (Tells d.names) (ss.filter (!·.statement.isOtherwise)) d.events) :
    ActivationsMatched ss d where
  events := hevents
  started a i := by
    rw [← h.started, roles, List.getElem?_map, Option.map_eq_some_iff]
    exact exists_congr fun e => and_congr_right fun _ => Action.role_opening_iff
  ordered := h.ordered
  finish := h.finish
  unended k x hx := by
    rw [Option.eq_none_iff_forall_ne_some]
    exact forall_congr' fun j => not_congr (h.finish k x hx j)
  parent := h.parent
  marked := h.marked
  ended i e a hi hmark hsource := h.ended i e a hi (Action.role_closing_iff.mpr ⟨hmark, hsource⟩)
  stack a y hy := (held_of_actor hy).symm.trans (h.stack a)
  owned a y hy := (held_of_actor hy).symm.trans (h.owned a)
  count a y hy := by
    have hstack : d.stackOf a = y.opened.toList := held_of_actor hy
    rw [← Bracket.length_unclosed, h.unclosed_eq, List.length_reverse, List.length_map, hstack, Stack.toList,
      List.length_reverse]
    rfl
  nested _ _ _ _ hlt hx hy hactor := h.nested hlt hx hy hactor
  enclosed _ _ _ hx hp := h.enclosed hx hp

end Diagram.Spanned

/-- The activations of every linked diagram are, actor by actor, the matching of the marks. -/
theorem Diagram.activationsMatched_of_build {ss : List Numbered} {d : Diagram} (h : build ss = .ok d) :
    ActivationsMatched ss d := by
  obtain ⟨e, he, rfl⟩ := build_eq_ok_iff.mp h
  have hspanned : Spanned e.diagram :=
    Draft.run_induction (P := fun _ e => Spanned e.diagram) .empty (fun _ _ _ _ h hs => h.step (Draft.step_of_add hs)) he
  exact hspanned.matched (Draft.tells_of_run he)

/-- An end mark too early, messages of an actor to itself, and activations inside others
    beside those of another actor, one of which never ends. -/
theorem Diagram.activationsMatched_interleaved :
    ∃ ss, ss = [⟨1, .message "a" ⟨.solid, some .finish⟩ "b" ""⟩, ⟨2, .message "a" ⟨.solid, some .start⟩ "b" ""⟩,
      ⟨3, .message "b" ⟨.solid, some .start⟩ "b" ""⟩, ⟨4, .message "b" ⟨.dashed, some .start⟩ "a" ""⟩,
      ⟨5, .otherwise ""⟩, ⟨6, .message "b" ⟨.solid, some .finish⟩ "b" ""⟩, ⟨7, .note .over ["c"] ""⟩,
      ⟨8, .message "b" ⟨.dashed, some .finish⟩ "a" ""⟩, ⟨9, .message "c" ⟨.solid, some .start⟩ "b" ""⟩] ∧
    ∃ d, build ss = .ok d ∧
      d.activations = [⟨1, 1, some 6, none⟩, ⟨1, 2, some 4, some 0⟩, ⟨0, 3, none, none⟩, ⟨1, 7, none, none⟩] ∧
      d.ActivationsMatched ss :=
  ⟨_, rfl, _, rfl, rfl, activationsMatched_of_build rfl⟩

end SequenceDiagram
