/-
  SequenceDiagram.Proofs.Stored.History — pushing only adds, and a fault adds nothing.

  A builder is pushed statements one after the other, and after a fault the next is
  pushed all the same. A push changes the builder in several places before it is done,
  and the one fault there is comes before the first of them: the number a mark is applied
  to is that of an actor just looked up, so it never names nothing. So a fault leaves no
  trace, and what is finished in the end is what building the accepted statements alone
  gives (`run_accepted`).

  Records grow as the diagrams they reflect do (`Records.Reflects.grows`). Put together,
  for any statements: `appendOnly`.
-/

import SequenceDiagram.Proofs.Diagram.History
import SequenceDiagram.Proofs.Stored.Builder

namespace SequenceDiagram.Stored

/-! ## Faults -/

namespace Builder.Reflects

variable {b : Builder} {d : Draft} {s : Numbered} {fault : Fault}

/-- A push faults where the statement cannot be added, before anything is changed. -/
theorem push_of_fault (h : b.Reflects d) (hs : (b.push s).2 = some fault) :
    b.push s = (b, some (.unmatchedEnd s.line)) := by
  cases hadd : d.add s with
  | ok e =>
    rw [(h.push_of_ok hadd).1] at hs
    cases hs
  | error f => exact h.push_of_error hadd

theorem run_accepted (h : b.Reflects d) (ss : List Numbered) :
    b.run (b.accepted ss) = .ok (b.pushAll ss) ∧
      (b.accepted ss).foldlM Draft.add d = .ok (ss.foldl Draft.addOrKeep d) := by
  induction ss generalizing b d with
  | nil => exact ⟨rfl, rfl⟩
  | cons s ss ih =>
    obtain ⟨hrun, hlink⟩ := ih (h.push s)
    cases hadd : d.add s with
    | ok e =>
      have hpush : b.push s = ((b.push s).1, none) := Prod.ext rfl (h.push_of_ok hadd).1
      have haccepted : b.accepted (s :: ss) = s :: (b.push s).1.accepted ss := by rw [Builder.accepted, hpush]
      have hkeep : d.addOrKeep s = e := by rw [Draft.addOrKeep, hadd]
      rw [hkeep] at hlink
      rw [haccepted, Builder.run, hpush, List.foldlM_cons, hadd, List.foldl_cons, hkeep]
      exact ⟨hrun, hlink⟩
    | error f =>
      have hpush := h.push_of_error hadd
      have haccepted : b.accepted (s :: ss) = b.accepted ss := by rw [Builder.accepted, hpush]
      have hkeep : d.addOrKeep s = d := by rw [Draft.addOrKeep, hadd]
      rw [hpush, hkeep] at hlink
      rw [hpush] at hrun
      rw [haccepted, List.foldl_cons, hkeep, Builder.pushAll, List.foldl_cons, hpush]
      exact ⟨hrun, hlink⟩

end Builder.Reflects

/-! ## Growing -/

/-- The second records are the first some time later: added to at the end, and written
    into only to end an activation that was open, at an event that came since. -/
structure Records.Grows (r q : Records) : Prop where
  actors : r.actors.map (fun a => (a.id, a.name)) <+: q.actors.map fun a => (a.id, a.name)
  owned : ∀ (i : Nat) a b, r.actors[i]? = some a → q.actors[i]? = some b → a.activations <+: b.activations
  events : r.events <+: q.events
  blocks : r.blocks <+: q.blocks
  activations : ∀ (k : Nat) x, r.activations[k]? = some x → ∃ y, q.activations[k]? = some y ∧
    (y = x ∨ x.finish = none ∧ ∃ e, r.events.length ≤ e ∧ y = { x with finish := some e })

theorem mapIdx_prefix {β γ : Type} (f : Nat → β → γ) {xs ys : List β} (h : xs <+: ys) : xs.mapIdx f <+: ys.mapIdx f := by
  obtain ⟨zs, rfl⟩ := h
  rw [List.mapIdx_append]
  exact List.prefix_append ..

namespace Records.Reflects

variable {r q : Records} {d g : Diagram}

theorem ids_and_names (h : r.Reflects d) :
    r.actors.map (fun a => (a.id, a.name)) = d.names.mapIdx fun i name => (i, name) := by
  apply List.ext_getElem?
  intro i
  rw [List.getElem?_map, h.actor, List.getElem?_mapIdx, Diagram.names, List.getElem?_map]
  cases d.actors[i]? <;> rfl

theorem owned (h : r.Reflects d) {i : Nat} {a : ActorRecord} (ha : r.actors[i]? = some a) :
    d.ownedBy i = a.activations := by
  rw [h.actor] at ha
  obtain ⟨x, hx, rfl⟩ := Option.map_eq_some_iff.mp ha
  exact Diagram.held_of_actor hx

theorem grows (hr : r.Reflects d) (hq : q.Reflects g) (h : d.Grows g) : r.Grows q := by
  constructor
  case actors =>
    rw [hr.ids_and_names, hq.ids_and_names]
    exact mapIdx_prefix _ h.names
  case owned =>
    intro i a b ha hb
    rw [← hr.owned ha, ← hq.owned hb]
    exact h.owned i
  case events =>
    rw [hr.events, hq.events]
    exact mapIdx_prefix _ h.events
  case blocks =>
    rw [hr.blocks, hq.blocks]
    exact h.blocks
  case activations =>
    intro k x hx
    rw [hr.activations, List.getElem?_mapIdx] at hx
    obtain ⟨w, hw, rfl⟩ := Option.map_eq_some_iff.mp hx
    obtain ⟨y, hy, hlater⟩ := h.activations k w hw
    refine ⟨activationRecord k y, ?_, ?_⟩
    · rw [hq.activations, List.getElem?_mapIdx, hy]
      rfl
    · rw [hr.length_events]
      rcases hlater with rfl | ⟨hopen, e, he, rfl⟩
      · exact .inl rfl
      · exact .inr ⟨hopen, e, he, rfl⟩

end Records.Reflects

/-! ## Any number of pushes -/

/-- What is so after pushing some statements one after the other, going on after faults. -/
structure AppendOnly (ss : List Numbered) : Prop where
  /-- A statement that faults next leaves no trace. -/
  unchanged : ∀ s fault, ((Builder.empty.pushAll ss).push s).2 = some fault →
    ((Builder.empty.pushAll ss).push s).1 = Builder.empty.pushAll ss ∧ fault = .unmatchedEnd s.line
  accepted : build (Builder.empty.accepted ss) = .ok (Builder.empty.pushAll ss).finish
  linked : Diagram.build (Builder.empty.accepted ss) = .ok (ss.foldl Draft.addOrKeep .empty).finish
  reflects : (Builder.empty.pushAll ss).Reflects (ss.foldl Draft.addOrKeep .empty)
  linkedGrows : ∀ later,
    (ss.foldl Draft.addOrKeep .empty).finish.Grows ((ss ++ later).foldl Draft.addOrKeep .empty).finish
  /-- Whatever is pushed later, with or without faults. -/
  grows : ∀ later, (Builder.empty.pushAll ss).finish.Grows (Builder.empty.pushAll (ss ++ later)).finish

theorem appendOnly (ss : List Numbered) : AppendOnly ss := by
  have hreflects := Builder.Reflects.empty.pushAll ss
  obtain ⟨hrun, hlink⟩ := Builder.Reflects.empty.run_accepted ss
  constructor
  case unchanged =>
    intro s fault hs
    have hpush := hreflects.push_of_fault hs
    rw [hpush] at hs ⊢
    exact ⟨rfl, (Option.some.inj hs).symm⟩
  case accepted =>
    rw [build, hrun]
    rfl
  case linked => exact Diagram.build_eq_ok_iff.mpr ⟨_, hlink, rfl⟩
  case reflects => exact hreflects
  case linkedGrows =>
    intro later
    rw [List.foldl_append]
    exact Draft.grows_foldl (Draft.linked_foldl .empty ss) later
  case grows =>
    intro later
    have hlater := hreflects.pushAll later
    have hall : (Builder.empty.pushAll ss).pushAll later = Builder.empty.pushAll (ss ++ later) :=
      List.foldl_append.symm
    rw [← hall]
    exact hreflects.records.grows hlater.records (Draft.grows_foldl (Draft.linked_foldl .empty ss) later)

/-- An `end` with no block open between the mark that starts an activation and the one that ends it. -/
theorem appendOnly_stray_end :
    ∃ ss later, ss = [⟨1, .message "a" ⟨.solid, some .start⟩ "b" "out"⟩, ⟨2, .blockEnd⟩] ∧
      later = [⟨3, .message "b" ⟨.solid, some .finish⟩ "a" "back"⟩] ∧ AppendOnly ss ∧
      ((Builder.empty.pushAll ss).push ⟨2, .blockEnd⟩).2 = some (.unmatchedEnd 2) ∧
      (Builder.empty.pushAll ss).finish.activations = [⟨0, 1, 0, none, none⟩] ∧
      (Builder.empty.pushAll (ss ++ later)).finish.activations = [⟨0, 1, 0, some 1, none⟩] := by
  have hpushed := appendOnly [⟨1, .message "a" ⟨.solid, some .start⟩ "b" "out"⟩, ⟨2, .blockEnd⟩]
  have hlater := appendOnly [⟨1, .message "a" ⟨.solid, some .start⟩ "b" "out"⟩, ⟨2, .blockEnd⟩,
    ⟨3, .message "b" ⟨.solid, some .finish⟩ "a" "back"⟩]
  refine ⟨_, _, rfl, rfl, hpushed, ?_, hpushed.reflects.records.activations, hlater.reflects.records.activations⟩
  rw [hpushed.reflects.push_of_error rfl]

end SequenceDiagram.Stored
