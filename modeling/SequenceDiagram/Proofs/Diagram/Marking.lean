/-
  SequenceDiagram.Proofs.Diagram.Marking — what a step does to the activations.

  For one actor the marks of a diagram are a run of brackets: a start mark opens for its
  receiver, an end mark closes for its sender (`Action.role`). What an actor holds is two
  lists of numbers, the activations open and all it ever had (`stackOf`, `ownedBy`); an
  actor not registered yet holds nothing, so registering changes neither.

  A step leaves the activations alone, or starts one for the receiver, or ends the last
  one its sender has open (`Diagram.Step`).
-/

import SequenceDiagram.Proofs.Diagram.Linking

namespace SequenceDiagram

/-! ## Marks as brackets -/

/-- The bracket an event is for an actor. -/
def Action.role (actor : Nat) : Action → Option Bracket
  | .message ⟨_, some .start⟩ _ destination _ _ => if destination = actor then some .opening else none
  | .message ⟨_, some .finish⟩ source _ _ _ => if source = actor then some .closing else none
  | _ => none

theorem Action.role_opening_iff {actor : Nat} {x : Action} :
    x.role actor = some .opening ↔ x.mark? = some .start ∧ x.destination? = some actor := by
  rcases x with ⟨⟨_, _ | _ | _⟩, _, _, _, _⟩ | _ | _ | _ <;> simp [role, mark?, destination?]

theorem Action.role_closing_iff {actor : Nat} {x : Action} :
    x.role actor = some .closing ↔ x.mark? = some .finish ∧ x.source? = some actor := by
  rcases x with ⟨⟨_, _ | _ | _⟩, _, _, _, _⟩ | _ | _ | _ <;> simp [role, mark?, source?]

theorem Action.role_eq_none {actor : Nat} {x : Action} (h : x.mark? = none) : x.role actor = none := by
  rcases x with ⟨⟨_, _ | _ | _⟩, _, _, _, _⟩ | _ | _ | _ <;> simp_all [role, mark?]

namespace Diagram

/-- The run of brackets that the marks are for an actor. -/
def roles (d : Diagram) (actor : Nat) : List (Option Bracket) := d.events.map (·.action.role actor)

/-! ## What an actor holds -/

/-- A list an actor keeps; empty for an actor that is not registered. -/
def held (f : Actor → List Nat) (d : Diagram) (actor : Nat) : List Nat := (d.actors[actor]?).elim [] f

/-- The activations an actor has open, the innermost last. -/
def stackOf : Diagram → Nat → List Nat := held (·.opened.toList)

def ownedBy : Diagram → Nat → List Nat := held (·.activations)

variable {f : Actor → List Nat} {d : Diagram} {actor a : Nat}

theorem held_register (hf : ∀ name, f ⟨name, .empty, []⟩ = []) (name : String) :
    (d.register name).1.held f a = d.held f a := by
  unfold register
  split
  · rfl
  · simp only [held, List.getElem?_append]
    split
    · rfl
    · rename_i hlt
      rw [List.getElem?_eq_none (Nat.le_of_not_lt hlt), List.getElem?_singleton]
      split <;> simp [hf]

@[simp] theorem stackOf_register (name : String) : (d.register name).1.stackOf a = d.stackOf a :=
  held_register (fun _ => rfl) name

@[simp] theorem ownedBy_register (name : String) : (d.register name).1.ownedBy a = d.ownedBy a :=
  held_register (fun _ => rfl) name

theorem held_registerAll (hf : ∀ name, f ⟨name, .empty, []⟩ = []) (ns : List String) :
    (d.registerAll ns).1.held f a = d.held f a := by
  induction ns generalizing d with
  | nil => rfl
  | cons n ns ih => exact ih.trans (held_register hf n)

theorem held_modify {g : Actor → Actor} {x : Actor} (hx : d.actors[actor]? = some x) (as : List Activation) :
    held f { d with actors := d.actors.modify actor g, activations := as } a =
      if a = actor then f (g x) else d.held f a := by
  simp only [held, List.getElem?_modify]
  split
  · rename_i heq
    rw [if_pos heq.symm, ← heq, hx]
    rfl
  · rename_i hne
    rw [if_neg (Ne.symm hne)]
    cases d.actors[a]? <;> rfl

theorem held_of_actor {x : Actor} (hx : d.actors[actor]? = some x) : d.held f actor = f x := by
  rw [held, hx]
  rfl

/-! ## Starting -/

theorem peek?_eq_getLast? {α : Type} (s : Stack α) : s.peek? = s.toList.getLast? := by
  rw [Stack.peek?, Stack.toList, List.getLast?_reverse]

theorem startActivation_activations (d : Diagram) (actor : Nat) : (d.startActivation actor).1.activations =
    d.activations ++ [⟨actor, d.events.length, none, (d.stackOf actor).getLast?⟩] := by
  simp only [startActivation, stackOf, held]
  cases d.actors[actor]? with
  | none => rfl
  | some x => simp only [Option.bind_some, Option.elim_some, peek?_eq_getLast?]

theorem stackOf_startActivation (h : d.actors[actor]?.isSome) : (d.startActivation actor).1.stackOf a =
    if a = actor then d.stackOf actor ++ [d.activations.length] else d.stackOf a := by
  obtain ⟨x, hx⟩ := Option.isSome_iff_exists.mp h
  simp only [startActivation, stackOf]
  rw [held_modify hx, held_of_actor hx, Stack.toList_push]

theorem ownedBy_startActivation (h : d.actors[actor]?.isSome) : (d.startActivation actor).1.ownedBy a =
    if a = actor then d.ownedBy actor ++ [d.activations.length] else d.ownedBy a := by
  obtain ⟨x, hx⟩ := Option.isSome_iff_exists.mp h
  simp only [startActivation, ownedBy]
  rw [held_modify hx, held_of_actor hx]

/-! ## Ending -/

theorem pop?_eq_none (h : d.stackOf actor = []) : (d.actors[actor]?).bind (·.opened.pop?) = none := by
  cases hx : d.actors[actor]? with
  | none => rfl
  | some x => exact Stack.pop?_eq_none_iff.mpr ((held_of_actor hx).symm.trans h)

theorem exists_pop? (h : d.stackOf actor ≠ []) : ∃ x id rest, d.actors[actor]? = some x ∧
    x.opened.pop? = some (id, rest) ∧ d.stackOf actor = rest.toList ++ [id] := by
  cases hx : d.actors[actor]? with
  | none =>
    rw [stackOf, held, hx] at h
    exact absurd rfl h
  | some x =>
    have hstack : d.stackOf actor = x.opened.toList := held_of_actor hx
    cases hpop : x.opened.pop? with
    | none => exact absurd (hstack.trans (Stack.pop?_eq_none_iff.mp hpop)) h
    | some p => exact ⟨x, p.1, p.2, rfl, hpop, hstack.trans (Stack.toList_of_pop? hpop)⟩

theorem finishActivation_nil (h : d.stackOf actor = []) : d.finishActivation actor = (d, none) := by
  rw [finishActivation, pop?_eq_none h]

/-- An end mark closes the last activation its sender has open. -/
theorem finishActivation_cons (h : d.stackOf actor ≠ []) : ∃ id rest, d.stackOf actor = rest ++ [id] ∧
    (d.finishActivation actor).2 = some id ∧
    (d.finishActivation actor).1.activations =
      d.activations.modify id (fun x => { x with finish := some d.events.length }) ∧
    (∀ a, (d.finishActivation actor).1.stackOf a = if a = actor then rest else d.stackOf a) ∧
    (∀ a, (d.finishActivation actor).1.ownedBy a = d.ownedBy a) := by
  obtain ⟨x, id, rest, hx, hpop, hstack⟩ := exists_pop? h
  have hbind : (d.actors[actor]?).bind (·.opened.pop?) = some (id, rest) := by rw [hx]; exact hpop
  refine ⟨id, rest.toList, hstack, ?_, ?_, fun a => ?_, fun a => ?_⟩
  · rw [finishActivation, hbind]
  · rw [finishActivation, hbind]
  · rw [finishActivation, hbind]
    exact held_modify hx _
  · rw [finishActivation, hbind]
    refine (held_modify hx _).trans ?_
    split
    · rename_i heq
      exact heq ▸ (held_of_actor (f := (·.activations)) hx).symm
    · rfl

/-! ## Steps -/

/-- An event that touches no activation: without a mark, or an end mark with nothing open. -/
structure Keeps (d g : Diagram) (event : Event) : Prop where
  events : g.events = d.events ++ [event]
  activations : g.activations = d.activations
  stack : ∀ a, g.stackOf a = d.stackOf a
  owned : ∀ a, g.ownedBy a = d.ownedBy a
  unnamed : event.action.activation? = none
  no_opening : ∀ a, event.action.role a ≠ some .opening
  none_open : ∀ a, event.action.role a = some .closing → d.stackOf a = []

/-- An event that starts an activation of an actor. -/
structure Starts (d g : Diagram) (event : Event) (actor : Nat) : Prop where
  events : g.events = d.events ++ [event]
  activations : g.activations = d.activations ++ [⟨actor, d.events.length, none, (d.stackOf actor).getLast?⟩]
  stack : ∀ a, g.stackOf a = if a = actor then d.stackOf actor ++ [d.activations.length] else d.stackOf a
  owned : ∀ a, g.ownedBy a = if a = actor then d.ownedBy actor ++ [d.activations.length] else d.ownedBy a
  named : event.action.activation? = some d.activations.length
  role : ∀ a, event.action.role a = if actor = a then some .opening else none

/-- An event that ends the last activation an actor has open. -/
structure Ends (d g : Diagram) (event : Event) (actor id : Nat) (rest : List Nat) : Prop where
  events : g.events = d.events ++ [event]
  last : d.stackOf actor = rest ++ [id]
  activations : g.activations = d.activations.modify id fun x => { x with finish := some d.events.length }
  stack : ∀ a, g.stackOf a = if a = actor then rest else d.stackOf a
  owned : ∀ a, g.ownedBy a = d.ownedBy a
  named : event.action.activation? = some id
  role : ∀ a, event.action.role a = if actor = a then some .closing else none

/-- What adding a statement does to the activations of a diagram. -/
inductive Step (d g : Diagram) : Prop
  | idle : g = d → Step d g
  | keeps (event : Event) : Keeps d g event → Step d g
  | starts (event : Event) (actor : Nat) : Starts d g event actor → Step d g
  | ends (event : Event) (actor id : Nat) (rest : List Nat) : Ends d g event actor id rest → Step d g

theorem keeps_of_mark_eq_none {g : Diagram} {event : Event} (he : g.events = d.events ++ [event])
    (hacts : g.activations = d.activations) (hstack : ∀ a, g.stackOf a = d.stackOf a)
    (howned : ∀ a, g.ownedBy a = d.ownedBy a) (hact : event.action.activation? = none)
    (hmark : event.action.mark? = none) : Keeps d g event := by
  have hrole : ∀ a, event.action.role a = none := fun a => Action.role_eq_none hmark
  exact ⟨he, hacts, hstack, howned, hact, fun a => by simp [hrole], fun a => by simp [hrole]⟩

/-- A mark is applied where both names are registered already. -/
theorem step_of_applyMark {r : Diagram} {i j : Nat} (he : r.events = d.events) (ha : r.activations = d.activations)
    (hstack : ∀ a, r.stackOf a = d.stackOf a) (howned : ∀ a, r.ownedBy a = d.ownedBy a) (hj : r.actors[j]?.isSome)
    (line : Nat) (arrow : Arrow) (text : String) :
    Step d ((r.applyMark i j arrow.mark).1.addEvent line
      (.message arrow i j text (r.applyMark i j arrow.mark).2)) := by
  obtain ⟨style, mark⟩ := arrow
  have hevents : ∀ event, r.events ++ [event] = d.events ++ [event] := fun _ => congrArg (· ++ _) he
  rcases mark with _ | _ | _
  · exact .keeps _ (keeps_of_mark_eq_none (hevents _) ha hstack howned rfl rfl)
  · refine .starts _ j ⟨hevents _, ?_, fun a => ?_, fun a => ?_, congrArg some (congrArg List.length ha), fun a => rfl⟩
    · rw [← ha, ← he, ← hstack]
      exact r.startActivation_activations j
    · rw [← ha, ← hstack, ← hstack]
      exact stackOf_startActivation hj
    · rw [← ha, ← howned, ← howned]
      exact ownedBy_startActivation hj
  · by_cases hnil : r.stackOf i = []
    · have hmark : r.applyMark i j (some .finish) = (r, none) := finishActivation_nil hnil
      simp only [hmark]
      refine .keeps _ ⟨hevents _, ha, hstack, howned, rfl, fun a hrole => ?_, fun a hrole => ?_⟩
      · cases (Action.role_opening_iff.mp hrole).1
      · obtain rfl : i = a := Option.some.inj (Action.role_closing_iff.mp hrole).2
        rw [← hstack, hnil]
    · obtain ⟨id, rest, hrest, hid, hacts, hstacks, howns⟩ := finishActivation_cons hnil
      refine .ends ⟨line, .message ⟨style, some .finish⟩ i j text _⟩ i id rest
        ⟨?_, (hstack i).symm.trans hrest, ?_, fun a => ?_, fun a => ?_, hid, fun a => rfl⟩
      · exact congrArg (· ++ _) ((applyMark_events ..).trans he)
      · rw [← ha, ← he]
        exact hacts
      · rw [← hstack]
        exact hstacks a
      · rw [← howned]
        exact howns a

end Diagram

theorem Draft.step_of_add {d e : Draft} {s : Numbered} (h : d.add s = .ok e) : Diagram.Step d.diagram e.diagram := by
  obtain ⟨line, statement⟩ := s
  cases statement with
  | message source arrow destination text =>
    rw [add_message] at h
    obtain rfl := Except.ok.inj h
    exact Diagram.step_of_applyMark (by simp) (by simp) (fun a => by simp) (fun a => by simp)
      (Diagram.isSome_actor (Diagram.names_register _ destination)) line arrow text
  | note side ns text =>
    rw [add_note] at h
    obtain rfl := Except.ok.inj h
    exact .keeps ⟨line, .note side _ text⟩ (Diagram.keeps_of_mark_eq_none
      (congrArg (· ++ _) (Diagram.registerAll_events ..)) (Diagram.registerAll_activations ..)
      (fun _ => Diagram.held_registerAll (fun _ => rfl) ns) (fun _ => Diagram.held_registerAll (fun _ => rfl) ns) rfl rfl)
  | blockStart kind text =>
    cases h
    exact .keeps _ (Diagram.keeps_of_mark_eq_none rfl rfl (fun _ => rfl) (fun _ => rfl) rfl rfl)
  | otherwise text =>
    cases h
    exact .idle rfl
  | blockEnd =>
    simp only [add] at h
    split at h
    · cases h
    · cases h
      exact .keeps _ (Diagram.keeps_of_mark_eq_none rfl rfl (fun _ => rfl) (fun _ => rfl) rfl rfl)

end SequenceDiagram
