/-
  SequenceDiagram.Proofs.Checked.Building — linking that may not touch what is not there.

  A mark is applied after its message has become an event: the receiver's or sender's
  record is changed in place, for an end mark the activation on top of the sender's stack
  as well, and then the event itself is told which activation it was. A side note is
  asserted to have one actor. At the end the first event of every block still open is
  looked up once more. Here each of these steps fails when its position is out of range
  or its assertion false.

  On the statements of a document no step fails, and the checked diagram, or the checked
  failure, is the one that linking gives (`build_eq`). Whatever was linked so far, the
  sender and the receiver of a message are registered by then and the activations on a
  stack exist (`Draft.Linked`); that a side note has one name is how notes are read
  (`Document.read_singleSided`).
-/

import SequenceDiagram.Proofs.Checked.Layout
import SequenceDiagram.Proofs.Document.Lines

namespace SequenceDiagram

/-- A note to the left or right stands beside one actor. -/
def Statement.SingleSided : Statement → Prop
  | .note side names _ => side = .over ∨ names.length = 1
  | _ => True

/-- Notes are read with one name at a side. -/
theorem Line.Says.singleSided {s : List Char} {st : Statement} (h : Line.Says s st) : st.SingleSided := by
  cases h with
  | note n hs =>
    by_cases hside : n.place.side = .over
    · exact .inl hside
    · refine .inr ?_
      show (n.names.names).length = 1
      rw [Line.NameList.names, n.single hside]
      rfl
  | _ => trivial

theorem Document.read_singleSided {text : String} {ss : List Numbered} (h : Document.read text = .ok ss) :
    ∀ s ∈ ss, s.statement.SingleSided := by
  intro s hs
  obtain ⟨l, -, hread⟩ := ((Document.read_eq_ok_iff.mp h).2.mem_iff s).mp hs
  exact (Statement.read_eq_ok_iff.mp hread).singleSided

def Action.withActivation (id : Nat) : Action → Action
  | .message arrow source destination text _ => .message arrow source destination text (some id)
  | action => action

namespace Checked

/-! ## Checked steps -/

/-- One entry changed in place. -/
def modify {β : Type} (xs : List β) (i : Nat) (f : β → β) : Option (List β) :=
  if i < xs.length then some (xs.modify i f) else none

def assert (b : Prop) [Decidable b] : Option Unit := if b then some () else none

def nameActivation (d : Diagram) (event id : Nat) : Option Diagram := do
  let events ← modify d.events event fun e => { e with action := e.action.withActivation id }
  return { d with events }

def startActivation (d : Diagram) (actor event : Nat) : Option Diagram := do
  let owner ← d.actors[actor]?
  let id := d.activations.length
  let actors ← modify d.actors actor fun a => { a with opened := a.opened.push id, activations := a.activations ++ [id] }
  let activations := d.activations ++ [⟨actor, event, none, owner.opened.peek?⟩]
  nameActivation { d with actors, activations } event id

def finishActivation (d : Diagram) (actor event : Nat) : Option Diagram := do
  let owner ← d.actors[actor]?
  match owner.opened.pop? with
  | none => do
    -- the line of the stray mark is looked up for the log
    let _ ← d.events[event]?
    return d
  | some (id, rest) => do
    let actors ← modify d.actors actor fun a => { a with opened := rest }
    let activations ← modify d.activations id fun a => { a with finish := some event }
    nameActivation { d with actors, activations } event id

def applyMark (d : Diagram) (source destination event : Nat) : Option Mark → Option Diagram
  | none => some d
  | some .start => startActivation d destination event
  | some .finish => finishActivation d source event

def add (d : Draft) (s : Numbered) : Option (Except Failure Draft) :=
  match s.statement with
  | .message source arrow destination text => do
    let (g, source) := d.diagram.register source
    let (g, destination) := g.register destination
    let event := g.events.length
    let g ← applyMark (g.addEvent s.line (.message arrow source destination text none)) source destination event arrow.mark
    return .ok { d with diagram := g }
  | .note side names text => do
    let (g, actors) := d.diagram.registerAll names
    assert (side = .over ∨ actors.length = 1)
    return .ok { d with diagram := g.addEvent s.line (.note side actors text) }
  | .blockStart .. | .otherwise _ | .blockEnd => some (d.add s)

def addAll (d : Draft) : List Numbered → Option (Except Failure Draft)
  | [] => some (.ok d)
  | s :: ss => do
    match ← add d s with
    | .ok e => addAll e ss
    | .error f => return .error f

/-- The blocks still open are dropped; each is logged with the line it began on. -/
def finish (d : Draft) : Option Diagram := do
  let _ ← d.openBlocks.topFirst.mapM fun b => d.diagram.events[b.start]?
  return d.diagram

def build (ss : List Numbered) : Option (Except Failure Diagram) := do
  match ← addAll .empty ss with
  | .ok d => do
    let g ← finish d
    return .ok g
  | .error f => return .error f

/-! ## The same diagrams -/

section

variable {d g : Diagram} {actor source destination line : Nat} {arrow : Arrow} {text : String}

theorem modify_eq {β : Type} {xs : List β} {i : Nat} (h : i < xs.length) (f : β → β) :
    modify xs i f = some (xs.modify i f) := if_pos h

theorem modify_concat_length {β : Type} (xs : List β) (x : β) (f : β → β) :
    (xs ++ [x]).modify xs.length f = xs ++ [f x] := by
  simp [List.modify_eq_set_getElem?]

/-- The event that was just added is the one that is named. -/
theorem nameActivation_eq {es : List Event}
    (hevents : g.events = es ++ [⟨line, .message arrow source destination text none⟩]) (id : Nat) :
    nameActivation g es.length id =
      some { g with events := es ++ [⟨line, .message arrow source destination text (some id)⟩] } := by
  have hlt : es.length < g.events.length := by
    rw [hevents, List.length_append, List.length_singleton]
    omega
  rw [nameActivation, modify_eq hlt, hevents, modify_concat_length]
  rfl

theorem startActivation_eq (h : d.actors[destination]?.isSome) :
    startActivation (d.addEvent line (.message arrow source destination text none)) destination d.events.length =
      some ((d.startActivation destination).1.addEvent line
        (.message arrow source destination text (d.startActivation destination).2)) := by
  obtain ⟨owner, howner⟩ := Option.isSome_iff_exists.mp h
  have hlt : destination < d.actors.length := (List.getElem?_eq_some_iff.mp howner).1
  have hparent : owner.opened.peek? = (d.actors[destination]?).bind (·.opened.peek?) := by rw [howner]; rfl
  show (d.actors[destination]?).bind _ = _
  rw [howner, Option.bind_some, hparent]
  show (modify d.actors destination _).bind _ = _
  rw [modify_eq hlt, Option.bind_some]
  exact nameActivation_eq rfl d.activations.length

theorem finishActivation_eq (hopen : ∀ k ∈ d.stackOf source, k < d.activations.length)
    (h : d.actors[source]?.isSome) :
    finishActivation (d.addEvent line (.message arrow source destination text none)) source d.events.length =
      some ((d.finishActivation source).1.addEvent line
        (.message arrow source destination text (d.finishActivation source).2)) := by
  obtain ⟨owner, howner⟩ := Option.isSome_iff_exists.mp h
  have hlt : source < d.actors.length := (List.getElem?_eq_some_iff.mp howner).1
  have hbind : (d.actors[source]?).bind (·.opened.pop?) = owner.opened.pop? := by rw [howner]; rfl
  show (d.actors[source]?).bind _ = _
  rw [howner, Option.bind_some, Diagram.finishActivation, hbind]
  cases hpop : owner.opened.pop? with
  | none =>
    show ((d.events ++ [_])[d.events.length]?).bind _ = _
    rw [List.getElem?_concat_length]
    rfl
  | some top =>
    obtain ⟨id, rest⟩ := top
    have hstack : d.stackOf source = rest.toList ++ [id] :=
      (Diagram.held_of_actor howner).trans (Stack.toList_of_pop? hpop)
    have hid : id < d.activations.length := hopen id (by rw [hstack]; simp)
    show (modify d.actors source _).bind _ = _
    rw [modify_eq hlt, Option.bind_some]
    show (modify d.activations id _).bind _ = _
    rw [modify_eq hid, Option.bind_some]
    exact nameActivation_eq rfl id

theorem applyMark_eq (hopen : ∀ k ∈ d.stackOf source, k < d.activations.length)
    (hsource : d.actors[source]?.isSome) (hdestination : d.actors[destination]?.isSome) (mark : Option Mark) :
    applyMark (d.addEvent line (.message arrow source destination text none)) source destination d.events.length mark =
      some ((d.applyMark source destination mark).1.addEvent line
        (.message arrow source destination text (d.applyMark source destination mark).2)) := by
  cases mark with
  | none => rfl
  | some mark =>
    cases mark with
    | start => exact startActivation_eq hdestination
    | finish => exact finishActivation_eq hopen hsource

end

theorem add_message (d : Draft) (line : Nat) (source : String) (arrow : Arrow) (destination text : String) :
    add d ⟨line, .message source arrow destination text⟩ =
      let s := d.diagram.register source
      let t := s.1.register destination
      (applyMark (t.1.addEvent line (.message arrow s.2 t.2 text none)) s.2 t.2 t.1.events.length arrow.mark).bind
        fun g => some (.ok { d with diagram := g }) := rfl

theorem add_eq {d : Draft} (hd : d.Linked) {s : Numbered} (hs : s.statement.SingleSided) : add d s = some (d.add s) := by
  obtain ⟨line, statement⟩ := s
  cases statement with
  | message source arrow destination text =>
    have hopen : ∀ k ∈ ((d.diagram.register source).1.register destination).1.stackOf (d.diagram.register source).2,
        k < ((d.diagram.register source).1.register destination).1.activations.length := by
      intro k hk
      rw [Diagram.stackOf_register, Diagram.stackOf_register] at hk
      rw [Diagram.register_activations, Diagram.register_activations]
      exact hd.spanned.lt_of_mem_stack hk
    have hsource := Diagram.isSome_actor (getElem?_of_extends
      (Diagram.register_extends_names _ destination) (d.diagram.names_register source))
    have hdestination := Diagram.isSome_actor (Diagram.names_register (d.diagram.register source).1 destination)
    rw [add_message, Draft.add_message]
    dsimp only
    rw [applyMark_eq hopen hsource hdestination]
    rfl
  | note side names text =>
    have hlength : (d.diagram.registerAll names).2.length = names.length := by
      have hnames := congrArg List.length (d.diagram.names_registerAll names)
      rwa [List.length_map, List.length_map] at hnames
    have hassert : side = .over ∨ (d.diagram.registerAll names).2.length = 1 := by
      rw [hlength]
      exact hs
    show (assert (side = .over ∨ (d.diagram.registerAll names).2.length = 1)).bind _ = _
    rw [assert, if_pos hassert]
    rfl
  | blockStart kind text => rfl
  | otherwise text => rfl
  | blockEnd => rfl

theorem addAll_eq {d : Draft} (hd : d.Linked) {ss : List Numbered} (hss : ∀ s ∈ ss, s.statement.SingleSided) :
    addAll d ss = some (ss.foldlM Draft.add d) := by
  induction ss generalizing d with
  | nil => rfl
  | cons s ss ih =>
    rw [addAll, add_eq hd (hss s (List.mem_cons_self ..)), List.foldlM_cons]
    cases hadd : d.add s with
    | error f => rfl
    | ok e => exact ih (hd.add hadd) fun t ht => hss t (List.mem_cons_of_mem _ ht)

theorem finish_eq {d : Draft} (hd : d.Linked) : finish d = some d.diagram := by
  have hopen : ∀ b ∈ d.openBlocks.topFirst, d.diagram.events[b.start]? =
      some (d.diagram.events.getD b.start ⟨0, .blockEnd⟩) := fun b hb => getElem?_eq_getD (hd.start_lt hb) _
  rw [finish, mapM_eq hopen]
  rfl

theorem build_eq {ss : List Numbered} (hss : ∀ s ∈ ss, s.statement.SingleSided) :
    build ss = some (Diagram.build ss) := by
  rw [build, addAll_eq .empty hss, Diagram.build]
  cases hrun : ss.foldlM Draft.add .empty with
  | error f => rfl
  | ok d =>
    show (finish d).bind _ = _
    rw [finish_eq (Draft.linked_of_run hrun)]
    rfl

end Checked

end SequenceDiagram
