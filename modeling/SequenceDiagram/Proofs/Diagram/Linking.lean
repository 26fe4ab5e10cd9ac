/-
  SequenceDiagram.Proofs.Diagram.Linking — what adding one statement does to a draft.

  Every statement but `else` adds one event at the end, which tells what the statement
  said with names turned into actors (`Tells`). Registering a name leaves events,
  activations and blocks alone; a mark leaves events, blocks and names alone; only the
  block markers touch blocks. `Draft.add_cases` says what a step can do, and a property
  that steps keep holds after every run (`Draft.run_induction`).
-/

import Mathlib.Data.List.Forall2
import Mathlib.Data.List.Induction
import SequenceDiagram.Diagram.Draft
import SequenceDiagram.Proofs.Diagram.Bracket

namespace SequenceDiagram

theorem getElem?_of_extends {α : Type} {xs ys : List α} {i : Nat} {a : α} (h : xs <+: ys) (ha : xs[i]? = some a) :
    ys[i]? = some a := by
  obtain ⟨zs, rfl⟩ := h
  rw [List.getElem?_append_left (List.getElem?_eq_some_iff.mp ha).1, ha]

/-! ## Block markers -/

/-- The bracket a block marker is. -/
def Statement.bracket? : Statement → Option Bracket
  | .blockStart .. => some .opening
  | .blockEnd => some .closing
  | _ => none

def Statement.isOtherwise : Statement → Bool
  | .otherwise _ => true
  | _ => false

def Action.bracket? : Action → Option Bracket
  | .blockStart .. => some .opening
  | .blockEnd => some .closing
  | _ => none

theorem Action.bracket?_closing {a : Action} : a.bracket? = some .closing ↔ a = .blockEnd := by
  cases a <;> simp [bracket?]

namespace Diagram

/-! ## Registering names -/

def names (d : Diagram) : List String := d.actors.map (·.name)

@[simp] theorem register_events (d : Diagram) (name : String) : (d.register name).1.events = d.events := by
  unfold register; split <;> rfl

@[simp] theorem register_activations (d : Diagram) (name : String) :
    (d.register name).1.activations = d.activations := by
  unfold register; split <;> rfl

@[simp] theorem register_blocks (d : Diagram) (name : String) : (d.register name).1.blocks = d.blocks := by
  unfold register; split <;> rfl

theorem register_extends_names (d : Diagram) (name : String) : d.names <+: (d.register name).1.names := by
  unfold register
  split
  · exact List.prefix_rfl
  · simp only [names, List.map_append]
    exact List.prefix_append _ _

/-- The actor a name is registered as has that name. -/
theorem names_register (d : Diagram) (name : String) :
    (d.register name).1.names[(d.register name).2]? = some name := by
  unfold register
  split
  · rename_i id h
    obtain ⟨hlt, hname, -⟩ := List.findIdx?_eq_some_iff_getElem.mp h
    simp only [names, List.getElem?_map, List.getElem?_eq_getElem hlt, Option.map_some, Option.some.injEq]
    simpa using hname
  · simp [names]

theorem isSome_actor {d : Diagram} {i : Nat} {name : String} (h : d.names[i]? = some name) :
    d.actors[i]?.isSome := by
  rw [names, List.getElem?_map] at h
  obtain ⟨a, ha, -⟩ := Option.map_eq_some_iff.mp h
  rw [ha]
  rfl

@[simp] theorem registerAll_events (d : Diagram) (ns : List String) : (d.registerAll ns).1.events = d.events := by
  induction ns generalizing d with
  | nil => rfl
  | cons n ns ih => exact (ih _).trans (d.register_events n)

@[simp] theorem registerAll_activations (d : Diagram) (ns : List String) :
    (d.registerAll ns).1.activations = d.activations := by
  induction ns generalizing d with
  | nil => rfl
  | cons n ns ih => exact (ih _).trans (d.register_activations n)

@[simp] theorem registerAll_blocks (d : Diagram) (ns : List String) : (d.registerAll ns).1.blocks = d.blocks := by
  induction ns generalizing d with
  | nil => rfl
  | cons n ns ih => exact (ih _).trans (d.register_blocks n)

theorem registerAll_extends_names (d : Diagram) (ns : List String) : d.names <+: (d.registerAll ns).1.names := by
  induction ns generalizing d with
  | nil => exact List.prefix_rfl
  | cons n ns ih => exact (d.register_extends_names n).trans (ih _)

theorem names_registerAll (d : Diagram) (ns : List String) :
    (d.registerAll ns).2.map ((d.registerAll ns).1.names[·]?) = ns.map some := by
  induction ns generalizing d with
  | nil => rfl
  | cons n ns ih =>
    have hn : ((d.register n).1.registerAll ns).1.names[(d.register n).2]? = some n :=
      getElem?_of_extends ((d.register n).1.registerAll_extends_names ns) (d.names_register n)
    exact congrArg₂ List.cons hn (ih _)

/-! ## Marks -/

theorem names_modify (actors : List Actor) (i : Nat) (f : Actor → Actor) (hf : ∀ a, (f a).name = a.name) :
    (actors.modify i f).map (·.name) = actors.map (·.name) := by
  refine List.ext_getElem? fun j => ?_
  rw [List.getElem?_map, List.getElem?_map, List.getElem?_modify]
  cases actors[j]? with
  | none => rfl
  | some a => by_cases h : i = j <;> simp [h, hf]

@[simp] theorem applyMark_events (d : Diagram) (source destination : Nat) (mark : Option Mark) :
    (d.applyMark source destination mark).1.events = d.events := by
  rcases mark with _ | _ | _
  · rfl
  · rfl
  · simp only [applyMark, finishActivation]; split <;> rfl

@[simp] theorem applyMark_blocks (d : Diagram) (source destination : Nat) (mark : Option Mark) :
    (d.applyMark source destination mark).1.blocks = d.blocks := by
  rcases mark with _ | _ | _
  · rfl
  · rfl
  · simp only [applyMark, finishActivation]; split <;> rfl

@[simp] theorem applyMark_names (d : Diagram) (source destination : Nat) (mark : Option Mark) :
    (d.applyMark source destination mark).1.names = d.names := by
  rcases mark with _ | _ | _
  · rfl
  · simp only [applyMark, startActivation, names]
    exact names_modify _ _ _ fun _ => rfl
  · simp only [applyMark, finishActivation]
    split
    · rfl
    · simp only [names]
      exact names_modify _ _ _ fun _ => rfl

end Diagram

/-! ## What an event tells -/

/-- The event a statement becomes, over the names of the actors. -/
inductive Tells (names : List String) : Numbered → Event → Prop
  | message (line : Nat) (arrow : Arrow) {source destination : String} (i j : Nat) (text : String) (a : Option Nat) :
      names[i]? = some source → names[j]? = some destination →
      Tells names ⟨line, .message source arrow destination text⟩ ⟨line, .message arrow i j text a⟩
  | note (line : Nat) (side : Side) {ns : List String} (ids : List Nat) (text : String) :
      ids.map (names[·]?) = ns.map some → Tells names ⟨line, .note side ns text⟩ ⟨line, .note side ids text⟩
  | blockStart (line : Nat) (kind : BlockKind) (text : String) :
      Tells names ⟨line, .blockStart kind text⟩ ⟨line, .blockStart kind text⟩
  | blockEnd (line : Nat) : Tells names ⟨line, .blockEnd⟩ ⟨line, .blockEnd⟩

theorem Tells.mono {names names' : List String} {s : Numbered} {e : Event} (h : Tells names s e)
    (hn : names <+: names') : Tells names' s e := by
  cases h with
  | message line arrow i j text a hi hj =>
    exact .message line arrow i j text a (getElem?_of_extends hn hi) (getElem?_of_extends hn hj)
  | note line side ids text h =>
    refine .note line side ids text ?_
    rw [← h]
    refine List.map_congr_left fun id hid => ?_
    have hsome : names[id]? ∈ ids.map (names[·]?) := List.mem_map_of_mem hid
    rw [h] at hsome
    obtain ⟨n, -, hn'⟩ := List.mem_map.mp hsome
    rw [← hn', getElem?_of_extends hn hn'.symm]
  | blockStart line kind text => exact .blockStart line kind text
  | blockEnd line => exact .blockEnd line

theorem Tells.bracket? {names : List String} {s : Numbered} {e : Event} (h : Tells names s e) :
    e.action.bracket? = s.statement.bracket? := by
  cases h <;> rfl

/-! ## Steps and runs -/

namespace Draft

/-- A message registers its sender, then its receiver, and applies its mark to the next event. -/
theorem add_message (d : Draft) (line : Nat) (source : String) (arrow : Arrow) (destination text : String) :
    d.add ⟨line, .message source arrow destination text⟩ =
      let s := d.diagram.register source
      let t := s.1.register destination
      let m := t.1.applyMark s.2 t.2 arrow.mark
      .ok { d with diagram := m.1.addEvent line (.message arrow s.2 t.2 text m.2) } := rfl

theorem add_note (d : Draft) (line : Nat) (side : Side) (ns : List String) (text : String) :
    d.add ⟨line, .note side ns text⟩ =
      .ok { d with diagram := (d.diagram.registerAll ns).1.addEvent line
                    (.note side (d.diagram.registerAll ns).2 text) } := rfl

/-- What a statement that is added does to a draft. -/
theorem add_cases {d e : Draft} {s : Numbered} (h : d.add s = .ok e) :
    (∃ text, s.statement = .otherwise text ∧ e = d) ∨
    (∃ (g : Diagram) (action : Action), s.statement.bracket? = none ∧ s.statement.isOtherwise = false ∧
      e = ⟨g.addEvent s.line action, d.openBlocks⟩ ∧ Tells g.names s ⟨s.line, action⟩ ∧
      d.diagram.names <+: g.names ∧ g.events = d.diagram.events ∧ g.blocks = d.diagram.blocks) ∨
    (∃ kind text, s.statement = .blockStart kind text ∧
      e = ⟨d.diagram.addEvent s.line (.blockStart kind text), d.openBlocks.push ⟨kind, text, d.diagram.events.length⟩⟩) ∨
    (∃ b rest, s.statement = .blockEnd ∧ d.openBlocks.pop? = some (b, rest) ∧
      e = ⟨{ d.diagram.addEvent s.line .blockEnd with
              blocks := d.diagram.blocks ++ [⟨b.kind, b.text, b.start, d.diagram.events.length⟩] }, rest⟩) := by
  obtain ⟨line, statement⟩ := s
  cases statement with
  | message source arrow destination text =>
    rw [add_message] at h
    refine .inr (.inl ⟨_, _, rfl, rfl, (Except.ok.inj h).symm, .message line arrow _ _ text _ ?_ ?_, ?_, by simp,
      by simp⟩)
    · rw [Diagram.applyMark_names]
      exact getElem?_of_extends (Diagram.register_extends_names _ _) (d.diagram.names_register source)
    · rw [Diagram.applyMark_names]
      exact Diagram.names_register _ destination
    · rw [Diagram.applyMark_names]
      exact (d.diagram.register_extends_names source).trans (Diagram.register_extends_names _ _)
  | note side ns text =>
    rw [add_note] at h
    exact .inr (.inl ⟨_, _, rfl, rfl, (Except.ok.inj h).symm, .note line side _ text (d.diagram.names_registerAll ns),
      d.diagram.registerAll_extends_names ns, by simp, by simp⟩)
  | blockStart kind text =>
    cases h
    exact .inr (.inr (.inl ⟨kind, text, rfl, rfl⟩))
  | otherwise text =>
    cases h
    exact .inl ⟨text, rfl, rfl⟩
  | blockEnd =>
    simp only [add] at h
    split at h
    · cases h
    · rename_i b rest hpop
      cases h
      exact .inr (.inr (.inr ⟨b, rest, rfl, hpop, rfl⟩))

/-- A step fails at an `end` with no block open, and nowhere else. -/
theorem add_eq_error_iff {d : Draft} {s : Numbered} {f : Failure} :
    d.add s = .error f ↔ s.statement = .blockEnd ∧ d.openBlocks.pop? = none ∧ f = .unmatchedEnd s.line := by
  obtain ⟨line, statement⟩ := s
  cases statement with
  | blockEnd =>
    simp only [add]
    cases hpop : d.openBlocks.pop? with
    | none => simp [eq_comm]
    | some p => simp
  | _ => simp [add]

theorem run_append (ss : List Numbered) (s : Numbered) :
    (ss ++ [s]).foldlM add empty = (ss.foldlM add empty).bind (·.add s) := by
  rw [List.foldlM_append]
  refine congrArg ((ss.foldlM add empty).bind ·) (funext fun d => ?_)
  rw [List.foldlM_cons]
  cases d.add s <;> rfl

/-- What holds at the start and is kept by every step holds after every run. -/
theorem run_induction {P : List Numbered → Draft → Prop} (hempty : P [] empty)
    (hadd : ∀ ss d s e, P ss d → d.add s = .ok e → P (ss ++ [s]) e) {ss : List Numbered} {d : Draft}
    (h : ss.foldlM add empty = .ok d) : P ss d := by
  induction ss using List.reverseRecOn generalizing d with
  | nil =>
    cases h
    exact hempty
  | append_singleton ss s ih =>
    rw [run_append] at h
    cases hd : ss.foldlM add empty with
    | error f => rw [hd] at h; cases h
    | ok d' => exact hadd ss d' s d (ih hd) (by rwa [hd] at h)

/-- Every statement but `else` has its event. -/
theorem tells_of_run {ss : List Numbered} {d : Draft} (h : ss.foldlM add empty = .ok d) :
    List.Forall₂ (Tells d.diagram.names) (ss.filter (!·.statement.isOtherwise)) d.diagram.events := by
  refine run_induction (P := fun ss d => List.Forall₂ (Tells d.diagram.names) (ss.filter (!·.statement.isOtherwise))
    d.diagram.events) .nil (fun ss d s e ih hs => ?_) h
  have hnext : ∀ {g : Diagram} {event : Event}, d.diagram.names <+: g.names → s.statement.isOtherwise = false →
      g.events = d.diagram.events ++ [event] → Tells g.names s event →
      List.Forall₂ (Tells g.names) ((ss ++ [s]).filter (!·.statement.isOtherwise)) g.events := by
    intro g event hn ho he ht
    have hkept : [s].filter (!·.statement.isOtherwise) = [s] := by simp [ho]
    rw [List.filter_append, hkept, he]
    exact List.rel_append (ih.imp fun _ _ ht => ht.mono hn) (.cons ht .nil)
  rcases add_cases hs with ⟨text, ho, rfl⟩ | ⟨g, action, -, ho, rfl, ht, hn, he, -⟩ | ⟨kind, text, ho, rfl⟩ |
    ⟨b, rest, ho, -, rfl⟩
  · have hdropped : (ss ++ [s]).filter (!·.statement.isOtherwise) = ss.filter (!·.statement.isOtherwise) := by
      simp [ho, Statement.isOtherwise]
    exact hdropped ▸ ih
  · exact hnext hn ho (he ▸ rfl) ht
  · obtain ⟨line, statement⟩ := s
    obtain rfl : statement = _ := ho
    exact hnext List.prefix_rfl rfl rfl (.blockStart line kind text)
  · obtain ⟨line, statement⟩ := s
    obtain rfl : statement = _ := ho
    exact hnext List.prefix_rfl rfl rfl (.blockEnd line)

end Draft

theorem Diagram.build_eq_ok_iff {ss : List Numbered} {g : Diagram} :
    build ss = .ok g ↔ ∃ d : Draft, ss.foldlM Draft.add .empty = .ok d ∧ d.diagram = g := by
  unfold build
  cases h : ss.foldlM Draft.add .empty with
  | error f => simp [bind, Except.bind]
  | ok d => simp [bind, Except.bind, pure, Except.pure, Draft.finish]

end SequenceDiagram
