/-
  SequenceDiagram.Proofs.Stored.Builder — linking with records that are changed in place.

  A linked diagram leaves to positions what a record could say itself: an actor, an event
  or an activation carries no number, and a name is looked up among the actors. Here they
  are kept as records with a number each, every event with the same fields whatever its
  kind, and an index from names to numbers beside the actors. A name is looked up in the
  index only and entered when it is new. An event is put in with no activation, and a
  mark then changes the actor, the activations and that event in place, each by its
  number. A number that names nothing is a fault of its own, and whatever was done before
  a fault stays done.

  What is stored is a draft and nothing else: the records are the parts of the draft with
  their positions for numbers, and the index finds what a search through the actors would
  (`Reflects`). A statement that is added to the draft is pushed without a fault, and one
  that fails there faults with the builder untouched (`push_of_ok`, `push_of_error`). So
  what a draft comes to, with or without going on after failures, the builder comes to as
  well (`Reflects.pushAll`, `build_of_ok`).
-/

import SequenceDiagram.Proofs.Diagram.Names
import SequenceDiagram.Proofs.Checked.Building

namespace SequenceDiagram.Stored

/-! ## Records -/

inductive EventKind where
  | message (arrow : Arrow)
  | note (side : Side)
  | blockStart (kind : BlockKind)
  | blockEnd
  deriving DecidableEq, Repr

structure ActorRecord where
  id : Nat
  name : String
  opened : Stack Nat
  activations : List Nat
  deriving DecidableEq, Repr

structure EventRecord where
  id : Nat
  kind : EventKind
  line : Nat
  source : Option Nat
  destination : Option Nat
  noteActors : List Nat
  text : String
  activation : Option Nat
  deriving DecidableEq, Repr

structure ActivationRecord where
  id : Nat
  actor : Nat
  start : Nat
  finish : Option Nat
  parent : Option Nat
  deriving DecidableEq, Repr

/-- All that is kept of a diagram. -/
structure Records where
  actors : List ActorRecord
  index : Std.HashMap String Nat
  events : List EventRecord
  activations : List ActivationRecord
  blocks : List Block

structure Builder where
  records : Records
  openBlocks : Stack OpenBlock

inductive Fault where
  | unmatchedEnd (line : Nat)
  | unregistered (actor : Nat)
  deriving DecidableEq, Repr

/-- The kind of event a statement turns into, if any. -/
def eventKind? : Statement → Option EventKind
  | .message _ arrow _ _ => some (.message arrow)
  | .note side _ _ => some (.note side)
  | .blockStart kind _ => some (.blockStart kind)
  | .otherwise _ => none
  | .blockEnd => some .blockEnd

/-! ## Changing them -/

namespace Records

def empty : Records := ⟨[], ∅, [], [], []⟩

def actorId? (r : Records) (name : String) : Option Nat := r.index[name]?

/-- The number of a name, which is entered when it is new. -/
def getOrCreate (r : Records) (name : String) : Records × Nat :=
  match r.index[name]? with
  | some id => (r, id)
  | none =>
    let id := r.actors.length
    ({ r with
        actors := r.actors ++ [⟨id, name, .empty, []⟩]
        index := r.index.insert name id }, id)

def getOrCreateAll (r : Records) : List String → Records × List Nat
  | [] => (r, [])
  | name :: names =>
    let (r, id) := r.getOrCreate name
    let (r, ids) := r.getOrCreateAll names
    (r, id :: ids)

def blankEvent (r : Records) (kind : EventKind) (line : Nat) : EventRecord where
  id := r.events.length
  kind
  line
  source := none
  destination := none
  noteActors := []
  text := ""
  activation := none

def pushEvent (r : Records) (e : EventRecord) : Records × Nat := ({ r with events := r.events ++ [e] }, e.id)

def nameActivation (r : Records) (event id : Nat) : Records :=
  { r with events := r.events.modify event fun e => { e with activation := some id } }

/-- Opens an activation of an actor at an event. -/
def startActivation (r : Records) (owner event : Nat) : Records × Option Fault :=
  match r.actors[owner]? with
  | none => (r, some (.unregistered owner))
  | some a =>
    let id := r.activations.length
    let actors := r.actors.modify owner fun a =>
      { a with opened := a.opened.push id, activations := a.activations ++ [id] }
    let activations := r.activations ++ [⟨id, owner, event, none, a.opened.peek?⟩]
    (nameActivation { r with actors, activations } event id, none)

/-- Closes the innermost activation an actor has open at an event; nothing when it has none. -/
def finishActivation (r : Records) (owner event : Nat) : Records × Option Fault :=
  match r.actors[owner]? with
  | none => (r, some (.unregistered owner))
  | some a =>
    match a.opened.pop? with
    | none => (r, none)
    | some (id, rest) =>
      let actors := r.actors.modify owner fun a => { a with opened := rest }
      let activations := r.activations.modify id fun x => { x with finish := some event }
      (nameActivation { r with actors, activations } event id, none)

def applyMark (r : Records) (source destination event : Nat) : Option Mark → Records × Option Fault
  | none => (r, none)
  | some .start => r.startActivation destination event
  | some .finish => r.finishActivation source event

end Records

namespace Builder

def empty : Builder := ⟨.empty, .empty⟩

/-- One statement more. The builder is what it is by the time of a fault. -/
def push (b : Builder) (s : Numbered) : Builder × Option Fault :=
  match eventKind? s.statement with
  | none => (b, none)
  | some kind =>
    match s.statement with
    | .message source arrow destination text =>
      let (r, source) := b.records.getOrCreate source
      let (r, destination) := r.getOrCreate destination
      let (r, event) := r.pushEvent
        { r.blankEvent kind s.line with source := some source, destination := some destination, text }
      let (r, fault) := r.applyMark source destination event arrow.mark
      ({ b with records := r }, fault)
    | .note _ names text =>
      let (r, noteActors) := b.records.getOrCreateAll names
      let (r, _) := r.pushEvent { r.blankEvent kind s.line with source := noteActors.head?, noteActors, text }
      ({ b with records := r }, none)
    | .blockStart block text =>
      let (r, start) := b.records.pushEvent { b.records.blankEvent kind s.line with text }
      (⟨r, b.openBlocks.push ⟨block, text, start⟩⟩, none)
    | .blockEnd =>
      match b.openBlocks.pop? with
      | none => (b, some (.unmatchedEnd s.line))
      | some (opened, rest) =>
        let (r, finish) := b.records.pushEvent (b.records.blankEvent kind s.line)
        (⟨{ r with blocks := r.blocks ++ [⟨opened.kind, opened.text, opened.start, finish⟩] }, rest⟩, none)
    | .otherwise _ => (b, none)

/-- Blocks still open are dropped. -/
def finish (b : Builder) : Records := b.records

/-- Statements one after the other, going on after faults. -/
def pushAll (b : Builder) (ss : List Numbered) : Builder := ss.foldl (fun b s => (b.push s).1) b

/-- Those of some statements that are pushed without a fault. -/
def accepted (b : Builder) : List Numbered → List Numbered
  | [] => []
  | s :: ss =>
    match b.push s with
    | (b, none) => s :: b.accepted ss
    | (b, some _) => b.accepted ss

/-- Statements one after the other, up to the first fault. -/
def run (b : Builder) : List Numbered → Except Fault Builder
  | [] => .ok b
  | s :: ss =>
    match b.push s with
    | (b, none) => b.run ss
    | (_, some fault) => .error fault

end Builder

def build (ss : List Numbered) : Except Fault Records := (Builder.empty.run ss).map Builder.finish

/-! ## What the records of a diagram are -/

def actorRecord (i : Nat) (a : Actor) : ActorRecord := ⟨i, a.name, a.opened, a.activations⟩

def kindOf : Action → EventKind
  | .message arrow .. => .message arrow
  | .note side .. => .note side
  | .blockStart kind _ => .blockStart kind
  | .blockEnd => .blockEnd

def eventRecord (i : Nat) (e : Event) : EventRecord where
  id := i
  kind := kindOf e.action
  line := e.line
  source := e.action.source?
  destination := e.action.destination?
  noteActors := e.action.noteActors
  text := e.action.text
  activation := e.action.activation?

def activationRecord (i : Nat) (x : Activation) : ActivationRecord := ⟨i, x.actor, x.start, x.finish, x.parent⟩

structure Records.Reflects (r : Records) (d : Diagram) : Prop where
  actors : r.actors = d.actors.mapIdx actorRecord
  index : ∀ name, r.actorId? name = d.actorId? name
  events : r.events = d.events.mapIdx eventRecord
  activations : r.activations = d.activations.mapIdx activationRecord
  blocks : r.blocks = d.blocks

structure Builder.Reflects (b : Builder) (d : Draft) : Prop where
  records : b.records.Reflects d.diagram
  openBlocks : b.openBlocks = d.openBlocks

/-- Changing a part in place and recording it come to the same in either order. -/
theorem modify_mapIdx {β γ : Type} {f : Nat → β → γ} {change : γ → γ} {g : β → β}
    (hg : ∀ i x, change (f i x) = f i (g x)) (xs : List β) (i : Nat) :
    (xs.mapIdx f).modify i change = (xs.modify i g).mapIdx f := by
  apply List.ext_getElem?
  intro k
  rw [List.getElem?_modify, List.getElem?_mapIdx, List.getElem?_mapIdx, List.getElem?_modify]
  by_cases hk : i = k
  · cases xs[k]? <;> simp [hk, hg]
  · cases xs[k]? <;> simp [hk]

namespace Records.Reflects

variable {r : Records} {d : Diagram}

theorem length_events (h : r.Reflects d) : r.events.length = d.events.length := by
  rw [h.events, List.length_mapIdx]

theorem length_activations (h : r.Reflects d) : r.activations.length = d.activations.length := by
  rw [h.activations, List.length_mapIdx]

theorem actor (h : r.Reflects d) (i : Nat) : r.actors[i]? = d.actors[i]?.map (actorRecord i) := by
  rw [h.actors, List.getElem?_mapIdx]

/-! ## Names -/

theorem getOrCreate (h : r.Reflects d) (name : String) :
    (r.getOrCreate name).1.Reflects (d.register name).1 ∧ (r.getOrCreate name).2 = (d.register name).2 := by
  have hfound : r.index[name]? = d.actorId? name := h.index name
  have hlength : r.actors.length = d.actors.length := by rw [h.actors, List.length_mapIdx]
  unfold Records.getOrCreate Diagram.register
  rw [hfound]
  cases hid : d.actorId? name with
  | some id => exact ⟨h, rfl⟩
  | none =>
    refine ⟨⟨?_, fun other => ?_, h.events, h.activations, h.blocks⟩, hlength⟩
    · simp only [h.actors, List.mapIdx_concat, List.length_mapIdx]
      rfl
    · have hother : r.index[other]? = d.actorId? other := h.index other
      rw [Diagram.actorId?_append, ← hother]
      show (r.index.insert name r.actors.length)[other]? = _
      rw [Std.HashMap.getElem?_insert, hlength]
      by_cases hname : name = other
      · subst hname
        simp [hfound, hid]
      · simp [hname]

theorem getOrCreateAll (h : r.Reflects d) (names : List String) :
    (r.getOrCreateAll names).1.Reflects (d.registerAll names).1 ∧
      (r.getOrCreateAll names).2 = (d.registerAll names).2 := by
  induction names generalizing r d with
  | nil => exact ⟨h, rfl⟩
  | cons name names ih =>
    obtain ⟨hfirst, hid⟩ := h.getOrCreate name
    obtain ⟨hrest, hids⟩ := ih hfirst
    exact ⟨hrest, congrArg₂ List.cons hid hids⟩

/-! ## Events and marks -/

theorem pushEvent (h : r.Reflects d) {line : Nat} {action : Action} {e : EventRecord}
    (he : e = eventRecord d.events.length ⟨line, action⟩) : (r.pushEvent e).1.Reflects (d.addEvent line action) := by
  refine ⟨h.actors, h.index, ?_, h.activations, h.blocks⟩
  simp only [Records.pushEvent, Diagram.addEvent, List.mapIdx_concat, h.events, he]

variable {line : Nat} {arrow : Arrow} {source destination owner : Nat} {text : String}

/-- The event put in last is told its activation. -/
theorem nameActivation (h : r.Reflects (d.addEvent line (.message arrow source destination text none))) (id : Nat) :
    (r.nameActivation d.events.length id).Reflects (d.addEvent line (.message arrow source destination text (some id))) := by
  refine ⟨h.actors, h.index, ?_, h.activations, h.blocks⟩
  have hlast := Checked.modify_concat_length (d.events.mapIdx eventRecord)
    (eventRecord d.events.length ⟨line, .message arrow source destination text none⟩)
    fun e => { e with activation := some id }
  rw [List.length_mapIdx] at hlast
  simp only [Records.nameActivation, Diagram.addEvent, h.events, List.mapIdx_concat]
  exact hlast

/-- Names are looked up alike where the names are the same. -/
theorem index_of_names (h : r.Reflects d) {g : Diagram} (hnames : g.names = d.names) (name : String) :
    r.actorId? name = g.actorId? name := by
  rw [h.index, Diagram.actorId?_eq_findIdx?_names, Diagram.actorId?_eq_findIdx?_names, hnames]

/-- A mark amends the actors and the activations of what is recorded; then the event is told. -/
theorem amend (h : r.Reflects (d.addEvent line (.message arrow source destination text none))) {g : Diagram}
    {actors : List ActorRecord} {activations : List ActivationRecord} (hnames : g.names = d.names)
    (hevents : g.events = d.events) (hblocks : g.blocks = d.blocks) (hactors : actors = g.actors.mapIdx actorRecord)
    (hactivations : activations = g.activations.mapIdx activationRecord) (id : Nat) :
    (Records.nameActivation { r with actors, activations } d.events.length id).Reflects
      (g.addEvent line (.message arrow source destination text (some id))) := by
  have hamended : Records.Reflects { r with actors, activations }
      (g.addEvent line (.message arrow source destination text none)) := by
    refine ⟨hactors, fun name => h.index_of_names hnames name, ?_, hactivations, h.blocks.trans hblocks.symm⟩
    simp only [h.events, Diagram.addEvent, hevents]
  rw [← hevents]
  exact hamended.nameActivation id

theorem startActivation (h : r.Reflects (d.addEvent line (.message arrow source destination text none)))
    (howner : d.actors[owner]?.isSome) :
    (r.startActivation owner d.events.length).2 = none ∧
    (r.startActivation owner d.events.length).1.Reflects ((d.startActivation owner).1.addEvent line
      (.message arrow source destination text (d.startActivation owner).2)) := by
  obtain ⟨a, ha⟩ := Option.isSome_iff_exists.mp howner
  have hrecord : r.actors[owner]? = some (actorRecord owner a) :=
    (h.actor owner).trans (congrArg (Option.map (actorRecord owner)) ha)
  have hid : r.activations.length = d.activations.length := h.length_activations
  have hstarted : (d.startActivation owner).1.activations =
      d.activations ++ [⟨owner, d.events.length, none, a.opened.peek?⟩] := by
    simp only [Diagram.startActivation, ha, Option.bind_some]
  unfold Records.startActivation
  rw [hrecord]
  refine ⟨rfl, ?_⟩
  simp only [hid]
  apply h.amend (g := (d.startActivation owner).1) (d.applyMark_names source owner (some .start)) rfl rfl
  · rw [h.actors]
    refine modify_mapIdx (fun i x => ?_) _ _
    rfl
  · rw [hstarted, List.mapIdx_concat, h.activations]
    rfl

theorem finishActivation (h : r.Reflects (d.addEvent line (.message arrow source destination text none)))
    (howner : d.actors[owner]?.isSome) :
    (r.finishActivation owner d.events.length).2 = none ∧
    (r.finishActivation owner d.events.length).1.Reflects ((d.finishActivation owner).1.addEvent line
      (.message arrow source destination text (d.finishActivation owner).2)) := by
  obtain ⟨a, ha⟩ := Option.isSome_iff_exists.mp howner
  have hrecord : r.actors[owner]? = some (actorRecord owner a) :=
    (h.actor owner).trans (congrArg (Option.map (actorRecord owner)) ha)
  have hnames : (d.finishActivation owner).1.names = d.names := d.applyMark_names owner destination (some .finish)
  have htop : (d.actors[owner]?).bind (·.opened.pop?) = a.opened.pop? := by rw [ha, Option.bind_some]
  have hopened : (actorRecord owner a).opened = a.opened := rfl
  unfold Records.finishActivation
  rw [hrecord]
  simp only [hopened]
  simp only [Diagram.finishActivation, htop] at hnames ⊢
  cases hpop : a.opened.pop? with
  | none => exact ⟨rfl, h⟩
  | some top =>
    rw [hpop] at hnames
    refine ⟨rfl, ?_⟩
    apply h.amend hnames rfl rfl
    · rw [h.actors]
      refine modify_mapIdx (fun i x => ?_) _ _
      rfl
    · rw [h.activations]
      refine modify_mapIdx (fun i x => ?_) _ _
      rfl

theorem applyMark (h : r.Reflects (d.addEvent line (.message arrow source destination text none)))
    (hsource : d.actors[source]?.isSome) (hdestination : d.actors[destination]?.isSome) (mark : Option Mark) :
    (r.applyMark source destination d.events.length mark).2 = none ∧
    (r.applyMark source destination d.events.length mark).1.Reflects
      ((d.applyMark source destination mark).1.addEvent line
        (.message arrow source destination text (d.applyMark source destination mark).2)) := by
  rcases mark with _ | _ | _
  · exact ⟨rfl, h⟩
  · exact h.startActivation hdestination
  · exact h.finishActivation hsource

/-- A message becomes an event, and its mark is applied to it afterwards. -/
theorem message (h : r.Reflects d) (hsource : d.actors[source]?.isSome) (hdestination : d.actors[destination]?.isSome)
    (line : Nat) (arrow : Arrow) (text : String) :
    let pushed := r.pushEvent
      { r.blankEvent (.message arrow) line with source := some source, destination := some destination, text }
    (pushed.1.applyMark source destination pushed.2 arrow.mark).2 = none ∧
    (pushed.1.applyMark source destination pushed.2 arrow.mark).1.Reflects
      ((d.applyMark source destination arrow.mark).1.addEvent line
        (.message arrow source destination text (d.applyMark source destination arrow.mark).2)) := by
  intro pushed
  have hpushed : pushed.1.Reflects (d.addEvent line (.message arrow source destination text none)) := by
    apply h.pushEvent
    rw [← h.length_events]
    rfl
  have hevent : pushed.2 = d.events.length := h.length_events
  rw [hevent]
  exact hpushed.applyMark hsource hdestination arrow.mark

end Records.Reflects

/-! ## Pushing and adding -/

namespace Builder.Reflects

variable {b : Builder} {d e : Draft} {s : Numbered} {ss : List Numbered} {f : Failure}

theorem empty : Builder.empty.Reflects Draft.empty :=
  ⟨⟨rfl, fun _ => Std.HashMap.getElem?_empty, rfl, rfl, rfl⟩, rfl⟩

theorem push_of_ok (h : b.Reflects d) (hs : d.add s = .ok e) : (b.push s).2 = none ∧ (b.push s).1.Reflects e := by
  obtain ⟨line, statement⟩ := s
  have hlength : b.records.events.length = d.diagram.events.length := h.records.length_events
  cases statement with
  | message source arrow destination text =>
    rw [Draft.add_message] at hs
    obtain rfl := Except.ok.inj hs
    obtain ⟨hsource, hi⟩ := h.records.getOrCreate source
    obtain ⟨hboth, hj⟩ := hsource.getOrCreate destination
    have hfirst : ((d.diagram.register source).1.register destination).1.names[(d.diagram.register source).2]? =
        some source :=
      getElem?_of_extends (Diagram.register_extends_names ..) (d.diagram.names_register source)
    obtain ⟨hfault, hmarked⟩ := hboth.message (Diagram.isSome_actor hfirst)
      (Diagram.isSome_actor (Diagram.names_register ..)) line arrow text
    rw [← hi, ← hj] at hfault hmarked ⊢
    exact ⟨hfault, ⟨hmarked, h.openBlocks⟩⟩
  | note side names text =>
    rw [Draft.add_note] at hs
    obtain rfl := Except.ok.inj hs
    obtain ⟨hall, hids⟩ := h.records.getOrCreateAll names
    refine ⟨rfl, ⟨hall.pushEvent ?_, h.openBlocks⟩⟩
    rw [← hids, ← hall.length_events]
    rfl
  | blockStart kind text =>
    cases hs
    refine ⟨rfl, ⟨h.records.pushEvent ?_, ?_⟩⟩
    · rw [← hlength]
      rfl
    · show b.openBlocks.push _ = d.openBlocks.push _
      rw [h.openBlocks, ← hlength]
      rfl
  | otherwise text =>
    cases hs
    exact ⟨rfl, h⟩
  | blockEnd =>
    simp only [Draft.add] at hs
    cases hpop : d.openBlocks.pop? with
    | none =>
      rw [hpop] at hs
      cases hs
    | some top =>
      rw [hpop] at hs
      cases hs
      have hpushed : (b.records.pushEvent (b.records.blankEvent .blockEnd line)).1.Reflects
          (d.diagram.addEvent line .blockEnd) := by
        apply h.records.pushEvent
        rw [← hlength]
        rfl
      have hpush : b.push ⟨line, .blockEnd⟩ =
          (⟨{ (b.records.pushEvent (b.records.blankEvent .blockEnd line)).1 with
                blocks := b.records.blocks ++ [⟨top.1.kind, top.1.text, top.1.start, b.records.events.length⟩] },
            top.2⟩, none) := by
        simp only [Builder.push, eventKind?, h.openBlocks, hpop]
        rfl
      rw [hpush]
      refine ⟨rfl, ⟨⟨hpushed.actors, hpushed.index, hpushed.events, hpushed.activations, ?_⟩, rfl⟩⟩
      show b.records.blocks ++ _ = d.diagram.blocks ++ _
      rw [h.records.blocks, hlength]

theorem push_of_error (h : b.Reflects d) (hs : d.add s = .error f) : b.push s = (b, some (.unmatchedEnd s.line)) := by
  obtain ⟨line, statement⟩ := s
  obtain ⟨hend, hpop, -⟩ := Draft.add_eq_error_iff.mp hs
  obtain rfl : statement = .blockEnd := hend
  simp only [Builder.push, eventKind?, h.openBlocks, hpop]

theorem push (h : b.Reflects d) (s : Numbered) : (b.push s).1.Reflects (d.addOrKeep s) := by
  unfold Draft.addOrKeep
  cases hs : d.add s with
  | ok e => exact (h.push_of_ok hs).2
  | error f =>
    rw [h.push_of_error hs]
    exact h

theorem pushAll (h : b.Reflects d) (ss : List Numbered) : (b.pushAll ss).Reflects (ss.foldl Draft.addOrKeep d) := by
  induction ss generalizing b d with
  | nil => exact h
  | cons s ss ih => exact ih (h.push s)

theorem run_of_ok (h : b.Reflects d) (hs : ss.foldlM Draft.add d = .ok e) : ∃ c, b.run ss = .ok c ∧ c.Reflects e := by
  induction ss generalizing b d with
  | nil =>
    cases hs
    exact ⟨b, rfl, h⟩
  | cons s ss ih =>
    rw [List.foldlM_cons] at hs
    cases hadd : d.add s with
    | error f =>
      rw [hadd] at hs
      cases hs
    | ok next =>
      rw [hadd] at hs
      obtain ⟨hfault, hnext⟩ := h.push_of_ok hadd
      obtain ⟨c, hrun, hc⟩ := ih hnext hs
      have hpush : b.push s = ((b.push s).1, none) := Prod.ext rfl hfault
      rw [Builder.run, hpush]
      exact ⟨c, hrun, hc⟩

end Builder.Reflects

/-- The statements that link to a diagram are built to its records. -/
theorem build_of_ok {ss : List Numbered} {d : Diagram} (h : Diagram.build ss = .ok d) :
    ∃ r, build ss = .ok r ∧ r.Reflects d := by
  obtain ⟨e, he, rfl⟩ := Diagram.build_eq_ok_iff.mp h
  obtain ⟨c, hrun, hc⟩ := Builder.Reflects.empty.run_of_ok he
  refine ⟨c.finish, ?_, hc.records⟩
  rw [build, hrun]
  rfl

end SequenceDiagram.Stored
