/-
  SequenceDiagram.Proofs.Checked.Drawing — drawing that may not read what is not there.

  A scene reads labels and bars by position: of the two actors of a message, and of the
  activation that is innermost on each of them, which it finds by going through the
  activations of the actor. A frame with label lines subtracts one from their number.
  With every such step checked the scene of a placement that fits its diagram is the
  scene itself (`scene_eq`).
-/

import SequenceDiagram.Drawing.Scene
import SequenceDiagram.Proofs.Checked.Layout

namespace SequenceDiagram.Checked

variable {α : Type} [Scalar α]

open Scalar (ofNat half twice larger smaller)
open Drawing (solid messageStroke messageText messageTextHeight arrowHeadShape actorShapes barShape noteShapes)

/-! ## Active bars -/

/-- The first of some activations that covers an event. -/
def findCovering (d : Diagram) (event : Nat) : List Nat → Option (Option Nat)
  | [] => some none
  | id :: ids => do
    let a ← d.activations[id]?
    if d.covers event a then return some id
    else findCovering d event ids

def activationAt? (d : Diagram) (actor event : Nat) : Option (Option Nat) := do
  let a ← d.actors[actor]?
  findCovering d event a.activations.reverse

def activeBar? (d : Diagram) (p : Placement α) (actor event : Nat) : Option (Option (Box α)) := do
  match ← activationAt? d actor event with
  | none => return none
  | some id => do
    let b ← p.bars[id]?
    return some b

/-! ## Shapes -/

def messageEnds (d : Diagram) (p : Placement α) (event source destination : Nat) : Option (α × α) := do
  let a ← p.labels[source]?
  let b ← p.labels[destination]?
  let leftward : Bool := decide (b.midX < a.midX)
  let first ← activeBar? d p source event
  let last ← activeBar? d p destination event
  return (first.elim a.midX fun bar => if leftward then bar.left else bar.right,
    last.elim b.midX fun bar => if leftward then bar.right else bar.left)

def messageShapes (style : Style α) (d : Diagram) (p : Placement α) (event : Nat) (b : Box α)
    (line : LineStyle) (source destination : Nat) (text : String) : Option (List (Shape α)) := do
  let y := b.midY
  let first ← p.labels[source]?
  let last ← p.labels[destination]?
  let leftward : Bool := decide (last.midX < first.midX)
  let (x1, x2) ← messageEnds d p event source destination
  let textHeight := messageTextHeight style false b
  return [.line ⟨x1, y⟩ ⟨x2, y⟩ (messageStroke style line),
    arrowHeadShape style ⟨x2, y⟩ (!leftward),
    .text text ⟨half (x1 + x2), y - half textHeight - half style.textPaddingY⟩ (messageText style)]

def selfMessageShapes (style : Style α) (d : Diagram) (p : Placement α) (event : Nat) (b : Box α)
    (line : LineStyle) (actor : Nat) (text : String) : Option (List (Shape α)) := do
  let label ← p.labels[actor]?
  let bar ← activeBar? d p actor event
  let x1 := bar.elim label.midX Box.right
  let x2 := x1 + half b.width
  let radius := half style.selfDiameter
  let top := b.bottom - style.selfDiameter
  let stroke := messageStroke style line
  return [.line ⟨x1, top⟩ ⟨x2, top⟩ stroke,
    .arc ⟨x2, top + radius⟩ radius (-ofNat 90) (ofNat 90) stroke,
    .line ⟨x2, b.bottom⟩ ⟨x1, b.bottom⟩ stroke,
    arrowHeadShape style ⟨x1, b.bottom⟩ false,
    .text text ⟨x2, b.top + style.textPaddingY + half (messageTextHeight style true b)⟩ (messageText style)]

def eventShapes (style : Style α) (d : Diagram) (p : Placement α) (event : Nat) (e : Event) (b : Box α) :
    Option (List (Shape α)) :=
  match e.action with
  | .message arrow source destination text _ =>
    if source = destination then selfMessageShapes style d p event b arrow.style source text
    else messageShapes style d p event b arrow.style source destination text
  | .note _ _ text => return noteShapes style b text
  | .blockStart .. | .blockEnd => return []

/-- The height of one label line; only a label with lines has a last one. -/
def slotHeight (style : Style α) (f : Frame α) (tabHeight : α) : Option α :=
  let count := f.labelLines.length
  if count = 0 then some (ofNat 0)
  else do
    let gaps ← minus count 1
    return larger ((f.headerHeight - tabHeight - style.lineSpacing * ofNat gaps) / ofNat count) (ofNat 0)

def frameShapes (style : Style α) (block : Block) (f : Frame α) : Option (List (Shape α)) := do
  let stroke := solid style.palette.groupLine
  let x := f.box.left
  let y := f.box.top
  let tabWidth := smaller f.tabWidth f.box.width
  let tabHeight := smaller style.groupTabHeight f.box.height
  let notch := smaller (smaller style.foldSize tabWidth) tabHeight
  let tab : List (Point α) := [⟨x, y⟩, ⟨x + tabWidth, y⟩, ⟨x + tabWidth, y + tabHeight - notch⟩,
    ⟨x + tabWidth - notch, y + tabHeight⟩, ⟨x, y + tabHeight⟩]
  let text (bold : Bool) : TextStyle α := ⟨style.messageFontSize, style.palette.groupText, .start, bold⟩
  let slot ← slotHeight style f tabHeight
  let labels : List (Shape α) := f.labelLines.mapIdx fun i line =>
    .text line ⟨x + style.textPaddingX, y + tabHeight + ofNat i * (slot + style.lineSpacing) + half slot⟩
      (text false)
  return [.box f.box stroke none,
    .polygon tab (some stroke) (some style.palette.groupFill),
    .text block.kind.keyword ⟨x + half style.textPaddingX, y + half tabHeight⟩ (text true)] ++ labels

def scene (style : Style α) (d : Diagram) (p : Placement α) : Option (List (Shape α)) := do
  let events ← (d.events.zip p.events).zipIdx.mapM fun ((e, b), i) => eventShapes style d p i e b
  let frames ← (d.blocks.zip p.frames).mapM fun (b, f) => frameShapes style b f
  return (List.zipWith (actorShapes style p) d.actors p.labels).flatten ++ p.bars.map (barShape style) ++
    events.flatten ++ frames.flatten

/-! ## The same shapes -/

section Lookups

variable {d : Diagram} {p : Placement α}

theorem findCovering_eq (event : Nat) {ids : List Nat} (h : ∀ id ∈ ids, id < d.activations.length) :
    findCovering d event ids = some (ids.find? fun id => (d.activations[id]?).any (d.covers event)) := by
  induction ids with
  | nil => rfl
  | cons id ids ih =>
    obtain ⟨a, ha⟩ : ∃ a, d.activations[id]? = some a :=
      ⟨_, List.getElem?_eq_getElem (h id (List.mem_cons_self ..))⟩
    rw [findCovering, List.find?_cons, ha, Option.bind_eq_bind, Option.bind_some, Option.any_some]
    by_cases hcovers : d.covers event a
    · rw [hcovers, if_pos rfl]
      rfl
    · rw [if_neg hcovers, ih fun k hk => h k (List.mem_cons_of_mem _ hk)]
      simp [hcovers]

theorem activationAt?_eq (hd : d.Indexed) {actor : Nat} (hactor : actor < d.actors.length) (event : Nat) :
    activationAt? d actor event = some (d.activationAt? actor event) := by
  obtain ⟨a, ha⟩ : ∃ a, d.actors[actor]? = some a := ⟨_, List.getElem?_eq_getElem hactor⟩
  have howned : ∀ id ∈ a.activations.reverse, id < d.activations.length := fun id hid =>
    hd.owned a (List.mem_of_getElem? ha) id (List.mem_reverse.mp hid)
  rw [activationAt?, Diagram.activationAt?, ha, Option.bind_eq_bind, Option.bind_some, findCovering_eq event howned]

/-- An activation that is found is there. -/
theorem activationAt?_lt {actor event id : Nat} (h : d.activationAt? actor event = some id) :
    id < d.activations.length := by
  unfold Diagram.activationAt? at h
  split at h
  · cases h
  · have hcovers := List.find?_some h
    cases ha : d.activations[id]? with
    | none =>
      rw [ha] at hcovers
      cases hcovers
    | some a => exact (List.getElem?_eq_some_iff.mp ha).1

theorem activeBar?_eq (hd : d.Indexed) (h : p.Fits d) {actor : Nat} (hactor : actor < d.actors.length) (event : Nat) :
    activeBar? d p actor event = some (Drawing.activeBar? d p actor event) := by
  rw [activeBar?, activationAt?_eq hd hactor, Drawing.activeBar?]
  cases hid : d.activationAt? actor event with
  | none => rfl
  | some id =>
    have hbar : p.bars[id]? = some (p.barBox id) := getElem?_eq_getD (h.bars.symm ▸ activationAt?_lt hid) _
    simp only [Option.bind_eq_bind, Option.bind_some, hbar]
    rfl

theorem label_eq (h : p.Fits d) {actor : Nat} (hactor : actor < d.actors.length) :
    p.labels[actor]? = some (p.labelBox actor) := getElem?_eq_getD (h.labels.symm ▸ hactor) _

theorem messageEnds_eq (hd : d.Indexed) (h : p.Fits d) {source destination : Nat} (hsource : source < d.actors.length)
    (hdestination : destination < d.actors.length) (event : Nat) :
    messageEnds d p event source destination = some (Drawing.messageEnds d p event source destination) := by
  rw [messageEnds, label_eq h hsource, label_eq h hdestination, activeBar?_eq hd h hsource,
    activeBar?_eq hd h hdestination, Drawing.messageEnds]
  cases Drawing.activeBar? d p source event <;> cases Drawing.activeBar? d p destination event <;> rfl

end Lookups

section Shapes

variable (style : Style α) {d : Diagram} {p : Placement α}

theorem messageShapes_eq (hd : d.Indexed) (h : p.Fits d) {source destination : Nat}
    (hsource : source < d.actors.length) (hdestination : destination < d.actors.length) (event : Nat) (b : Box α)
    (line : LineStyle) (text : String) : messageShapes style d p event b line source destination text =
      some (Drawing.messageShapes style d p event b line source destination text) := by
  rw [messageShapes, label_eq h hsource, label_eq h hdestination, messageEnds_eq hd h hsource hdestination]
  rfl

theorem selfMessageShapes_eq (hd : d.Indexed) (h : p.Fits d) {actor : Nat} (hactor : actor < d.actors.length)
    (event : Nat) (b : Box α) (line : LineStyle) (text : String) : selfMessageShapes style d p event b line actor text =
      some (Drawing.selfMessageShapes style d p event b line actor text) := by
  rw [selfMessageShapes, label_eq h hactor, activeBar?_eq hd h hactor, Drawing.selfMessageShapes]
  cases Drawing.activeBar? d p actor event <;> rfl

theorem eventShapes_eq (hd : d.Indexed) (h : p.Fits d) (event : Nat) {e : Event} (he : e ∈ d.events) (b : Box α) :
    eventShapes style d p event e b = some (Drawing.eventShapes style d p event e b) := by
  have hactors := hd.referenced e he
  obtain ⟨line, action⟩ := e
  cases action with
  | message arrow source destination text activation =>
    have hsource : source < d.actors.length := hactors source (by simp [Action.referenced, Action.source?])
    have hdestination : destination < d.actors.length :=
      hactors destination (by simp [Action.referenced, Action.destination?])
    show (if source = destination then _ else _) = some (if source = destination then _ else _)
    by_cases hself : source = destination
    · rw [if_pos hself, if_pos hself, selfMessageShapes_eq style hd h hsource]
    · rw [if_neg hself, if_neg hself, messageShapes_eq style hd h hsource hdestination]
  | note side actors text => rfl
  | blockStart kind text => rfl
  | blockEnd => rfl

theorem slotHeight_eq (f : Frame α) (tabHeight : α) :
    slotHeight style f tabHeight = some (Drawing.slotHeight style f tabHeight) := by
  unfold slotHeight Drawing.slotHeight
  cases f.labelLines.length with
  | zero => rfl
  | succ n =>
    show (if n + 1 = 0 then _ else (minus (n + 1) 1).bind _) = _
    rw [if_neg (Nat.succ_ne_zero n), minus_eq (Nat.succ_le_succ (Nat.zero_le n))]
    rfl

theorem frameShapes_eq (block : Block) (f : Frame α) :
    frameShapes style block f = some (Drawing.frameShapes style block f) := by
  rw [frameShapes, slotHeight_eq]
  rfl

theorem scene_eq (hd : d.Indexed) (h : p.Fits d) : scene style d p = some (Drawing.scene style d p) := by
  have hevents : ∀ x ∈ (d.events.zip p.events).zipIdx,
      eventShapes style d p x.2 x.1.1 x.1.2 = some (Drawing.eventShapes style d p x.2 x.1.1 x.1.2) := by
    intro x hx
    exact eventShapes_eq style hd h x.2 (List.of_mem_zip (List.fst_mem_of_mem_zipIdx hx)).1 x.1.2
  have hframes : ∀ x ∈ d.blocks.zip p.frames,
      frameShapes style x.1 x.2 = some (Drawing.frameShapes style x.1 x.2) := fun x _ => frameShapes_eq style x.1 x.2
  rw [scene, mapM_eq hevents, mapM_eq hframes, Drawing.scene, List.mapIdx_eq_zipIdx_map, List.map_zip_eq_zipWith]
  rfl

end Shapes

end SequenceDiagram.Checked
