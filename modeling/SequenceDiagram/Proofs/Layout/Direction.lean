/-
  SequenceDiagram.Proofs.Layout.Direction — layout does not look which way a message goes.

  Any of a diagram's messages may be turned round, its sender and its receiver exchanged,
  with the activations and blocks left as they are (`Diagram.reversed`). Where layout reads
  the two ends it does the same with both: a message asks for room from the smaller to the
  greater of them, stands half way between their lifelines, and mentions both to the
  frames around it (`eventSize_reversed`, `gap?_reversed`, `anchor_reversed`,
  `referenced_reversed`). So every phase makes the same of both diagrams (`run_turned`),
  and so does the layout (`place_reversed`).

  Half way is where the order of the ends could show: the one lifeline is added to the
  other. All that is used of a scalar is that this sum does not change when its terms are
  exchanged. That is so for the rationals and for binary64, zeros of either sign,
  infinities and what is no number included (`add_comm_binary64`).
-/

import Mathlib.Data.List.Forall2
import SequenceDiagram.Proofs.Layout.Frames
import SequenceDiagram.Proofs.Numeric.Binary64

namespace SequenceDiagram

/-! ## Messages the other way round -/

def Action.reversed : Action → Action
  | .message arrow source destination text activation => .message arrow destination source text activation
  | action => action

def Event.reversed (e : Event) : Event := { e with action := e.action.reversed }

/-- The diagram with its messages at some positions turned round. -/
def Diagram.reversed (d : Diagram) (which : Nat → Bool) : Diagram :=
  { d with events := d.events.mapIdx fun i e => if which i then e.reversed else e }

/-- The same event, or the same message the other way round. -/
inductive Event.Alike (e : Event) : Event → Prop
  | same : Alike e e
  | reversed : Alike e e.reversed

/-- What is the same of a message turned round is the same of events that are alike. -/
theorem Event.Alike.eq {β : Type} {e e' : Event} (h : e.Alike e') {f : Event → β} (hf : f e.reversed = f e) :
    f e' = f e := by
  cases h with
  | same => rfl
  | reversed => exact hf

/-- Diagrams that differ in the direction of messages alone. -/
structure Diagram.Turned (d e : Diagram) : Prop where
  actors : e.actors = d.actors
  events : List.Forall₂ Event.Alike d.events e.events
  activations : e.activations = d.activations
  blocks : e.blocks = d.blocks

theorem Diagram.turned_reversed (d : Diagram) (which : Nat → Bool) : d.Turned (d.reversed which) := by
  refine ⟨rfl, List.forall₂_iff_get.mpr ⟨List.length_mapIdx.symm, fun i hi hi' => ?_⟩, rfl, rfl⟩
  simp only [reversed, List.get_eq_getElem, List.getElem_mapIdx]
  cases which i with
  | false => exact .same
  | true => exact .reversed

namespace Layout

open Scalar (range?)

variable {α : Type} [Scalar α] (style : Style α) (m : TextMetrics α)

/-! ## Rows -/

theorem eventSize_reversed (a : Action) : eventSize style m a.reversed = eventSize style m a := by
  cases a with
  | message arrow source destination text activation => simp only [Action.reversed, eventSize, eq_comm]
  | note side actors text => rfl
  | blockStart kind text => rfl
  | blockEnd => rfl

theorem gap?_reversed (actors : Nat) (a : Action) : gap? actors a.reversed = gap? actors a := by
  cases a with
  | message arrow source destination text activation =>
    by_cases hself : source = destination
    · rw [hself, Action.reversed]
    · simp only [Action.reversed, gap?, if_neg hself, if_neg (Ne.symm hself), min_comm, max_comm]
  | note side actors text => rfl
  | blockStart kind text => rfl
  | blockEnd => rfl

theorem widenFor_reversed (deltas : List α) (e : Event) :
    widenFor style m deltas e.reversed = widenFor style m deltas e := by
  unfold widenFor Event.reversed
  rw [gap?_reversed, eventSize_reversed]

variable {style m} {d e : Diagram} {p : Placement α}

theorem stackEvents_turned {es es' : List Event} (h : List.Forall₂ Event.Alike es es') (y : α) :
    stackEvents style m y es' = stackEvents style m y es := by
  induction h generalizing y with
  | nil => rfl
  | cons hfirst _ ih =>
    have hsize := hfirst.eq (f := fun e => eventSize style m e.action) (eventSize_reversed style m _)
    simp only [stackEvents, hsize, ih]

theorem foldl_widenFor_turned {es es' : List Event} (h : List.Forall₂ Event.Alike es es') (deltas : List α) :
    es'.foldl (widenFor style m) deltas = es.foldl (widenFor style m) deltas := by
  induction h generalizing deltas with
  | nil => rfl
  | cons hfirst _ ih =>
    rw [List.foldl_cons, List.foldl_cons, hfirst.eq (f := widenFor style m deltas) (widenFor_reversed style m deltas _),
      ih]

/-! ## Columns -/

theorem anchor_reversed (hadd : ∀ a b : α, a + b = b + a) (lifelines : List α) (e : Event) (b : Box α) :
    anchor style lifelines e.reversed b = anchor style lifelines e b := by
  obtain ⟨line, action⟩ := e
  cases action with
  | message arrow source destination text activation =>
    by_cases hself : source = destination
    · rw [hself]
      rfl
    · simp only [Event.reversed, Action.reversed, anchor, if_neg hself, if_neg (Ne.symm hself)]
      rw [hadd]
  | note side actors text => rfl
  | blockStart kind text => rfl
  | blockEnd => rfl

theorem zipWith_anchor_turned (hadd : ∀ a b : α, a + b = b + a) {es es' : List Event}
    (h : List.Forall₂ Event.Alike es es') (lifelines : List α) (bs : List (Box α)) :
    List.zipWith (anchor style lifelines) es' bs = List.zipWith (anchor style lifelines) es bs := by
  induction h generalizing bs with
  | nil => rfl
  | cons hfirst _ ih =>
    cases bs with
    | nil => rfl
    | cons b bs =>
      rw [List.zipWith_cons_cons, List.zipWith_cons_cons, ih,
        hfirst.eq (f := fun e => anchor style lifelines e b) (anchor_reversed hadd lifelines _ b)]

/-! ## Frames -/

theorem referenced_reversed (a : Action) : a.referenced.Perm a.reversed.referenced := by
  cases a with
  | message arrow source destination text activation => exact .swap destination source []
  | note side actors text => exact .refl _
  | blockStart kind text => exact .refl _
  | blockEnd => exact .refl _

/-- The first and the last of some actors do not depend on the order they are mentioned in. -/
theorem actorRange?_perm {actors actors' : List Nat} (h : actors.Perm actors') :
    actorRange? actors = actorRange? actors' := by
  induction h with
  | nil => rfl
  | cons a h _ => simp only [actorRange?, h.foldl_eq a]
  | swap a b actors =>
    show some (actors.foldl min (min b a), actors.foldl max (max b a)) =
      some (actors.foldl min (min a b), actors.foldl max (max a b))
    rw [min_comm, max_comm]
  | trans _ _ ih ih' => exact ih.trans ih'

/-- Events that are alike, with the same box. -/
inductive HeldAlike : Event × Box α → Event × Box α → Prop
  | boxed {e e' : Event} (b : Box α) : e.Alike e' → HeldAlike (e, b) (e', b)

section

variable {es es' : List (Event × Box α)} (h : List.Forall₂ HeldAlike es es')

include h

omit [Scalar α]

theorem map_snd_turned : es'.map (·.2) = es.map (·.2) := by
  induction h with
  | nil => rfl
  | cons hfirst _ ih =>
    cases hfirst
    rw [List.map_cons, List.map_cons, ih]

theorem unmarked_turned :
    (es'.filter fun (e, _) => !e.action.isBlockMarker).map (·.2) =
      (es.filter fun (e, _) => !e.action.isBlockMarker).map (·.2) := by
  have hmarker : ∀ e : Event, e.reversed.action.isBlockMarker = e.action.isBlockMarker := by
    intro e
    obtain ⟨line, action⟩ := e
    cases action <;> rfl
  induction h with
  | nil => rfl
  | cons hfirst _ ih =>
    obtain ⟨b, halike⟩ := hfirst
    have hsame := halike.eq (f := fun e => e.action.isBlockMarker) (hmarker _)
    simp only [List.filter_cons, hsame]
    split
    · rw [List.map_cons, List.map_cons, ih]
    · exact ih

theorem referenced_turned :
    (es.flatMap fun (e, _) => e.action.referenced).Perm (es'.flatMap fun (e, _) => e.action.referenced) := by
  induction h with
  | nil => exact .refl _
  | cons hfirst _ ih =>
    rw [List.flatMap_cons, List.flatMap_cons]
    refine .append ?_ ih
    obtain ⟨b, halike⟩ := hfirst
    cases halike with
    | same => exact .refl _
    | reversed => exact referenced_reversed _

end

omit [Scalar α] in
theorem held_turned (h : d.Turned e) (p : Placement α) (b : Block) :
    List.Forall₂ HeldAlike (held d p b) (held e p b) := by
  have hzip : ∀ {es es' : List Event} (bs : List (Box α)), List.Forall₂ Event.Alike es es' →
      List.Forall₂ HeldAlike (es.zip bs) (es'.zip bs) := by
    intro es es' bs hes
    induction hes generalizing bs with
    | nil => exact .nil
    | cons hfirst _ ih =>
      cases bs with
      | nil => exact .nil
      | cons b bs => exact .cons (.boxed b hfirst) (ih bs)
  exact List.forall₂_take _ (List.forall₂_drop _ (hzip p.events h.events))

theorem contentBox_turned (h : d.Turned e) (b : Block) : contentBox style e p b = contentBox style d p b := by
  have hheld := held_turned h p b
  have hactors : coveredActors? e.actors.length (held e p b) = coveredActors? d.actors.length (held d p b) := by
    unfold coveredActors?
    rw [actorRange?_perm (referenced_turned hheld), h.actors]
  have hhorizontal : horizontal? e p (held e p b) = horizontal? d p (held d p b) := by
    simp only [horizontal?, hactors, unmarked_turned hheld]
  have hvertical : vertical? (held e p b) = vertical? (held d p b) := by
    simp only [vertical?, map_snd_turned hheld]
  simp only [contentBox, hhorizontal, hvertical]

theorem frameBlocks_turned (h : d.Turned e) : frameBlocks style m e p = frameBlocks style m d p := by
  have hframe : frame style m e p = frame style m d p := by
    funext before b
    simp only [frame, contentBox_turned h]
  simp only [frameBlocks, hframe, h.blocks]

/-! ## Phases -/

theorem run_turned (hadd : ∀ a b : α, a + b = b + a) (h : d.Turned e) (p : Placement α) (phase : Phase) :
    run style m e p phase = run style m d p phase := by
  cases phase with
  | sizeActors =>
    show sizeActors style m e p = sizeActors style m d p
    simp only [sizeActors, h.actors]
  | placeEvents =>
    show placeEvents style m e p = placeEvents style m d p
    simp only [placeEvents, stackEvents_turned h.events, foldl_widenFor_turned h.events]
  | placeActors =>
    show placeActors style e p = placeActors style d p
    simp only [placeActors, zipWith_anchor_turned hadd h.events]
  | placeBars =>
    show placeBars style e p = placeBars style d p
    simp only [placeBars, h.activations]
  | frameBlocks => exact frameBlocks_turned h
  | sizeCanvas => rfl

theorem runAll_turned (hadd : ∀ a b : α, a + b = b + a) (h : d.Turned e) (p : Placement α) (phases : List Phase) :
    runAll style m e p phases = runAll style m d p phases := by
  have hrun : run style m e = run style m d := funext fun p => funext fun phase => run_turned hadd h p phase
  rw [runAll, runAll, hrun]

theorem place_turned (hadd : ∀ a b : α, a + b = b + a) (h : d.Turned e) (style : Style α) (m : TextMetrics α) :
    e.place style m = d.place style m := by
  have hunplaced : (Placement.unplaced e : Placement α) = .unplaced d := by
    have hcount := h.events.length_eq
    simp only [Placement.unplaced, h.actors, h.activations, h.blocks, List.map_const', hcount]
  rw [Diagram.place, Diagram.place, hunplaced]
  exact runAll_turned hadd h _ _

end Layout

/-- Turning any messages of a diagram round changes nothing of its layout, computed in binary64 or exactly. -/
theorem Diagram.place_reversed (d : Diagram) (which : Nat → Bool) :
    (∀ (style : Style Float) (m : TextMetrics Float), (d.reversed which).place style m = d.place style m) ∧
      ∀ (style : Style ℚ) (m : TextMetrics ℚ), (d.reversed which).place style m = d.place style m :=
  ⟨Layout.place_turned Scalar.add_comm_binary64 (d.turned_reversed which),
    Layout.place_turned add_comm (d.turned_reversed which)⟩

end SequenceDiagram
