/-
  SequenceDiagram.Proofs.Drawing.Unnumbered — layout and drawing do not look at line numbers.

  Every phase reads of an event what it says and where it stands among the events, so it
  makes the same placement of a diagram and of the diagram without its lines
  (`run_unnumbered`), and so does a full layout (`place_unnumbered`). The shapes and the
  written drawing are the same as well (`draw_unnumbered`).
-/

import SequenceDiagram.Typesetter
import SequenceDiagram.Proofs.Diagram.Unnumbered

namespace SequenceDiagram

/-! ## Layout -/

namespace Layout

variable {α : Type} [Scalar α] (style : Style α) (m : TextMetrics α) (d : Diagram) (p : Placement α)

theorem stackEvents_unnumbered (y : α) (es : List Event) :
    stackEvents style m y (es.map Event.unnumbered) = stackEvents style m y es := by
  induction es generalizing y with
  | nil => rfl
  | cons e es ih => simp only [List.map_cons, stackEvents, ih, Event.unnumbered]

theorem placeEvents_unnumbered : placeEvents style m d.unnumbered p = placeEvents style m d p := by
  have hdeltas : d.unnumbered.events.foldl (widenFor style m) p.deltas = d.events.foldl (widenFor style m) p.deltas :=
    List.foldl_map
  have hstack : ∀ y, stackEvents style m y d.unnumbered.events = stackEvents style m y d.events :=
    fun y => stackEvents_unnumbered style m y d.events
  simp only [placeEvents, hstack, hdeltas]

theorem placeActors_unnumbered : placeActors style d.unnumbered p = placeActors style d p := by
  simp only [placeActors, Diagram.unnumbered, List.zipWith_map_left]
  rfl

omit [Scalar α] in
theorem held_unnumbered (b : Block) :
    held d.unnumbered p b = (held d p b).map fun (e, box) => (e.unnumbered, box) := by
  simp only [held, Diagram.unnumbered, List.zip_map_left, List.map_take, List.map_drop]
  rfl

theorem horizontal?_unnumbered (events : List (Event × Box α)) :
    horizontal? d.unnumbered p (events.map fun (e, box) => (e.unnumbered, box)) = horizontal? d p events := by
  simp only [horizontal?, coveredActors?, List.flatMap_map, List.filter_map, List.map_map]
  rfl

theorem contentBox_unnumbered (b : Block) : contentBox style d.unnumbered p b = contentBox style d p b := by
  simp only [contentBox, held_unnumbered, horizontal?_unnumbered, vertical?, List.map_map]
  rfl

theorem frameBlocks_unnumbered : frameBlocks style m d.unnumbered p = frameBlocks style m d p := by
  have hframe : frame style m d.unnumbered p = frame style m d p := by
    funext before b
    simp only [frame, contentBox_unnumbered]
  simp only [frameBlocks, hframe]
  rfl

theorem run_unnumbered (phase : Phase) : run style m d.unnumbered p phase = run style m d p phase := by
  cases phase with
  | sizeActors => rfl
  | placeEvents => exact placeEvents_unnumbered style m d p
  | placeActors => exact placeActors_unnumbered style d p
  | placeBars => rfl
  | frameBlocks => exact frameBlocks_unnumbered style m d p
  | sizeCanvas => rfl

theorem runAll_unnumbered (phases : List Phase) : runAll style m d.unnumbered p phases = runAll style m d p phases := by
  have hrun : run style m d.unnumbered = run style m d :=
    funext fun p => funext fun phase => run_unnumbered style m d p phase
  rw [runAll, runAll, hrun]

end Layout

theorem Diagram.place_unnumbered {α : Type} [Scalar α] (style : Style α) (m : TextMetrics α) (d : Diagram) :
    d.unnumbered.place style m = d.place style m := by
  have hunplaced : (Placement.unplaced d.unnumbered : Placement α) = .unplaced d := by
    simp only [Placement.unplaced, Diagram.unnumbered, List.map_map]
    rfl
  rw [place, place, hunplaced]
  exact Layout.runAll_unnumbered style m d _ _

/-! ## Drawing -/

namespace Drawing

variable {α : Type} [Scalar α] (style : Style α) (d : Diagram) (p : Placement α)

theorem activeBar?_unnumbered (actor event : Nat) : activeBar? d.unnumbered p actor event = activeBar? d p actor event := by
  have hcovers : d.unnumbered.covers event = d.covers event := by
    funext a
    simp only [Diagram.covers, Diagram.length_events_unnumbered]
  simp only [activeBar?, Diagram.activationAt?, hcovers]
  rfl

theorem eventShapes_unnumbered (event : Nat) (e : Event) (b : Box α) :
    eventShapes style d.unnumbered p event e.unnumbered b = eventShapes style d p event e b := by
  obtain ⟨line, action⟩ := e
  cases action with
  | message arrow source destination text activation =>
    simp only [eventShapes, Event.unnumbered, selfMessageShapes, messageShapes, messageEnds, activeBar?_unnumbered]
  | _ => rfl

theorem scene_unnumbered : scene style d.unnumbered p = scene style d p := by
  have hevents : (d.unnumbered.events.zip p.events).mapIdx (fun i (e, b) => eventShapes style d.unnumbered p i e b) =
      (d.events.zip p.events).mapIdx fun i (e, b) => eventShapes style d p i e b := by
    refine List.ext_getElem? fun i => ?_
    simp only [Diagram.unnumbered, List.zip_map_left, List.getElem?_mapIdx, List.getElem?_map, Option.map_map]
    exact congrArg (Option.map · _) (funext fun x => eventShapes_unnumbered style d p i x.1 x.2)
  rw [scene, scene, hevents]
  rfl

end Drawing

theorem Typesetter.draw_unnumbered {α : Type} [Numeral α] (style : Style α) (d : Diagram) (p : Placement α) :
    draw style d.unnumbered p = draw style d p := by
  rw [draw, draw, Drawing.scene_unnumbered]

end SequenceDiagram
