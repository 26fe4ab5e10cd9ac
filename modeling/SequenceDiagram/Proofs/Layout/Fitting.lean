/-
  SequenceDiagram.Proofs.Layout.Fitting — a box for every part, whatever was run.

  A placement fits a diagram when each of its lists is as long as the list of parts it is
  about: labels and deltas for the actors, and boxes for events, activations and blocks
  (`Placement.Fits`). The unplaced diagram fits, and every phase keeps that on any
  placement with any style and any metrics (`Fits.run`), so it holds after every run of
  phases, in any order and as often as one likes (`Fits.runAll`).

  Rows and columns are as long as what they are made from. Bars and frames are lists in
  which each entry is made from those before it; entry k of such a list is made from
  part k and the k entries before (`foldl_snoc_getElem?`).
-/

import Mathlib.Data.List.Induction
import SequenceDiagram.Layout.Phases

namespace SequenceDiagram

namespace Layout

variable {α : Type} [Scalar α] {style : Style α} {m : TextMetrics α}

/-! ## Entry after entry -/

section

variable {β γ : Type} (f : List γ → β → γ)

theorem length_foldl_snoc (bs : List β) : (bs.foldl (fun done b => done ++ [f done b]) []).length = bs.length := by
  induction bs using List.reverseRecOn with
  | nil => rfl
  | append_singleton bs b ih => simp [List.foldl_append, ih]

/-- A list grown by results that are each made from those before it. -/
theorem foldl_snoc_getElem? (bs : List β) (k : Nat) :
    (bs.foldl (fun done b => done ++ [f done b]) [])[k]? =
      bs[k]?.map (f ((bs.foldl (fun done b => done ++ [f done b]) []).take k)) := by
  induction bs using List.reverseRecOn with
  | nil => rfl
  | append_singleton bs b ih =>
    have hlength := length_foldl_snoc f bs
    rw [List.foldl_append, List.foldl_cons, List.foldl_nil]
    rcases Nat.lt_trichotomy k bs.length with hlt | rfl | hgt
    · rw [List.getElem?_append_left (by omega), List.getElem?_append_left hlt, List.take_append_of_le_length (by omega), ih]
    · rw [List.getElem?_concat_length, ← hlength, List.getElem?_concat_length, List.take_left']
      · rfl
      · rfl
    · rw [List.getElem?_eq_none (by simp; omega), List.getElem?_eq_none (by simp; omega)]
      rfl

end

/-! ## Rows and columns -/

theorem length_stackEvents (y : α) (es : List Event) : (stackEvents style m y es).1.length = es.length := by
  induction es generalizing y with
  | nil => rfl
  | cons e es ih => exact congrArg (· + 1) (ih _)

@[simp] theorem length_widen (deltas : List α) (lo hi : Nat) (width : α) :
    (widen deltas lo hi width).length = deltas.length := by
  unfold widen
  split
  · rfl
  · split
    · rfl
    · exact List.length_mapIdx

theorem length_widenFor (deltas : List α) (e : Event) : (widenFor style m deltas e).length = deltas.length := by
  unfold widenFor
  split
  · exact length_widen ..
  · rfl

theorem length_foldl_widenFor (deltas : List α) (es : List Event) :
    (es.foldl (widenFor style m) deltas).length = deltas.length := by
  induction es generalizing deltas with
  | nil => rfl
  | cons e es ih => exact (ih _).trans (length_widenFor deltas e)

theorem length_lineUp {bs : List (Box α)} {deltas : List α} (before : Option (Box α)) (h : bs.length = deltas.length) :
    (lineUp style before bs deltas).length = bs.length := by
  induction bs generalizing before deltas with
  | nil => rfl
  | cons b bs ih =>
    cases deltas with
    | nil => cases h
    | cons delta deltas => exact congrArg (· + 1) (ih _ (Nat.succ.inj h))

end Layout

/-! ## Placements -/

/-- Every list of a placement is as long as the parts of the diagram it is about. -/
structure Placement.Fits {α : Type} (d : Diagram) (p : Placement α) : Prop where
  labels : p.labels.length = d.actors.length
  deltas : p.deltas.length = d.actors.length
  events : p.events.length = d.events.length
  bars : p.bars.length = d.activations.length
  frames : p.frames.length = d.blocks.length

namespace Placement.Fits

open Layout

variable {α : Type} [Scalar α] {style : Style α} {m : TextMetrics α} {d : Diagram} {p : Placement α}

theorem unplaced (d : Diagram) : (Placement.unplaced d : Placement α).Fits d :=
  ⟨List.length_map _, List.length_map _, List.length_map _, List.length_map _, List.length_map _⟩

theorem sizeActors (h : p.Fits d) : (sizeActors style m d p).Fits d where
  labels := List.length_map _
  deltas := by
    show (List.mapIdx _ (d.actors.map _)).length = _
    rw [List.length_mapIdx, List.length_map]
  events := h.events
  bars := h.bars
  frames := h.frames

theorem placeEvents (h : p.Fits d) : (placeEvents style m d p).Fits d where
  labels := h.labels
  deltas := (length_foldl_widenFor p.deltas d.events).trans h.deltas
  events := length_stackEvents _ _
  bars := h.bars
  frames := h.frames

theorem placeActors (h : p.Fits d) : (placeActors style d p).Fits d where
  labels := (length_lineUp none (h.labels.trans h.deltas.symm)).trans h.labels
  deltas := h.deltas
  events := by
    show (List.zipWith _ d.events p.events).length = _
    rw [List.length_zipWith, h.events, Nat.min_self]
  bars := h.bars
  frames := h.frames

theorem placeBars (h : p.Fits d) : (placeBars style d p).Fits d where
  labels := h.labels
  deltas := h.deltas
  events := h.events
  bars := length_foldl_snoc (bar style p) d.activations
  frames := h.frames

theorem frameBlocks (h : p.Fits d) : (frameBlocks style m d p).Fits d where
  labels := h.labels
  deltas := h.deltas
  events := h.events
  bars := h.bars
  frames := (List.length_map _).trans (length_foldl_snoc (fun before b => (b, frame style m d p before b)) d.blocks)

theorem sizeCanvas (h : p.Fits d) : (sizeCanvas style p).Fits d := by
  have hmoved : ∀ dx : α, (shiftRight dx p).Fits d := fun dx =>
    ⟨(List.length_map _).trans h.labels, h.deltas, (List.length_map _).trans h.events,
      (List.length_map _).trans h.bars, (List.length_map _).trans h.frames⟩
  have hclear : (clearLeft style p).Fits d := by
    unfold clearLeft
    split
    · split
      · exact hmoved _
      · exact h
    · exact h
  exact ⟨hclear.labels, hclear.deltas, hclear.events, hclear.bars, hclear.frames⟩

theorem run (h : p.Fits d) (phase : Phase) : (run style m d p phase).Fits d := by
  cases phase with
  | sizeActors => exact h.sizeActors
  | placeEvents => exact h.placeEvents
  | placeActors => exact h.placeActors
  | placeBars => exact h.placeBars
  | frameBlocks => exact h.frameBlocks
  | sizeCanvas => exact h.sizeCanvas

theorem runAll (h : p.Fits d) (phases : List Phase) : (runAll style m d p phases).Fits d := by
  induction phases generalizing p with
  | nil => exact h
  | cons phase phases ih => exact ih (h.run phase)

theorem place (style : Style α) (m : TextMetrics α) (d : Diagram) : (d.place style m).Fits d :=
  (unplaced d).runAll phases

end Placement.Fits

end SequenceDiagram
