/-
  SequenceDiagram.Proofs.Layout.Settling — a phase run once more.

  A phase that runs again on what it has made, with the same style and metrics, changes
  nothing, whatever it was run on first (`run_again`). Three phases read nothing that they
  write. The others do, and find it as they would leave it:

  - every request for room is met by the deltas at the end of a run, so none of them
    widens a gap again (`widenAll_again`);
  - a label or an event that has been moved is as wide as before, and one that is moved
    again goes to the same place (`lineUp_again`, `anchor_again`). A note over several
    actors may have become wider, but it is then wide enough;
  - nothing that has been moved clear of the left edge is near it (`clearLeft_again`).

  Bars are made from labels and events, and frames too, so the two phases may be
  exchanged. Phases that write over an earlier layout are no different, as long as it
  fits the diagram, and every layout that phases lead to does (`settles_of_build`).
-/

import SequenceDiagram.Proofs.InPlace.Layout
import SequenceDiagram.Proofs.Layout.Placing
import SequenceDiagram.Proofs.Layout.Widening

namespace SequenceDiagram

/-! ## Boxes moved and drawn again -/

namespace Box

theorem moveTo_moveTo (b : Box ℚ) (x y : ℚ) : (b.moveTo x).moveTo y = b.moveTo y := by
  show (b.moveTo x).shift (y - (b.moveTo x).left) 0 = b.shift (y - b.left) 0
  rw [moveTo_left]
  show (⟨_, _, _, _⟩ : Box ℚ) = ⟨_, _, _, _⟩
  simp only [moveTo_left, moveTo_top, moveTo_right, moveTo_bottom, width_eq, mk.injEq]
  refine ⟨?_, trivial, ?_, trivial⟩ <;> ring

theorem ofCorners_exact (x0 y0 x1 y1 : ℚ) :
    ofCorners x0 y0 x1 y1 = ⟨min x0 x1, min y0 y1, max x0 x1, max y0 y1⟩ := by
  unfold ofCorners
  rcases lt_or_ge x1 x0 with hx | hx <;> rcases lt_or_ge y1 y0 with hy | hy <;>
    simp [hx, hy, hx.le, hy.le, not_lt.mpr]

end Box

namespace Layout

/-! ## Requests for room -/

variable {style : Style ℚ} {m : TextMetrics ℚ} {d : Diagram} {p : Placement ℚ}

theorem placeEvents_again (style : Style ℚ) (m : TextMetrics ℚ) (d : Diagram) (p : Placement ℚ) :
    placeEvents style m d (placeEvents style m d p) = placeEvents style m d p := by
  have hdeltas : d.events.foldl (widenFor style m) (d.events.foldl (widenFor style m) p.deltas) =
      d.events.foldl (widenFor style m) p.deltas := by
    rw [foldl_widenFor p.deltas, foldl_widenFor, length_widenAll, widenAll_again _ (List.Subset.refl _)]
  exact congrArg (fun deltas => { placeEvents style m d p with deltas }) hdeltas

/-! ## Labels and events -/

theorem lineUp_again (style : Style ℚ) (before : Option (Box ℚ)) (bs : List (Box ℚ)) (deltas : List ℚ) :
    lineUp style before (lineUp style before bs deltas) deltas = lineUp style before bs deltas := by
  induction bs generalizing before deltas with
  | nil => rfl
  | cons b bs ih =>
    cases deltas with
    | nil => rfl
    | cons delta deltas => rw [lineUp_cons, lineUp_cons, Box.moveTo_width, Box.moveTo_moveTo, ih]

/-- A note over several actors whose lifelines are a distance apart, drawn around their middle. -/
def spread (x distance : ℚ) (b : Box ℚ) : Box ℚ :=
  let reach := Scalar.half (Scalar.larger b.width distance)
  Box.ofCorners (x - reach) b.top (x + reach) b.bottom

theorem spread_eq {distance : ℚ} (h : 0 ≤ distance) (x : ℚ) (b : Box ℚ) : spread x distance b =
    ⟨x - max b.width distance / 2, min b.top b.bottom, x + max b.width distance / 2, max b.top b.bottom⟩ := by
  have hreach : 0 ≤ max b.width distance / 2 := div_nonneg (h.trans (le_max_right _ _)) (by norm_num)
  have hcorners : x - max b.width distance / 2 ≤ x + max b.width distance / 2 := by linarith
  unfold spread
  rw [Scalar.larger_exact, Scalar.half_exact, Box.ofCorners_exact, min_eq_left hcorners, max_eq_right hcorners]

/-- A note that is drawn again is wide enough already. -/
theorem spread_again {distance : ℚ} (h : 0 ≤ distance) (x : ℚ) (b : Box ℚ) :
    spread x distance (spread x distance b) = spread x distance b := by
  have hwidth : (spread x distance b).width = max b.width distance := by
    rw [spread_eq h, Box.width_eq]
    ring
  rw [spread_eq h x (spread x distance b), hwidth, max_eq_left (le_max_right b.width distance), spread_eq h x b]
  simp only [Box.mk.injEq, true_and]
  exact ⟨min_eq_left min_le_max, max_eq_right min_le_max⟩

theorem anchor_over_again (style : Style ℚ) (lifelines : List ℚ) (line : Nat) (actors : List Nat) (text : String)
    (b : Box ℚ) : anchor style lifelines ⟨line, .note .over actors text⟩
      (anchor style lifelines ⟨line, .note .over actors text⟩ b) =
        anchor style lifelines ⟨line, .note .over actors text⟩ b := by
  simp only [anchor]
  cases hrange : Scalar.range? (actors.map (lifeline lifelines)) with
  | none => exact Box.moveTo_moveTo ..
  | some range =>
    obtain ⟨first, last⟩ := range
    obtain ⟨hfirst, -, hleast⟩ := Scalar.range?_eq_some hrange
    exact spread_again (sub_nonneg.mpr (hleast _ hfirst).2) _ b

/-- An event goes to the same place again. -/
theorem anchor_again (style : Style ℚ) (lifelines : List ℚ) (e : Event) (b : Box ℚ) :
    anchor style lifelines e (anchor style lifelines e b) = anchor style lifelines e b := by
  obtain ⟨line, action⟩ := e
  cases action with
  | message arrow source destination text activation =>
    simp only [anchor]
    split
    · exact Box.moveTo_moveTo ..
    · rw [Box.moveTo_width, Box.moveTo_moveTo]
  | note side actors text =>
    cases side
    case left =>
      simp only [anchor]
      rw [Box.moveTo_width, Box.moveTo_moveTo]
    case right => exact Box.moveTo_moveTo ..
    exact anchor_over_again ..
  | blockStart kind text => exact Box.moveTo_moveTo ..
  | blockEnd => exact Box.moveTo_moveTo ..

theorem zipWith_again {β γ : Type} {f : β → γ → γ} (h : ∀ x y, f x (f x y) = f x y) (xs : List β) (ys : List γ) :
    List.zipWith f xs (List.zipWith f xs ys) = List.zipWith f xs ys := by
  induction xs generalizing ys with
  | nil => rfl
  | cons x xs ih =>
    cases ys with
    | nil => rfl
    | cons y ys => exact congrArg₂ List.cons (h x y) (ih ys)

theorem placeActors_again (style : Style ℚ) (d : Diagram) (p : Placement ℚ) :
    placeActors style d (placeActors style d p) = placeActors style d p := by
  unfold placeActors
  simp only [lineUp_again, zipWith_again (anchor_again style _)]

/-! ## The left edge -/

theorem clearLeft_of_clear (h : ∀ x ∈ leftEdges p, style.groupPadding ≤ x) : clearLeft style p = p := by
  have hedge : leftEdge? p = (Scalar.range? (leftEdges p)).map (·.1) := rfl
  unfold clearLeft
  rw [hedge]
  cases hrange : Scalar.range? (leftEdges p) with
  | none => rfl
  | some range => exact if_neg (not_lt.mpr (h _ (Scalar.range?_eq_some hrange).1))

theorem clearLeft_again (style : Style ℚ) (p : Placement ℚ) :
    clearLeft style (clearLeft style p) = clearLeft style p := by
  obtain ⟨dx, -, heq, hclear⟩ := clearLeft_eq style p
  apply clearLeft_of_clear
  rw [heq, leftEdges_shiftRight]
  exact List.forall_mem_map.mpr hclear

theorem sizeCanvas_again (style : Style ℚ) (p : Placement ℚ) :
    sizeCanvas style (sizeCanvas style p) = sizeCanvas style p := calc
  sizeCanvas style (sizeCanvas style p) = sizeCanvas style (clearLeft style p) := InPlace.sizeCanvas_of_canvas _ _
  _ = sizeCanvas style p := by
    unfold sizeCanvas
    rw [clearLeft_again]

/-! ## Every phase -/

theorem run_again (style : Style ℚ) (m : TextMetrics ℚ) (d : Diagram) (p : Placement ℚ) (phase : Phase) :
    run style m d (run style m d p phase) phase = run style m d p phase := by
  cases phase with
  | placeEvents => exact placeEvents_again style m d p
  | placeActors => exact placeActors_again style d p
  | sizeCanvas => exact sizeCanvas_again style p
  -- labels are measured, and bars and frames drawn, from what the phase does not write
  | sizeActors => rfl
  | placeBars => rfl
  | frameBlocks => rfl

/-- Bars and frames are made from the same labels and events. -/
theorem bars_frames_exchanged (style : Style ℚ) (m : TextMetrics ℚ) (d : Diagram) (p : Placement ℚ) :
    frameBlocks style m d (placeBars style d p) = placeBars style d (frameBlocks style m d p) := rfl

/-- What phases make of a placement they make of it in one run. -/
structure Settles (run : Placement ℚ → Phase → Placement ℚ) (p : Placement ℚ) : Prop where
  again : ∀ phase, run (run p phase) phase = run p phase
  exchanged : run (run p .placeBars) .frameBlocks = run (run p .frameBlocks) .placeBars

theorem settles_run (style : Style ℚ) (m : TextMetrics ℚ) (d : Diagram) (p : Placement ℚ) :
    Settles (run style m d) p :=
  ⟨run_again style m d p, bars_frames_exchanged style m d p⟩

end Layout

namespace InPlace

open Layout (Settles)

variable {d : Diagram} {p : Placement ℚ}

theorem settles_of_fits (hd : d.Indexed) (h : p.Fits d) (style : Style ℚ) (m : TextMetrics ℚ) :
    Settles (run style m d) p := by
  have hrun : ∀ phase phase', run style m d (run style m d p phase) phase' =
      Layout.run style m d (Layout.run style m d p phase) phase' := by
    intro phase phase'
    rw [run_eq hd (fits_run hd h phase), run_eq hd h]
  have hsettles := Layout.settles_run style m d p
  constructor
  · intro phase
    rw [hrun, run_eq hd h]
    exact hsettles.again phase
  · rw [hrun, hrun]
    exact hsettles.exchanged

/-- A phase run again changes nothing, and bars and frames may be made in either order: on any
    placement, and in place on whatever phases have led to, each with a style and metrics of its own. -/
theorem settles_of_build {ss : List Numbered} {d : Diagram} (h : Diagram.build ss = .ok d) (style : Style ℚ)
    (m : TextMetrics ℚ) : (∀ p, Settles (Layout.run style m d) p) ∧
      ∀ steps : List (Style ℚ × TextMetrics ℚ × Phase), Settles (run style m d) (runs d (.unplaced d) steps) :=
  have hd := Diagram.indexed_of_build h
  ⟨Layout.settles_run style m d, fun steps => settles_of_fits hd (fits_runs hd (.unplaced d) steps) style m⟩

/-- Events stacked in another font and before any label has a size, frames around them, and the events
    stacked again but not the frames: no phase leaves that as it is. -/
theorem settles_over_unordered :
    ∃ ss, ss = [⟨1, .message "a" ⟨.solid, some .start⟩ "b" "out"⟩, ⟨2, .blockStart .loop "outer"⟩,
      ⟨3, .message "b" ⟨.solid, some .start⟩ "b" "again"⟩, ⟨4, .note .left ["a"] "far to the left"⟩,
      ⟨5, .note .over ["b", "a"] "x"⟩, ⟨6, .blockStart .alt "inner"⟩, ⟨7, .blockEnd⟩,
      ⟨8, .message "b" ⟨.dashed, some .finish⟩ "a" "back"⟩, ⟨9, .blockEnd⟩] ∧
    ∃ d, Diagram.build ss = .ok d ∧ d.activations.map Activation.parent = [none, some 0] ∧
    ∃ steps, steps = [(Style.default.withFontSizes 20 20, TextMetrics.estimated, Phase.placeEvents),
      (.default, .fixed 8 16, .sizeActors), (.default, .fixed 8 16, .frameBlocks),
      (.default, .estimated, .placeEvents)] ∧
    ∃ p : Placement ℚ, p = runs d (.unplaced d) steps ∧
      p.frames.map Frame.box = [⟨-10, 350, 60, 414⟩, ⟨-15, 74, 190, 528⟩] ∧ p.deltas = [0, 77] ∧
      (∀ phase, run .default (.fixed 8 16) d p phase ≠ p) ∧
      Settles (Layout.run .default (.fixed 8 16) d) p ∧ Settles (run .default (.fixed 8 16) d) p := by
  refine ⟨_, rfl, ?d, ?build, ?parents, _, rfl, _, rfl, ?frames, ?deltas, fun phase => ?moved,
    (settles_of_build ?build .default (.fixed 8 16)).1 _, (settles_of_build ?build .default (.fixed 8 16)).2 _⟩
  case build => exact rfl
  case parents => rfl
  case frames => decide +kernel
  case deltas => decide +kernel
  case moved => cases phase <;> decide +kernel

end InPlace

end SequenceDiagram
