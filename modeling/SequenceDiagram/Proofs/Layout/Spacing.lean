/-
  SequenceDiagram.Proofs.Layout.Spacing — what the distances between lifelines depend on.

  Two diagrams with the same actors may say different things between their messages: notes
  and block markers come and go, arrows are dashed or solid and start or end activations.
  What the messages ask for is told by their two ends and their texts (`requests_eq`), so
  if these are the same in the same order, the two layouts have equal deltas and lifelines
  equally far apart. The layouts themselves differ, and so does how far each is moved
  clear of the left edge, since that goes by notes and frames.

  Carried through the phases is `Spaced`: equal deltas, and the labels of one layout are
  those of the other some way to the right. No phase but the last moves labels by
  something the two diagrams do not share, and it moves all of them alike; placing labels
  takes from the old ones only their sizes, so that the way to the right is forgotten
  (`lineUp_shifted`). Phases run in step keep it (`Spaced.run`), whatever they are, in
  whatever order and with whatever lengths (`Spaced.runs`).
-/

import SequenceDiagram.Proofs.InPlace.Layout
import SequenceDiagram.Proofs.Layout.Placing

namespace SequenceDiagram

/-- The ends and the text of a message. -/
def Action.sent? : Action → Option (Nat × Nat × String)
  | .message _ source destination text _ => some (source, destination, text)
  | _ => none

/-- The messages of a diagram, without their arrows. -/
def Diagram.sent (d : Diagram) : List (Nat × Nat × String) := d.events.filterMap (·.action.sent?)

namespace Layout

variable {style : Style ℚ} {m : TextMetrics ℚ} {d e : Diagram} {p q : Placement ℚ}

/-- What a message with these ends and this text asks for, whatever its arrow. -/
def requestOf? (style : Style ℚ) (m : TextMetrics ℚ) (actors : Nat) : Nat × Nat × String → Option Request
  | (source, destination, text) =>
    let plain : Action := .message ⟨.solid, none⟩ source destination text none
    (gap? actors plain).map fun (lo, hi) => ⟨lo, hi, (eventSize style m plain).width⟩

theorem requests_eq (style : Style ℚ) (m : TextMetrics ℚ) (actors : Nat) (d : Diagram) :
    requests style m actors d.events = d.sent.filterMap (requestOf? style m actors) := by
  unfold requests Diagram.sent
  rw [List.filterMap_filterMap]
  refine congrArg (List.filterMap · d.events) (funext fun e => ?_)
  obtain ⟨line, action⟩ := e
  cases action with
  | message arrow source destination text activation => rfl
  | note side actors text => rfl
  | blockStart kind text => rfl
  | blockEnd => rfl

/-- Labels that were moved before are placed where they would be otherwise. -/
theorem lineUp_shifted (style : Style ℚ) (before : Option (Box ℚ)) (bs : List (Box ℚ)) (deltas : List ℚ) (dx : ℚ) :
    lineUp style before (bs.map (·.shift dx 0)) deltas = lineUp style before bs deltas := by
  induction bs generalizing before deltas with
  | nil => rfl
  | cons b bs ih =>
    cases deltas with
    | nil => rfl
    | cons delta deltas =>
      have hmoved : ∀ x, (b.shift dx 0).moveTo x = b.moveTo x := by
        intro x
        show (⟨_, _, _, _⟩ : Box ℚ) = ⟨_, _, _, _⟩
        simp only [Box.shift_left, Box.shift_top, Box.shift_right, Box.shift_bottom, add_zero, Box.mk.injEq]
        refine ⟨?_, trivial, ?_, trivial⟩ <;> ring
      rw [List.map_cons, lineUp_cons, lineUp_cons, Box.shift_width, hmoved, ih]

/-- Deltas are equal, and the labels of one placement are those of another some way to the right. -/
structure Spaced (p q : Placement ℚ) : Prop where
  deltas : q.deltas = p.deltas
  labels : ∃ dx, q.labels = p.labels.map (·.shift dx 0)

namespace Spaced

theorem of_eq (hdeltas : q.deltas = p.deltas) (hlabels : q.labels = p.labels) : Spaced p q := by
  refine ⟨hdeltas, 0, ?_⟩
  simp only [hlabels, Box.shift_zero, List.map_id']

theorem sizeActors (hnames : d.names = e.names) (p q : Placement ℚ) :
    Spaced (sizeActors style m d p) (sizeActors style m e q) := by
  have hsized : ∀ g : Diagram, g.actors.map (fun a => Box.ofSize (labelSize style m a.name)) =
      g.names.map fun name => Box.ofSize (labelSize style m name) := by
    intro g
    unfold Diagram.names
    rw [List.map_map]
    rfl
  have hlabels : e.actors.map (fun a => Box.ofSize (labelSize style m a.name)) =
      d.actors.map fun a => Box.ofSize (labelSize style m a.name) := by rw [hsized, hsized, hnames]
  exact of_eq (congrArg (List.mapIdx _) hlabels) hlabels

theorem placeEvents (h : Spaced p q) (hsent : d.sent = e.sent) :
    Spaced (placeEvents style m d p) (placeEvents style m e q) := by
  have hdeltas : e.events.foldl (widenFor style m) q.deltas = d.events.foldl (widenFor style m) p.deltas := by
    rw [foldl_widenFor, foldl_widenFor, requests_eq, requests_eq, h.deltas, hsent]
  exact ⟨hdeltas, h.labels⟩

theorem placeActors (h : Spaced p q) : Spaced (placeActors style d p) (placeActors style e q) := by
  obtain ⟨dx, hlabels⟩ := h.labels
  have hplaced : lineUp style none q.labels q.deltas = lineUp style none p.labels p.deltas := by
    rw [hlabels, h.deltas, lineUp_shifted]
  exact of_eq h.deltas hplaced

theorem sizeCanvas (h : Spaced p q) : Spaced (sizeCanvas style p) (sizeCanvas style q) := by
  obtain ⟨dx, hlabels⟩ := h.labels
  obtain ⟨there, -, hp, -⟩ := clearLeft_eq style p
  obtain ⟨here, -, hq, -⟩ := clearLeft_eq style q
  have hclear : Spaced (clearLeft style p) (clearLeft style q) := by
    rw [hp, hq]
    refine ⟨h.deltas, dx + here - there, ?_⟩
    show q.labels.map (·.shift here 0) = (p.labels.map (·.shift there 0)).map (·.shift (dx + here - there) 0)
    rw [hlabels, List.map_map, List.map_map]
    refine congrArg (List.map · p.labels) (funext fun b => ?_)
    show (⟨_, _, _, _⟩ : Box ℚ) = ⟨_, _, _, _⟩
    simp only [Box.shift_left, Box.shift_top, Box.shift_right, Box.shift_bottom, Box.mk.injEq]
    refine ⟨?_, trivial, ?_, trivial⟩ <;> ring
  exact ⟨hclear.deltas, hclear.labels⟩

theorem run (h : Spaced p q) (hnames : d.names = e.names) (hsent : d.sent = e.sent) (phase : Phase) :
    Spaced (run style m d p phase) (run style m e q phase) := by
  cases phase with
  | sizeActors => exact sizeActors hnames p q
  | placeEvents => exact h.placeEvents hsent
  | placeActors => exact h.placeActors
  | sizeCanvas => exact h.sizeCanvas
  -- bars and frames are drawn, and labels and deltas left as they are
  | placeBars => exact ⟨h.deltas, h.labels⟩
  | frameBlocks => exact ⟨h.deltas, h.labels⟩

/-- Phases in place, on both diagrams in step. -/
theorem runs (h : Spaced p q) (hd : d.Indexed) (he : e.Indexed) (hp : p.Fits d) (hq : q.Fits e)
    (hnames : d.names = e.names) (hsent : d.sent = e.sent) (steps : List (Style ℚ × TextMetrics ℚ × Phase)) :
    Spaced (InPlace.runs d p steps) (InPlace.runs e q steps) := by
  induction steps generalizing p q with
  | nil => exact h
  | cons step steps ih =>
    obtain ⟨style, m, phase⟩ := step
    have hstep : Spaced (InPlace.run style m d p phase) (InPlace.run style m e q phase) := by
      rw [InPlace.run_eq hd hp, InPlace.run_eq he hq]
      exact h.run hnames hsent phase
    exact ih hstep (InPlace.fits_run hd hp phase) (InPlace.fits_run he hq phase)

theorem unplaced (hnames : d.names = e.names) : Spaced (.unplaced d) (.unplaced e) := by
  have hcount : e.actors.length = d.actors.length := by
    have hlength := congrArg List.length hnames
    unfold Diagram.names at hlength
    rw [List.length_map, List.length_map] at hlength
    exact hlength.symm
  have hsame : ∀ {β : Type} (b : β), e.actors.map (fun _ => b) = d.actors.map fun _ => b := by
    intro β b
    rw [List.map_const', List.map_const', hcount]
  exact of_eq (hsame _) (hsame _)

theorem midX (h : Spaced p q) {i j : Nat} (hi : i < p.labels.length) (hj : j < p.labels.length) :
    (q.labelBox j).midX - (q.labelBox i).midX = (p.labelBox j).midX - (p.labelBox i).midX := by
  obtain ⟨dx, hlabels⟩ := h.labels
  have hbox : ∀ k, k < p.labels.length → q.labelBox k = (p.labelBox k).shift dx 0 := by
    intro k hk
    apply Placement.labelBox_eq
    rw [hlabels, List.getElem?_map, Placement.labels_getElem? hk]
    rfl
  rw [hbox i hi, hbox j hj, Box.shift_midX, Box.shift_midX]
  ring

end Spaced

/-- In two layouts of so many actors deltas are equal and lifelines equally far apart. -/
structure EquallySpaced (actors : Nat) (p q : Placement ℚ) : Prop where
  count : p.deltas.length = actors
  deltas : q.deltas = p.deltas
  distance : ∀ i j, i < actors → j < actors →
    (q.labelBox j).midX - (q.labelBox i).midX = (p.labelBox j).midX - (p.labelBox i).midX

theorem Spaced.equally (h : Spaced p q) (hp : p.Fits d) : EquallySpaced d.actors.length p q :=
  ⟨hp.deltas, h.deltas, fun _ _ hi hj => h.midX (hp.labels ▸ hi) (hp.labels ▸ hj)⟩

end Layout

namespace InPlace

open Layout (EquallySpaced Spaced)

/-- The layout of a diagram is a run in place of its phases. -/
theorem runs_phases {d : Diagram} (hd : d.Indexed) (style : Style ℚ) (m : TextMetrics ℚ) :
    runs d (.unplaced d) (Layout.phases.map fun phase => (style, m, phase)) = d.place style m := calc
  runs d (.unplaced d) (Layout.phases.map fun phase => (style, m, phase)) = arrange style m d (.unplaced d) :=
    List.foldl_map
  _ = Layout.arrange style m d (.unplaced d) := arrange_eq hd (.unplaced d)

/-- Diagrams with the same actors and messages, whatever their arrows and what stands between them, have
    lifelines spaced equally in their layouts, and after every run of the same phases. -/
theorem spacing_of_build {ss ts : List Numbered} {d e : Diagram} (h : Diagram.build ss = .ok d)
    (h' : Diagram.build ts = .ok e) (hnames : d.names = e.names) (hsent : d.sent = e.sent) :
    (∀ style m, EquallySpaced d.actors.length (d.place style m) (e.place style m)) ∧
      ∀ steps : List (Style ℚ × TextMetrics ℚ × Phase),
        EquallySpaced d.actors.length (runs d (.unplaced d) steps) (runs e (.unplaced e) steps) := by
  have hd := Diagram.indexed_of_build h
  have he := Diagram.indexed_of_build h'
  have hruns : ∀ steps, EquallySpaced d.actors.length (runs d (.unplaced d) steps) (runs e (.unplaced e) steps) :=
    fun steps => ((Spaced.unplaced hnames).runs hd he (.unplaced d) (.unplaced e) hnames hsent steps).equally
      (fits_runs hd (.unplaced d) steps)
  refine ⟨fun style m => ?_, hruns⟩
  rw [← runs_phases hd, ← runs_phases he]
  exact hruns _

/-- A note far to the left and a frame push all lifelines to the right, and none away from another. -/
theorem spacing_pushed :
    ∃ ss, ss = [⟨1, .message "a" ⟨.solid, none⟩ "c" "a long way to go"⟩, ⟨2, .message "b" ⟨.solid, none⟩ "b" "x"⟩,
      ⟨3, .message "c" ⟨.solid, none⟩ "b" "back"⟩] ∧
    ∃ ts, ts = [⟨1, .note .left ["a"] "far to the left of everything"⟩, ⟨2, .blockStart .loop "left open"⟩,
      ⟨3, .message "a" ⟨.dashed, some .start⟩ "c" "a long way to go"⟩,
      ⟨4, .note .over ["c", "b", "a"] "over all of them, and wider than they are apart"⟩,
      ⟨5, .message "b" ⟨.solid, some .start⟩ "b" "x"⟩, ⟨6, .blockStart .alt "inner"⟩,
      ⟨7, .message "c" ⟨.solid, some .finish⟩ "b" "back"⟩, ⟨8, .blockEnd⟩] ∧
    ∃ d e, Diagram.build ss = .ok d ∧ Diagram.build ts = .ok e ∧ d.names = e.names ∧ d.sent = e.sent ∧
    ∃ style : Style ℚ, style = .default ∧ ∃ m : TextMetrics ℚ, m = .fixed 8 16 ∧
      (d.place style m).lifelines = [49, 227, 309] ∧ (e.place style m).lifelines = [282, 460, 542] ∧
      (d.place style m).deltas = [0, 178, 82] ∧
      EquallySpaced d.actors.length (d.place style m) (e.place style m) := by
  refine ⟨_, rfl, _, rfl, ?d, ?e, ?build, ?build', ?names, ?sent, _, rfl, _, rfl, ?lifelines, ?lifelines', ?deltas,
    (spacing_of_build ?build ?build' ?names ?sent).1 _ _⟩
  case build => exact rfl
  case build' => exact rfl
  case names => decide +kernel
  case sent => decide +kernel
  case lifelines => decide +kernel
  case lifelines' => decide +kernel
  case deltas => decide +kernel

end InPlace

end SequenceDiagram
