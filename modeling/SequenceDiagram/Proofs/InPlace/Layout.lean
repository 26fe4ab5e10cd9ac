/-
  SequenceDiagram.Proofs.InPlace.Layout — layout written over an earlier one.

  Here the phases own one placement and write its entries one at a time, in the order of
  the parts, over whatever stands there: a round reads entries that are already new and
  leaves the later ones old. Boxes are moved where they stand, deltas are raised where
  they stand, and a bar reads its parent's bar from the list it is written to.

  After k rounds of a loop a list is the first k entries of the finished one, followed by
  what stood after them before (`overwritten`), and no round reads that rest: a parent
  stands before its activation, and a frame takes in frames of blocks before its own. So
  on any placement that fits the diagram a phase in place has the result of the phase
  itself (`run_eq`), and a layout that of the layout (`arrange_eq`).

  Of the phases in order the first three set what bars and frames are made from, and
  these are made from nothing else (`boxed_eq`). So a layout is the same from every
  placement (`arrange_eq_place`), and in place nothing is left of earlier ones, with
  whatever styles and metrics and in whatever order they were made
  (`forgetful_of_build`).
-/

import SequenceDiagram.Proofs.Diagram.Indices
import SequenceDiagram.Proofs.Layout.Fitting

namespace SequenceDiagram.InPlace

open Scalar (ofNat larger)
open Layout (labelSize eventSize widenFor labelLeft anchor bar frame)

/-! ## The phases, written over -/

section Phases

variable {α : Type} [Scalar α] (style : Style α) (m : TextMetrics α)

/-- A label measured: beside it the greatest height so far. -/
def sizeActor (state : Placement α × α) (item : Actor × Nat) : Placement α × α :=
  let (p, header) := state
  let (a, i) := item
  let label := Box.ofSize (labelSize style m a.name)
  ({ p with
      labels := p.labels.set i label
      deltas := p.deltas.set i (if i = 0 then ofNat 0 else style.minPaddingX) }, larger header label.height)

def sizeActors (d : Diagram) (p : Placement α) : Placement α :=
  let (p, header) := d.actors.zipIdx.foldl (sizeActor style m) (p, ofNat 0)
  { p with headerHeight := header }

/-- An event stacked and its room asked for: beside it where the next one stands. -/
def placeEvent (state : Placement α × α) (item : Event × Nat) : Placement α × α :=
  let (p, y) := state
  let (e, i) := item
  let size := eventSize style m e.action
  ({ p with
      events := p.events.set i ((Box.ofSize size).shift (ofNat 0) y)
      deltas := widenFor style m p.deltas e }, y + (size.height + style.minPaddingY))

def placeEvents (d : Diagram) (p : Placement α) : Placement α :=
  let (p, y) := d.events.zipIdx.foldl (placeEvent style m) (p, p.headerHeight + style.minPaddingY)
  { p with terminalY := y }

/-- A label moved to its place: beside it the label, which the next one is placed by. -/
def placeActor (state : Placement α × Option (Box α)) (i : Nat) : Placement α × Option (Box α) :=
  let (p, before) := state
  let b := p.labelBox i
  let placed := b.moveTo (labelLeft style before b.width (p.deltas.getD i (ofNat 0)))
  ({ p with labels := p.labels.set i placed }, some placed)

def anchorEvent (lifelines : List α) (p : Placement α) (item : Event × Nat) : Placement α :=
  let (e, i) := item
  { p with events := p.events.set i (anchor style lifelines e (p.eventBox i)) }

def placeActors (d : Diagram) (p : Placement α) : Placement α :=
  let (p, _) := (List.range d.actors.length).foldl (placeActor style) (p, none)
  d.events.zipIdx.foldl (anchorEvent style p.lifelines) p

def placeBar (p : Placement α) (item : Activation × Nat) : Placement α :=
  let (a, i) := item
  { p with bars := p.bars.set i (bar style p p.bars a) }

def placeBars (d : Diagram) (p : Placement α) : Placement α := d.activations.zipIdx.foldl (placeBar style) p

def frameBlock (d : Diagram) (p : Placement α) (item : Block × Nat) : Placement α :=
  let (b, i) := item
  { p with frames := p.frames.set i (frame style m d p ((d.blocks.zip p.frames).take i) b) }

def frameBlocks (d : Diagram) (p : Placement α) : Placement α := d.blocks.zipIdx.foldl (frameBlock style m d) p

/-- Sizing the canvas moves every box where it stands already. -/
def run (d : Diagram) (p : Placement α) : Phase → Placement α
  | .sizeActors => sizeActors style m d p
  | .placeEvents => placeEvents style m d p
  | .placeActors => placeActors style d p
  | .placeBars => placeBars style d p
  | .frameBlocks => frameBlocks style m d p
  | .sizeCanvas => Layout.sizeCanvas style p

def arrange (d : Diagram) (p : Placement α) : Placement α := Layout.phases.foldl (run style m d) p

end Phases

variable {α : Type} [Scalar α]

/-- Phases one after the other, each with a style and metrics of its own. -/
def runs (d : Diagram) (p : Placement α) (steps : List (Style α × TextMetrics α × Phase)) : Placement α :=
  steps.foldl (fun p (style, m, phase) => run style m d p phase) p

/-! ## A list whose first entries are new -/

section Overwritten

variable {β : Type}

/-- New entries, then what stood after them. -/
def overwritten (done old : List β) : List β := done ++ old.drop done.length

variable {done old : List β}

theorem overwritten_of_length (h : done.length = old.length) : overwritten done old = done := by
  rw [overwritten, h, List.drop_length, List.append_nil]

theorem overwritten_set {k : Nat} (hk : done.length = k) (h : k < old.length) (x : β) :
    (overwritten done old).set k x = overwritten (done ++ [x]) old := by
  subst hk
  rw [overwritten, overwritten, List.drop_eq_getElem_cons h, List.set_append_right _ _ (Nat.le_refl _), Nat.sub_self,
    List.set_cons_zero, List.length_append, List.length_singleton, List.append_assoc, List.singleton_append]

theorem overwritten_getD_of_lt {k : Nat} (h : k < done.length) (b : β) :
    (overwritten done old).getD k b = done.getD k b := by
  rw [overwritten, List.getD_eq_getElem?_getD, List.getElem?_append_left h, List.getD_eq_getElem?_getD]

theorem overwritten_getD_of_le {k : Nat} (h : done.length ≤ k) (b : β) :
    (overwritten done old).getD k b = old.getD k b := by
  have hk : done.length + (k - done.length) = k := by omega
  rw [overwritten, List.getD_eq_getElem?_getD, List.getElem?_append_right h, List.getElem?_drop, hk,
    List.getD_eq_getElem?_getD]

end Overwritten

/-- A loop over numbered parts, one part longer. -/
theorem foldl_zipIdx_concat {σ β : Type} (f : σ → β × Nat → σ) (state : σ) (xs : List β) (x : β) :
    (xs ++ [x]).zipIdx.foldl f state = f (xs.zipIdx.foldl f state) (x, xs.length) := by
  rw [List.zipIdx_append, List.foldl_append, Nat.zero_add]
  rfl

/-! ## Rows -/

section Rows

variable {style : Style α} {m : TextMetrics α} {d : Diagram} {p : Placement α}

theorem foldl_sizeActor {as : List Actor} (hlabels : as.length ≤ p.labels.length) (hdeltas : as.length ≤ p.deltas.length) :
    as.zipIdx.foldl (sizeActor style m) (p, ofNat 0) =
      let labels := as.map fun a => Box.ofSize (labelSize style m a.name)
      ({ p with
          labels := overwritten labels p.labels
          deltas := overwritten (labels.mapIdx fun i _ => if i = 0 then ofNat 0 else style.minPaddingX) p.deltas },
        (labels.map Box.height).foldl larger (ofNat 0)) := by
  induction as using List.reverseRecOn with
  | nil => rfl
  | append_singleton as a ih =>
    rw [List.length_append, List.length_singleton] at hlabels hdeltas
    rw [foldl_zipIdx_concat, ih (by omega) (by omega)]
    simp only [sizeActor, List.map_append, List.map_cons, List.map_nil, List.mapIdx_concat, List.foldl_append,
      List.foldl_cons, List.foldl_nil]
    rw [overwritten_set (List.length_map _) (by omega), overwritten_set (by simp) (by omega), List.length_map]

theorem sizeActors_eq (h : p.Fits d) : sizeActors style m d p = Layout.sizeActors style m d p := by
  have hlabels := h.labels
  have hdeltas := h.deltas
  rw [sizeActors, foldl_sizeActor (by omega) (by omega)]
  simp only []
  rw [overwritten_of_length (by simp [hlabels]), overwritten_of_length (by simp [hdeltas])]
  rfl

theorem stackEvents_concat (y : α) (es : List Event) (e : Event) :
    Layout.stackEvents style m y (es ++ [e]) =
      let (boxes, bottom) := Layout.stackEvents style m y es
      let size := eventSize style m e.action
      (boxes ++ [(Box.ofSize size).shift (ofNat 0) bottom], bottom + (size.height + style.minPaddingY)) := by
  induction es generalizing y with
  | nil => rfl
  | cons x es ih =>
    rw [List.cons_append, Layout.stackEvents, ih]
    rfl

theorem foldl_placeEvent {es : List Event} (y : α) (h : es.length ≤ p.events.length) :
    es.zipIdx.foldl (placeEvent style m) (p, y) =
      let (boxes, bottom) := Layout.stackEvents style m y es
      ({ p with
          events := overwritten boxes p.events
          deltas := es.foldl (widenFor style m) p.deltas }, bottom) := by
  induction es using List.reverseRecOn with
  | nil => rfl
  | append_singleton es e ih =>
    rw [List.length_append, List.length_singleton] at h
    rw [foldl_zipIdx_concat, ih (by omega), stackEvents_concat, List.foldl_append]
    simp only [placeEvent, List.foldl_cons, List.foldl_nil]
    rw [overwritten_set (Layout.length_stackEvents y es) (by omega)]

theorem placeEvents_eq (h : p.Fits d) : placeEvents style m d p = Layout.placeEvents style m d p := by
  have hevents := h.events
  rw [placeEvents, foldl_placeEvent _ (by omega)]
  simp only []
  rw [overwritten_of_length (by rw [Layout.length_stackEvents, hevents])]
  rfl

end Rows

/-! ## Columns -/

section Columns

variable {style : Style α} {d : Diagram} {p : Placement α}

/-- The last of some labels lined up stands after the one before it. -/
theorem lineUp_concat {bs : List (Box α)} {deltas : List α} (before : Option (Box α)) (b : Box α) (delta : α)
    (h : bs.length = deltas.length) :
    Layout.lineUp style before (bs ++ [b]) (deltas ++ [delta]) =
      let placed := Layout.lineUp style before bs deltas
      placed ++ [b.moveTo (labelLeft style (placed.getLast?.or before) b.width delta)] := by
  induction bs generalizing before deltas with
  | nil =>
    cases deltas with
    | nil => rfl
    | cons => cases h
  | cons c bs ih =>
    cases deltas with
    | nil => cases h
    | cons delta' deltas =>
      have hlast : ∀ placed : Box α, ∀ rest : List (Box α),
          (placed :: rest).getLast?.or before = rest.getLast?.or (some placed) := by
        intro placed rest
        rw [List.getLast?_cons]
        cases rest.getLast? <;> rfl
      simp only [List.cons_append, Layout.lineUp, hlast]
      rw [ih _ (Nat.succ.inj h)]

theorem foldl_placeActor {k : Nat} (hlabels : k ≤ p.labels.length) (hdeltas : k ≤ p.deltas.length) :
    (List.range k).foldl (placeActor style) (p, none) =
      let placed := Layout.lineUp style none (p.labels.take k) (p.deltas.take k)
      ({ p with labels := overwritten placed p.labels }, placed.getLast?) := by
  induction k with
  | zero => rfl
  | succ k ih =>
    have htake : (p.labels.take k).length = (p.deltas.take k).length := by
      rw [List.length_take, List.length_take]
      omega
    have hdone : (Layout.lineUp style none (p.labels.take k) (p.deltas.take k)).length = k := by
      rw [Layout.length_lineUp none htake, List.length_take]
      omega
    rw [List.range_succ, List.foldl_append, ih (by omega) (by omega), List.take_succ_eq_append_getElem hlabels,
      List.take_succ_eq_append_getElem hdeltas, lineUp_concat none _ _ htake]
    simp only [List.foldl_cons, List.foldl_nil, placeActor, Placement.labelBox, Option.or_none, List.getLast?_append,
      List.getLast?_singleton, Option.some_or]
    rw [overwritten_getD_of_le (by omega), overwritten_set hdone (by omega), List.getElem_eq_getD .zero,
      List.getElem_eq_getD (ofNat 0)]

theorem zipWith_concat {β γ δ : Type} {f : β → γ → δ} {xs : List β} {ys : List γ} (x : β) (h : xs.length < ys.length)
    (y : γ) : List.zipWith f (xs ++ [x]) ys = List.zipWith f xs ys ++ [f x (ys.getD xs.length y)] := by
  induction xs generalizing ys with
  | nil =>
    cases ys with
    | nil => cases h
    | cons => rfl
  | cons x' xs ih =>
    cases ys with
    | nil => cases h
    | cons y' ys => exact congrArg (f x' y' :: ·) (ih (Nat.lt_of_succ_lt_succ h))

theorem foldl_anchorEvent (lifelines : List α) {es : List Event} (h : es.length ≤ p.events.length) :
    es.zipIdx.foldl (anchorEvent style lifelines) p =
      { p with events := overwritten (List.zipWith (anchor style lifelines) es p.events) p.events } := by
  induction es using List.reverseRecOn with
  | nil => rfl
  | append_singleton es e ih =>
    rw [List.length_append, List.length_singleton] at h
    have hdone : (List.zipWith (anchor style lifelines) es p.events).length = es.length := by
      rw [List.length_zipWith]
      omega
    rw [foldl_zipIdx_concat, ih (by omega), zipWith_concat e (by omega) .zero]
    simp only [anchorEvent, Placement.eventBox]
    rw [overwritten_getD_of_le (by omega), overwritten_set hdone (by omega)]

theorem placeActors_eq (h : p.Fits d) : placeActors style d p = Layout.placeActors style d p := by
  have hlabels := h.labels
  have hdeltas := h.deltas
  have hevents := h.events
  rw [placeActors, foldl_placeActor (by omega) (by omega), ← hlabels, List.take_length, hlabels, ← hdeltas,
    List.take_length]
  simp only []
  rw [foldl_anchorEvent _ (by simp [hevents])]
  simp only [Placement.lifelines]
  rw [overwritten_of_length (Layout.length_lineUp none (by omega)),
    overwritten_of_length (by rw [List.length_zipWith]; omega)]
  rfl

end Columns

/-! ## Bars and frames -/

section Bars

variable {style : Style α} {m : TextMetrics α} {d : Diagram} {p : Placement α}

theorem foldl_placeBar {as : List Activation} (h : as.length ≤ p.bars.length)
    (hparent : ∀ (k : Nat) a, as[k]? = some a → ∀ j, a.parent = some j → j < k) :
    as.zipIdx.foldl (placeBar style) p =
      { p with bars := overwritten (as.foldl (fun placed a => placed ++ [bar style p placed a]) []) p.bars } := by
  induction as using List.reverseRecOn with
  | nil => rfl
  | append_singleton as a ih =>
    rw [List.length_append, List.length_singleton] at h
    have hbefore := ih (by omega) fun k b hb => hparent k b (getElem?_of_extends (List.prefix_append ..) hb)
    have hdone := Layout.length_foldl_snoc (bar style p) as
    have hbar : ∀ placed : List (Box α), placed.length = as.length →
        bar style p (overwritten placed p.bars) a = bar style p placed a := by
      intro placed hplaced
      unfold bar
      cases hp : a.parent with
      | none => rfl
      | some j =>
        have hj := hparent as.length a List.getElem?_concat_length j hp
        simp only [overwritten_getD_of_lt (hplaced.symm ▸ hj)]
    rw [foldl_zipIdx_concat, hbefore, List.foldl_append]
    simp only [placeBar, List.foldl_cons, List.foldl_nil]
    rw [overwritten_set hdone (by omega)]
    simp only [← hbar _ hdone]
    rfl

theorem placeBars_eq (h : p.Fits d) (hd : d.Indexed) : placeBars style d p = Layout.placeBars style d p := by
  have hbars := h.bars
  rw [placeBars, foldl_placeBar (by omega) hd.parent,
    overwritten_of_length (by rw [Layout.length_foldl_snoc, hbars])]
  rfl

/-- Beside blocks whose first frames are new, the first are as they were listed. -/
theorem take_zip_overwritten {β γ : Type} (done : List (β × γ)) (after : List β) (old : List γ) :
    ((done.map Prod.fst ++ after).zip (overwritten (done.map Prod.snd) old)).take done.length = done := by
  have hsplit : (done.map Prod.fst).zip (done.map Prod.snd) = done := (List.zip_of_prod rfl rfl).symm
  rw [overwritten, List.zip_append (by rw [List.length_map, List.length_map]), hsplit, List.take_left]

theorem map_fst_foldl_snoc {β γ : Type} (f : List (β × γ) → β → γ) (bs : List β) :
    (bs.foldl (fun done b => done ++ [(b, f done b)]) []).map Prod.fst = bs := by
  induction bs using List.reverseRecOn with
  | nil => rfl
  | append_singleton bs b ih =>
    rw [List.foldl_append, List.foldl_cons, List.foldl_nil, List.map_append, ih]
    rfl

theorem foldl_frameBlock {bs after : List Block} (hbs : bs ++ after = d.blocks) (h : bs.length ≤ p.frames.length) :
    bs.zipIdx.foldl (frameBlock style m d) p =
      { p with
        frames := overwritten
          ((bs.foldl (fun before b => before ++ [(b, frame style m d p before b)]) []).map Prod.snd) p.frames } := by
  induction bs using List.reverseRecOn generalizing after with
  | nil => rfl
  | append_singleton bs b ih =>
    rw [List.length_append, List.length_singleton] at h
    rw [List.append_assoc, List.singleton_append] at hbs
    have hdone := Layout.length_foldl_snoc (fun before b => (b, frame style m d p before b)) bs
    have hblocks := map_fst_foldl_snoc (frame style m d p) bs
    rw [foldl_zipIdx_concat, ih hbs (by omega), List.foldl_append]
    generalize bs.foldl (fun before b => before ++ [(b, frame style m d p before b)]) [] = done at hdone hblocks
    have hbefore := take_zip_overwritten done (b :: after) p.frames
    rw [hblocks, hbs, hdone] at hbefore
    simp only [frameBlock, List.foldl_cons, List.foldl_nil, List.map_append, List.map_cons, List.map_nil]
    rw [hbefore, overwritten_set (by rw [List.length_map, hdone]) (by omega)]
    rfl

theorem frameBlocks_eq (h : p.Fits d) : frameBlocks style m d p = Layout.frameBlocks style m d p := by
  have hframes := h.frames
  rw [frameBlocks, foldl_frameBlock (List.append_nil _) (by omega), overwritten_of_length]
  · rfl
  · rw [List.length_map, Layout.length_foldl_snoc (fun before b => (b, frame style m d p before b)), hframes]

end Bars

/-! ## Whole layouts -/

section Whole

variable {style : Style α} {m : TextMetrics α} {d : Diagram} {p : Placement α}

theorem run_eq (hd : d.Indexed) (h : p.Fits d) (phase : Phase) :
    run style m d p phase = Layout.run style m d p phase := by
  cases phase with
  | sizeActors => exact sizeActors_eq h
  | placeEvents => exact placeEvents_eq h
  | placeActors => exact placeActors_eq h
  | placeBars => exact placeBars_eq h hd
  | frameBlocks => exact frameBlocks_eq h
  | sizeCanvas => rfl

theorem fits_run (hd : d.Indexed) (h : p.Fits d) (phase : Phase) : (run style m d p phase).Fits d :=
  run_eq hd h phase ▸ h.run phase

theorem fits_runs (hd : d.Indexed) (h : p.Fits d) (steps : List (Style α × TextMetrics α × Phase)) :
    (runs d p steps).Fits d := by
  induction steps generalizing p with
  | nil => exact h
  | cons step steps ih => exact ih (fits_run hd h step.2.2)

theorem arrange_eq (hd : d.Indexed) (h : p.Fits d) : arrange style m d p = Layout.arrange style m d p := by
  have hruns : ∀ phases : List Phase, ∀ q : Placement α, q.Fits d →
      phases.foldl (run style m d) q = Layout.runAll style m d q phases := by
    intro phases
    induction phases with
    | nil => exact fun _ _ => rfl
    | cons phase phases ih =>
      intro q hq
      rw [List.foldl_cons, ih _ (fits_run hd hq phase), run_eq hd hq]
      rfl
  exact hruns Layout.phases p h

/-- Every box placed, but the canvas not sized yet. -/
def boxed (style : Style α) (m : TextMetrics α) (d : Diagram) (p : Placement α) : Placement α :=
  Layout.runAll style m d p [.sizeActors, .placeEvents, .placeActors, .placeBars, .frameBlocks]

/-- The first three phases set all that bars and frames are made from, and these set
    themselves, so that nothing but the old canvas is left. -/
theorem boxed_eq (p q : Placement α) : boxed style m d p = { boxed style m d q with canvas := p.canvas } := rfl

theorem sizeCanvas_of_canvas (p : Placement α) (c : Size α) :
    Layout.sizeCanvas style { p with canvas := c } = Layout.sizeCanvas style p := by
  have hedge : Layout.leftEdge? { p with canvas := c } = Layout.leftEdge? p := rfl
  unfold Layout.sizeCanvas Layout.clearLeft
  rw [hedge]
  cases Layout.leftEdge? p with
  | none => rfl
  | some left =>
    by_cases hleft : left < style.groupPadding
    · simp only [if_pos hleft]
      rfl
    · simp only [if_neg hleft]
      rfl

theorem arrange_eq_place (style : Style α) (m : TextMetrics α) (d : Diagram) (p : Placement α) :
    Layout.arrange style m d p = d.place style m := calc
  Layout.arrange style m d p = Layout.sizeCanvas style (boxed style m d p) := rfl
  _ = Layout.sizeCanvas style { boxed style m d (.unplaced d) with canvas := p.canvas } := by rw [boxed_eq p (.unplaced d)]
  _ = Layout.sizeCanvas style (boxed style m d (.unplaced d)) := sizeCanvas_of_canvas ..
  _ = d.place style m := rfl

end Whole

/-- Layout of a diagram leaves nothing of what was laid out before. -/
structure Forgetful (style : Style α) (m : TextMetrics α) (d : Diagram) : Prop where
  /-- A phase written over an earlier layout is the phase itself. -/
  phase : ∀ p : Placement α, p.Fits d → ∀ phase, run style m d p phase = Layout.run style m d p phase
  whole : ∀ p : Placement α, p.Fits d → arrange style m d p = d.place style m
  again : ∀ p : Placement α, p.Fits d →
    arrange style m d (arrange style m d p) = arrange style m d p
  /-- Phases with other styles and metrics, any number of them in any order. -/
  earlier : ∀ p : Placement α, p.Fits d → ∀ steps : List (Style α × TextMetrics α × Phase),
    arrange style m d (runs d p steps) = d.place style m
  /-- Lists that are made anew forget even an old placement of another diagram. -/
  anew : ∀ p : Placement α, Layout.arrange style m d p = d.place style m

/-- Laying out a linked diagram gives its layout, over whatever was there. -/
theorem forgetful_of_build {ss : List Numbered} {d : Diagram} (h : Diagram.build ss = .ok d) (style : Style α)
    (m : TextMetrics α) : Forgetful style m d := by
  have hd := Diagram.indexed_of_build h
  have hover : ∀ p : Placement α, p.Fits d → arrange style m d p = d.place style m := by
    intro p hp
    rw [arrange_eq hd hp, arrange_eq_place]
  constructor
  case phase => exact fun p hp phase => run_eq hd hp phase
  case whole => exact hover
  case again =>
    intro p hp
    rw [hover p hp, hover _ (.place style m d)]
  case earlier => exact fun p hp steps => hover _ (fits_runs hd hp steps)
  case anew => exact arrange_eq_place style m d

/-- Bars and frames nested in each other and a note left of the first label, over boxes
    strewn anywhere and phases of other styles and metrics on top. -/
theorem forgetful_over_strewn :
    ∃ ss, ss = [⟨1, .message "a" ⟨.solid, some .start⟩ "b" "out"⟩, ⟨2, .blockStart .loop "outer"⟩,
      ⟨3, .message "b" ⟨.solid, some .start⟩ "b" "again"⟩, ⟨4, .note .left ["a"] "beside"⟩,
      ⟨5, .blockStart .alt "inner"⟩, ⟨6, .blockEnd⟩, ⟨7, .message "b" ⟨.dashed, some .finish⟩ "a" "back"⟩,
      ⟨8, .blockEnd⟩] ∧
    ∃ d, Diagram.build ss = .ok d ∧ d.activations.map Activation.parent = [none, some 0] ∧
    ∃ p : Placement Rat, p.bars = [⟨1, 2, 3, 4⟩, ⟨-8, 0, -9, 0⟩] ∧ p.Fits d ∧
    ∃ earlier, earlier = [(Style.default.withFontSizes 40 40, TextMetrics.estimated, Phase.placeActors),
      (.default, .fixed 8 16, .sizeCanvas), (.default, .estimated, .frameBlocks)] ∧
      (runs d p earlier).bars = [⟨311, 2, 313, 4⟩, ⟨302, 0, 301, 0⟩] ∧
      arrange .default (.fixed 8 16) d (runs d p earlier) = d.place .default (.fixed 8 16) ∧
      (arrange .default (.fixed 8 16) d (runs d p earlier)).bars = [⟨185, 64, 195, 517⟩, ⟨190, 191, 200, 424⟩] := by
  let strewn : Placement Rat :=
    { labels := [⟨9, 9, 1, 1⟩, ⟨-5, 0, 400, 3⟩]
      deltas := [500, -1]
      events := List.replicate 8 ⟨-60, 7, 7, 2⟩
      bars := [⟨1, 2, 3, 4⟩, ⟨-8, 0, -9, 0⟩]
      frames := List.replicate 2 ⟨⟨-300, 0, 600, 5⟩, 99, 98, ["old"]⟩
      headerHeight := 77
      terminalY := -3
      canvas := ⟨1, 1⟩ }
  have hfits : ∀ d : Diagram, d.actors.length = 2 → d.events.length = 8 → d.activations.length = 2 →
      d.blocks.length = 2 → strewn.Fits d :=
    fun d hactors hevents hactivations hblocks =>
      ⟨hactors.symm, hactors.symm, hevents.symm, hactivations.symm, hblocks.symm⟩
  refine ⟨_, rfl, ?d, ?build, ?parents, strewn, rfl, ?fits, _, rfl, ?bars,
    (forgetful_of_build ?build .default (.fixed 8 16)).earlier strewn ?fits _, ?new⟩
  case build => exact rfl
  case parents => rfl
  case fits => exact hfits _ rfl rfl rfl rfl
  case bars => decide +kernel
  case new => decide +kernel

end SequenceDiagram.InPlace
