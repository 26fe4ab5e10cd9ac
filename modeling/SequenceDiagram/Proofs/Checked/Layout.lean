/-
  SequenceDiagram.Proofs.Checked.Layout — layout that may not read what is not there.

  The phases read labels, events, bars and activations by position, cut ranges out of
  lists, and subtract one natural number from another. Here every such step is checked:
  a position out of range, a range that is none and a difference below zero give no
  result. On a placement that fits a diagram with good positions every checked phase has
  the result of the phase itself (`run_eq`), and so has every run of phases
  (`runAll_eq`).

  A function that neither reads by position nor subtracts is used as it is.
-/

import SequenceDiagram.Proofs.Diagram.Indices
import SequenceDiagram.Proofs.Layout.Fitting
import SequenceDiagram.Proofs.Layout.Frames

namespace SequenceDiagram.Checked

/-! ## Checked steps -/

def minus (a b : Nat) : Option Nat := if b ≤ a then some (a - b) else none

/-- The entries from `lo` to before `hi`. -/
def slice {β : Type} (xs : List β) (lo hi : Nat) : Option (List β) :=
  if lo ≤ hi ∧ hi ≤ xs.length then some ((xs.drop lo).take (hi - lo)) else none

theorem minus_eq {a b : Nat} (h : b ≤ a) : minus a b = some (a - b) := if_pos h

theorem slice_eq {β : Type} {xs : List β} {lo hi : Nat} (hlohi : lo ≤ hi) (hhi : hi ≤ xs.length) :
    slice xs lo hi = some ((xs.drop lo).take (hi - lo)) := if_pos ⟨hlohi, hhi⟩

theorem getElem?_eq_getD {β : Type} {xs : List β} {k : Nat} (h : k < xs.length) (default : β) :
    xs[k]? = some (xs.getD k default) := by
  rw [List.getD_eq_getElem?_getD, List.getElem?_eq_getElem h]
  rfl

theorem mapM_eq {β γ : Type} {f : β → Option γ} {g : β → γ} {xs : List β} (h : ∀ x ∈ xs, f x = some (g x)) :
    xs.mapM f = some (xs.map g) := by
  induction xs with
  | nil => rfl
  | cons x xs ih =>
    rw [List.mapM_cons, h x (List.mem_cons_self ..), ih fun y hy => h y (List.mem_cons_of_mem _ hy)]
    rfl

/-- Entry k may rest on there being k entries before it. -/
theorem foldlM_snoc_eq {β γ : Type} {f : List γ → β → Option γ} {g : List γ → β → γ} {bs : List β}
    (h : ∀ (k : Nat) b done, bs[k]? = some b → done.length = k → f done b = some (g done b)) :
    bs.foldlM (fun done b => (f done b).map fun c => done ++ [c]) [] =
      some (bs.foldl (fun done b => done ++ [g done b]) []) := by
  induction bs using List.reverseRecOn with
  | nil => rfl
  | append_singleton bs b ih =>
    have hrest := ih fun k c done hk hdone =>
      h k c done (getElem?_of_extends (List.prefix_append ..) hk) hdone
    have hlast := h bs.length b _ List.getElem?_concat_length (Layout.length_foldl_snoc g bs)
    rw [List.foldlM_append, hrest, List.foldl_append]
    simp [hlast]

variable {α : Type} [Scalar α]

open Scalar (ofNat half twice larger smaller sum range?)
open Layout (BlockLabel stretch actorRange?)

/-! ## Sizes -/

section Sizes

variable (style : Style α) (m : TextMetrics α)

def linesHeight (count : Nat) : Option α :=
  if count = 0 then some (ofNat 0)
  else do
    let gaps ← minus count 1
    return ofNat count * m.lineHeight style.messageFontSize + ofNat gaps * style.lineSpacing

def blockLabel (kind : BlockKind) (text : String) : Option (BlockLabel α) := do
  let font := style.messageFontSize
  let tabWidth := (m.measure kind.keyword font).width + style.textPaddingX + style.foldSize
  let lines := m.wrap text font style.groupMaxWidth
  let widest := (lines.map fun l => (m.measure l font).width).foldl larger (ofNat 0)
  let height ← linesHeight style m lines.length
  return { lines
           tabWidth
           width := larger tabWidth (widest + twice style.textPaddingX)
           headerHeight := larger style.groupBaseHeight (style.groupTabHeight + height) }

def eventSize : Action → Option (Size α)
  | .blockStart kind text => do
    let label ← blockLabel style m kind text
    return ⟨label.width, label.headerHeight⟩
  | action => return Layout.eventSize style m action

theorem linesHeight_eq (count : Nat) : linesHeight style m count = some (Layout.linesHeight style m count) := by
  cases count with
  | zero => rfl
  | succ n =>
    rw [linesHeight, if_neg (Nat.succ_ne_zero n), minus_eq (Nat.succ_le_succ (Nat.zero_le n))]
    rfl

theorem blockLabel_eq (kind : BlockKind) (text : String) :
    blockLabel style m kind text = some (Layout.blockLabel style m kind text) := by
  rw [blockLabel, linesHeight_eq]
  rfl

theorem eventSize_eq (action : Action) : eventSize style m action = some (Layout.eventSize style m action) := by
  cases action with
  | blockStart kind text =>
    rw [eventSize, blockLabel_eq]
    rfl
  | _ => rfl

end Sizes

/-! ## Rows -/

section Rows

variable (style : Style α) (m : TextMetrics α)

def stackEvents (y : α) : List Event → Option (List (Box α) × α)
  | [] => some ([], y)
  | e :: es => do
    let size ← eventSize style m e.action
    let (boxes, bottom) ← stackEvents (y + (size.height + style.minPaddingY)) es
    return ((Box.ofSize size).shift (ofNat 0) y :: boxes, bottom)

def widen (deltas : List α) (lo hi : Nat) (width : α) : Option (List α) :=
  if hi ≤ lo ∨ deltas.length ≤ hi then some deltas
  else do
    let gaps ← slice deltas (lo + 1) (hi + 1)
    if width ≤ sum gaps then some deltas
    else do
      let count ← minus hi lo
      let share := width / ofNat count
      return deltas.mapIdx fun i delta => if lo < i ∧ i ≤ hi then Layout.raise share delta else delta

def widenFor (deltas : List α) (e : Event) : Option (List α) :=
  match Layout.gap? deltas.length e.action with
  | some (lo, hi) => do
    let size ← eventSize style m e.action
    widen deltas lo hi size.width
  | none => some deltas

def placeEvents (d : Diagram) (p : Placement α) : Option (Placement α) := do
  let (events, bottom) ← stackEvents style m (p.headerHeight + style.minPaddingY) d.events
  let deltas ← d.events.foldlM (widenFor style m) p.deltas
  return { p with events, terminalY := bottom, deltas }

theorem stackEvents_eq (y : α) (es : List Event) : stackEvents style m y es = some (Layout.stackEvents style m y es) := by
  induction es generalizing y with
  | nil => rfl
  | cons e es ih =>
    rw [stackEvents, eventSize_eq, Option.bind_eq_bind, Option.bind_some, ih]
    rfl

theorem widen_eq (deltas : List α) (lo hi : Nat) (width : α) :
    widen deltas lo hi width = some (Layout.widen deltas lo hi width) := by
  unfold widen Layout.widen
  by_cases hrange : hi ≤ lo ∨ deltas.length ≤ hi
  · rw [if_pos hrange, if_pos hrange]
  · rw [if_neg hrange, if_neg hrange, slice_eq (by omega) (by omega), Option.bind_eq_bind, Option.bind_some]
    have hgaps : (deltas.drop (lo + 1)).take (hi + 1 - (lo + 1)) = Layout.between deltas lo hi := by
      rw [Layout.between, Nat.add_sub_add_right]
    rw [hgaps]
    by_cases hwidth : width ≤ sum (Layout.between deltas lo hi)
    · rw [if_pos hwidth, if_pos hwidth]
    · rw [if_neg hwidth, if_neg hwidth, minus_eq (by omega)]
      rfl

theorem widenFor_eq (deltas : List α) (e : Event) : widenFor style m deltas e = some (Layout.widenFor style m deltas e) := by
  unfold widenFor Layout.widenFor
  cases Layout.gap? deltas.length e.action with
  | none => rfl
  | some range =>
    show (eventSize style m e.action).bind (fun size => widen deltas range.1 range.2 size.width) = _
    rw [eventSize_eq, Option.bind_some, widen_eq]

theorem placeEvents_eq (d : Diagram) (p : Placement α) :
    placeEvents style m d p = some (Layout.placeEvents style m d p) := by
  have hdeltas : d.events.foldlM (widenFor style m) p.deltas = some (d.events.foldl (Layout.widenFor style m) p.deltas) := by
    have hstep : widenFor style m = fun deltas e => some (Layout.widenFor style m deltas e) :=
      funext fun deltas => funext fun e => widenFor_eq style m deltas e
    rw [hstep]
    exact List.foldlM_pure
  rw [placeEvents, stackEvents_eq, hdeltas]
  rfl

end Rows

/-! ## Columns -/

section Columns

variable (style : Style α)

def noteLifeline (lifelines : List α) (actors : List Nat) : Option α :=
  match actors.head? with
  | none => some (ofNat 0)
  | some actor => lifelines[actor]?

def anchor (lifelines : List α) (e : Event) (b : Box α) : Option (Box α) :=
  match e.action with
  | .message _ source destination _ _ => do
    let first ← lifelines[source]?
    let last ← lifelines[destination]?
    return if source = destination then b.moveTo first else b.moveTo (half (first + last) - half b.width)
  | .note .over actors _ => do
    let xs ← actors.mapM fun actor => lifelines[actor]?
    match range? xs with
    | none => return b.moveTo style.minPaddingX
    | some (first, last) =>
      let mid := half (first + last)
      let reach := half (larger b.width (last - first))
      return Box.ofCorners (mid - reach) b.top (mid + reach) b.bottom
  | .note .left actors _ => do
    let x ← noteLifeline lifelines actors
    return b.moveTo (x - style.noteGap - b.width)
  | .note .right actors _ => do
    let x ← noteLifeline lifelines actors
    return b.moveTo (x + style.noteGap)
  | .blockStart .. | .blockEnd => return b.moveTo style.minPaddingX

def placeActors (d : Diagram) (p : Placement α) : Option (Placement α) := do
  let labels := Layout.lineUp style none p.labels p.deltas
  let lifelines := labels.map Box.midX
  let events ← (d.events.zip p.events).mapM fun (e, b) => anchor style lifelines e b
  return { p with labels, events }

variable {lifelines : List α} {d : Diagram} {p : Placement α}

theorem lifeline_eq {actor : Nat} (h : actor < lifelines.length) :
    lifelines[actor]? = some (Layout.lifeline lifelines actor) := getElem?_eq_getD h _

theorem noteLifeline_eq {actors : List Nat} (h : ∀ a ∈ actors, a < lifelines.length) :
    noteLifeline lifelines actors = some (Layout.noteLifeline lifelines actors) := by
  cases actors with
  | nil => rfl
  | cons a actors => exact lifeline_eq (h a (List.mem_cons_self ..))

theorem anchor_eq {e : Event} (h : ∀ a ∈ e.action.referenced, a < lifelines.length) (b : Box α) :
    anchor style lifelines e b = some (Layout.anchor style lifelines e b) := by
  obtain ⟨line, action⟩ := e
  cases action with
  | message arrow source destination text activation =>
    have hsource : source < lifelines.length := h source (by simp [Action.referenced, Action.source?])
    have hdestination : destination < lifelines.length :=
      h destination (by simp [Action.referenced, Action.destination?])
    simp only [anchor, Layout.anchor, lifeline_eq hsource, lifeline_eq hdestination, Option.bind_eq_bind,
      Option.bind_some, Option.pure_def]
  | note side actors text =>
    have hactors : ∀ a ∈ actors, a < lifelines.length := by
      intro a ha
      apply h
      simp [Action.referenced, Action.noteActors, ha]
    cases side
    case left =>
      simp only [anchor, noteLifeline_eq hactors]
      rfl
    case right =>
      simp only [anchor, noteLifeline_eq hactors]
      rfl
    -- a note over its actors stands between the outermost
    have hxs : (actors.mapM fun actor => lifelines[actor]?) = some (actors.map (Layout.lifeline lifelines)) :=
      mapM_eq fun a ha => lifeline_eq (hactors a ha)
    simp only [anchor, Layout.anchor, hxs, Option.bind_eq_bind, Option.bind_some, Option.pure_def]
    cases range? (actors.map (Layout.lifeline lifelines)) with
    | none => rfl
    | some range => rfl
  | blockStart kind text => rfl
  | blockEnd => rfl

theorem placeActors_eq (hd : d.Indexed) (h : p.Fits d) : placeActors style d p = some (Layout.placeActors style d p) := by
  have hlength : ((Layout.lineUp style none p.labels p.deltas).map Box.midX).length = d.actors.length := by
    have hplaced : (Layout.placeActors style d p).Fits d := h.placeActors
    rw [List.length_map]
    exact hplaced.labels
  have hevents : (d.events.zip p.events).mapM (fun (e, b) =>
      anchor style ((Layout.lineUp style none p.labels p.deltas).map Box.midX) e b) =
        some (Layout.placeActors style d p).events := by
    have hanchor : ∀ x ∈ d.events.zip p.events,
        anchor style ((Layout.lineUp style none p.labels p.deltas).map Box.midX) x.1 x.2 =
          some (Layout.anchor style ((Layout.lineUp style none p.labels p.deltas).map Box.midX) x.1 x.2) := by
      intro x hx
      apply anchor_eq
      rw [hlength]
      exact hd.referenced x.1 (List.of_mem_zip hx).1
    rw [mapM_eq hanchor, List.map_zip_eq_zipWith]
    rfl
  rw [placeActors, hevents]
  rfl

end Columns

/-! ## Bars -/

section Bars

variable (style : Style α)

def barLeft (p : Placement α) (placed : List (Box α)) (a : Activation) : Option α :=
  match a.parent with
  | some parent => (placed[parent]?).map fun b => b.left + half style.activationWidth
  | none => (p.labels[a.actor]?).map fun b => b.midX - half style.activationWidth

def barBottom (p : Placement α) (a : Activation) : Option α :=
  match a.finish with
  | some event => (p.events[event]?).map Box.midY
  | none => some p.terminalY

def bar (p : Placement α) (placed : List (Box α)) (a : Activation) : Option (Box α) := do
  let left ← barLeft style p placed a
  let first ← p.events[a.start]?
  let bottom ← barBottom p a
  return Box.ofCorners left first.midY (left + style.activationWidth) bottom

def placeBars (d : Diagram) (p : Placement α) : Option (Placement α) := do
  let bars ← d.activations.foldlM (fun placed a => (bar style p placed a).map fun b => placed ++ [b]) []
  return { p with bars }

variable {d : Diagram} {p : Placement α}

theorem bar_eq {placed : List (Box α)} {a : Activation} (hparent : ∀ k, a.parent = some k → k < placed.length)
    (hactor : a.actor < p.labels.length) (hstart : a.start < p.events.length)
    (hfinish : ∀ k, a.finish = some k → k < p.events.length) :
    bar style p placed a = some (Layout.bar style p placed a) := by
  obtain ⟨actor, start, finish, parent⟩ := a
  have hleft : barLeft style p placed ⟨actor, start, finish, parent⟩ = some (parent.elim
      ((p.labelBox actor).midX - half style.activationWidth)
      fun k => (placed.getD k .zero).left + half style.activationWidth) := by
    cases parent with
    | none => exact congrArg (Option.map _) (getElem?_eq_getD hactor Box.zero)
    | some k => exact congrArg (Option.map _) (getElem?_eq_getD (hparent k rfl) Box.zero)
  have hfirst : p.events[start]? = some (p.eventBox start) := getElem?_eq_getD hstart _
  have hbottom : barBottom p ⟨actor, start, finish, parent⟩ =
      some (finish.elim p.terminalY fun j => (p.eventBox j).midY) := by
    cases finish with
    | none => rfl
    | some j => exact congrArg (Option.map _) (getElem?_eq_getD (hfinish j rfl) Box.zero)
  rw [bar, hleft, hfirst, hbottom]
  cases parent <;> cases finish <;> rfl

theorem placeBars_eq (hd : d.Indexed) (h : p.Fits d) : placeBars style d p = some (Layout.placeBars style d p) := by
  rw [placeBars, foldlM_snoc_eq (g := Layout.bar style p)]
  · rfl
  · intro k a placed ha hplaced
    have hmem : a ∈ d.activations := List.mem_of_getElem? ha
    apply bar_eq
    · intro parent hparent
      rw [hplaced]
      exact hd.parent k a ha parent hparent
    · rw [h.labels]
      exact hd.actor a hmem
    · rw [h.events]
      exact hd.start a hmem
    · intro j hj
      rw [h.events]
      exact hd.finish a hmem j hj

end Bars

/-! ## Frames -/

section Frames

variable (style : Style α) (m : TextMetrics α)

/-- The actors whose labels a frame covers, if there are any. -/
def coveredActors? (actors : Nat) (events : List (Event × Box α)) : Option (Option (Nat × Nat)) :=
  match actorRange? (events.flatMap fun (e, _) => e.action.referenced) with
  | some range => some (some range)
  | none =>
    if actors = 0 then some none
    else do
      let last ← minus actors 1
      return some (0, last)

def horizontal? (d : Diagram) (p : Placement α) (events : List (Event × Box α)) : Option (Option (α × α)) := do
  let boxes := (events.filter fun (e, _) => !e.action.isBlockMarker).map (·.2)
  let range := boxes.foldl (fun r b => stretch r b.left b.right) none
  match ← coveredActors? d.actors.length events with
  | some (first, last) => do
    let a ← p.labels[first]?
    let b ← p.labels[last]?
    return stretch range a.left b.right
  | none => return range

def contentBox (d : Diagram) (p : Placement α) (b : Block) : Option (Box α) := do
  let events ← slice (d.events.zip p.events) b.start b.finish
  let marker ← p.events[b.start]?
  let range ← horizontal? d p events
  let (x0, x1) := range.getD (marker.left, marker.right)
  let (y0, y1) := (Layout.vertical? events).getD (marker.top, marker.bottom)
  let pad := style.groupPadding
  return Box.ofCorners (x0 - pad) (y0 - pad) (x1 + pad) (y1 + pad)

def frame (d : Diagram) (p : Placement α) (before : List (Block × Frame α)) (b : Block) : Option (Frame α) := do
  let content ← contentBox style d p b
  let label ← blockLabel style m b.kind b.text
  return { box := Layout.fitHeader style label (before.foldl (Layout.takeIn style b) content)
           headerHeight := label.headerHeight
           tabWidth := label.tabWidth
           labelLines := label.lines }

def frameBlocks (d : Diagram) (p : Placement α) : Option (Placement α) := do
  let frames ← d.blocks.foldlM
    (fun before b => ((frame style m d p before b).map fun f => (b, f)).map fun x => before ++ [x]) []
  return { p with frames := frames.map (·.2) }

variable {d : Diagram} {p : Placement α} {b : Block}

omit [Scalar α] in
theorem coveredActors?_eq (actors : Nat) (events : List (Event × Box α)) :
    coveredActors? actors events = some (Layout.coveredActors? actors events) := by
  unfold coveredActors? Layout.coveredActors?
  cases actorRange? (events.flatMap fun (e, _) => e.action.referenced) with
  | some range => rfl
  | none =>
    by_cases hzero : actors = 0
    · rw [if_pos hzero, if_pos hzero]
    · rw [if_neg hzero, if_neg hzero, minus_eq (by omega)]
      rfl

omit [Scalar α] in
/-- The actors a frame covers are there: those its events refer to, or all. -/
theorem coveredActors?_lt {actors first last : Nat} {events : List (Event × Box α)}
    (hevents : ∀ x ∈ events, ∀ a ∈ x.1.action.referenced, a < actors)
    (h : Layout.coveredActors? actors events = some (first, last)) : first < actors ∧ last < actors := by
  have hreferenced : ∀ a ∈ events.flatMap (fun (e, _) => e.action.referenced), a < actors := by
    intro a ha
    obtain ⟨x, hx, ha⟩ := List.mem_flatMap.mp ha
    exact hevents x hx a ha
  unfold Layout.coveredActors? at h
  split at h
  · rename_i range hrange
    obtain rfl := Option.some.inj h
    obtain ⟨hfirst, hlast, -⟩ := Layout.actorRange?_eq_some hrange
    exact ⟨hreferenced first hfirst, hreferenced last hlast⟩
  · split at h
    · cases h
    · obtain ⟨rfl, rfl⟩ := Prod.mk.inj (Option.some.inj h)
      omega

theorem horizontal?_eq (hd : d.Indexed) (h : p.Fits d) {events : List (Event × Box α)}
    (hevents : ∀ x ∈ events, x.1 ∈ d.events) : horizontal? d p events = some (Layout.horizontal? d p events) := by
  rw [horizontal?, coveredActors?_eq, Layout.horizontal?]
  cases hcovered : Layout.coveredActors? d.actors.length events with
  | none => rfl
  | some range =>
    obtain ⟨first, last⟩ := range
    obtain ⟨hfirst, hlast⟩ := coveredActors?_lt (fun x hx => hd.referenced x.1 (hevents x hx)) hcovered
    have ha : p.labels[first]? = some (p.labelBox first) := getElem?_eq_getD (h.labels.symm ▸ hfirst) _
    have hb : p.labels[last]? = some (p.labelBox last) := getElem?_eq_getD (h.labels.symm ▸ hlast) _
    simp only [Option.bind_eq_bind, Option.bind_some, ha, hb]
    rfl

theorem contentBox_eq (hd : d.Indexed) (h : p.Fits d) (hb : b ∈ d.blocks) :
    contentBox style d p b = some (Layout.contentBox style d p b) := by
  obtain ⟨hlt, hfinish⟩ := hd.block b hb
  have hlength : (d.events.zip p.events).length = d.events.length := by
    rw [List.length_zip, h.events, Nat.min_self]
  have hheld : slice (d.events.zip p.events) b.start b.finish = some (Layout.held d p b) :=
    slice_eq (Nat.le_of_lt hlt) (by omega)
  have hmarker : p.events[b.start]? = some (p.eventBox b.start) := getElem?_eq_getD (by rw [h.events]; omega) _
  have hmem : ∀ x ∈ Layout.held d p b, x.1 ∈ d.events := by
    intro x hx
    exact (List.of_mem_zip (List.mem_of_mem_drop (List.mem_of_mem_take hx))).1
  rw [contentBox, hheld, hmarker]
  simp only [Option.bind_eq_bind, Option.bind_some, horizontal?_eq hd h hmem]
  rfl

theorem frame_eq (hd : d.Indexed) (h : p.Fits d) (hb : b ∈ d.blocks) (before : List (Block × Frame α)) :
    frame style m d p before b = some (Layout.frame style m d p before b) := by
  rw [frame, contentBox_eq style hd h hb, blockLabel_eq]
  rfl

theorem frameBlocks_eq (hd : d.Indexed) (h : p.Fits d) :
    frameBlocks style m d p = some (Layout.frameBlocks style m d p) := by
  rw [frameBlocks, foldlM_snoc_eq (g := fun before b => (b, Layout.frame style m d p before b))]
  · rfl
  · intro k b before hk _
    rw [frame_eq style m hd h (List.mem_of_getElem? hk)]
    rfl

end Frames

/-! ## Phases -/

section Phases

variable (style : Style α) (m : TextMetrics α) (d : Diagram)

def run (p : Placement α) : Phase → Option (Placement α)
  | .sizeActors => return Layout.sizeActors style m d p
  | .placeEvents => placeEvents style m d p
  | .placeActors => placeActors style d p
  | .placeBars => placeBars style d p
  | .frameBlocks => frameBlocks style m d p
  | .sizeCanvas => return Layout.sizeCanvas style p

def runAll (p : Placement α) (phases : List Phase) : Option (Placement α) := phases.foldlM (run style m d) p

variable {d} {p : Placement α}

theorem run_eq (hd : d.Indexed) (h : p.Fits d) (phase : Phase) :
    run style m d p phase = some (Layout.run style m d p phase) := by
  cases phase with
  | sizeActors => rfl
  | placeEvents => exact placeEvents_eq style m d p
  | placeActors => exact placeActors_eq style hd h
  | placeBars => exact placeBars_eq style hd h
  | frameBlocks => exact frameBlocks_eq style m hd h
  | sizeCanvas => rfl

theorem runAll_eq (hd : d.Indexed) (h : p.Fits d) (phases : List Phase) :
    runAll style m d p phases = some (Layout.runAll style m d p phases) := by
  induction phases generalizing p with
  | nil => rfl
  | cons phase phases ih =>
    rw [runAll, List.foldlM_cons, run_eq style m hd h phase]
    exact ih (h.run phase)

end Phases

end SequenceDiagram.Checked
