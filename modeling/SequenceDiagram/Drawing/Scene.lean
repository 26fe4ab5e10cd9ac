/-
  SequenceDiagram.Drawing.Scene — the shapes of a placed diagram.

  Shapes are drawn one over the other: the actors with their lifelines, the activation
  bars, the messages and notes in document order, and the block frames. An actor's label
  is drawn twice, in the top row and where the lifelines end.

  The line of a message runs between two lifelines, or from the edges of the bars that
  are active there, its arrowhead at the receiver pointing away from the sender. A message
  to oneself runs to the right, turns in a half circle and comes back.
-/

import SequenceDiagram.Drawing.Shape
import SequenceDiagram.Layout.Placement
import SequenceDiagram.Style

namespace SequenceDiagram.Drawing

variable {α : Type} [Scalar α]

open Scalar (ofNat half twice larger smaller)

/-! ## Strokes and text styles -/

def lineWidth : α := ofNat 1

def dashes : α × α := (ofNat 5, ofNat 5)

def solid (color : String) : Stroke α := ⟨color, lineWidth, none⟩

def dashed (color : String) : Stroke α := ⟨color, lineWidth, some dashes⟩

def messageStroke (style : Style α) : LineStyle → Stroke α
  | .solid => solid style.palette.messageLine
  | .dashed => dashed style.palette.messageLine

def messageText (style : Style α) : TextStyle α :=
  ⟨style.messageFontSize, style.palette.messageText, .middle, false⟩

/-! ## Actors and bars -/

def labelShapes (style : Style α) (name : String) (b : Box α) : List (Shape α) :=
  [.box b (solid style.palette.actorStroke) (some style.palette.background),
   .text name ⟨b.midX, b.midY⟩ ⟨style.actorFontSize, style.palette.actorText, .middle, false⟩]

def actorShapes (style : Style α) (p : Placement α) (actor : Actor) (b : Box α) : List (Shape α) :=
  labelShapes style actor.name b ++ labelShapes style actor.name (b.shift (ofNat 0) p.terminalY) ++
    [.line ⟨b.midX, b.bottom⟩ ⟨b.midX, p.terminalY⟩ (dashed style.palette.lifeline)]

def barShape (style : Style α) (b : Box α) : Shape α :=
  .box b (solid style.palette.activationStroke) (some style.palette.activationFill)

/-! ## Messages -/

/-- The three corners of an arrowhead, tip first. -/
def arrowHead (style : Style α) (tip : Point α) (rightward : Bool) : List (Point α) :=
  let base := if rightward then tip.x - style.arrowWidth else tip.x + style.arrowWidth
  let reach := half style.arrowHeight
  [tip, ⟨base, tip.y - reach⟩, ⟨base, tip.y + reach⟩]

def arrowHeadShape (style : Style α) (tip : Point α) (rightward : Bool) : Shape α :=
  .polygon (arrowHead style tip rightward) none (some style.palette.arrowHead)

/-- The bar of the activation that is innermost on an actor during an event. -/
def activeBar? (d : Diagram) (p : Placement α) (actor event : Nat) : Option (Box α) :=
  (d.activationAt? actor event).map p.barBox

/-- What is left of a message's height when padding and loop are taken off. -/
def messageTextHeight (style : Style α) (isSelf : Bool) (b : Box α) : α :=
  let h := b.height - twice style.textPaddingY
  larger (if isSelf then h - style.selfDiameter else h) (ofNat 0)

/-- Where the line of a message begins and ends: at the lifelines, or at the near edges
    of active bars. -/
def messageEnds (d : Diagram) (p : Placement α) (event source destination : Nat) : α × α :=
  let x1 := (p.labelBox source).midX
  let x2 := (p.labelBox destination).midX
  let leftward : Bool := decide (x2 < x1)
  let first :=
    match activeBar? d p source event with
    | some bar => if leftward then bar.left else bar.right
    | none => x1
  let last :=
    match activeBar? d p destination event with
    | some bar => if leftward then bar.right else bar.left
    | none => x2
  (first, last)

def messageShapes (style : Style α) (d : Diagram) (p : Placement α) (event : Nat) (b : Box α)
    (line : LineStyle) (source destination : Nat) (text : String) : List (Shape α) :=
  let y := b.midY
  let leftward : Bool := decide ((p.labelBox destination).midX < (p.labelBox source).midX)
  let (x1, x2) := messageEnds d p event source destination
  let textHeight := messageTextHeight style false b
  [.line ⟨x1, y⟩ ⟨x2, y⟩ (messageStroke style line),
   arrowHeadShape style ⟨x2, y⟩ (!leftward),
   .text text ⟨half (x1 + x2), y - half textHeight - half style.textPaddingY⟩ (messageText style)]

def selfMessageShapes (style : Style α) (d : Diagram) (p : Placement α) (event : Nat) (b : Box α)
    (line : LineStyle) (actor : Nat) (text : String) : List (Shape α) :=
  let x1 :=
    match activeBar? d p actor event with
    | some bar => bar.right
    | none => (p.labelBox actor).midX
  let x2 := x1 + half b.width
  let radius := half style.selfDiameter
  let top := b.bottom - style.selfDiameter
  let stroke := messageStroke style line
  [.line ⟨x1, top⟩ ⟨x2, top⟩ stroke,
   .arc ⟨x2, top + radius⟩ radius (-ofNat 90) (ofNat 90) stroke,
   .line ⟨x2, b.bottom⟩ ⟨x1, b.bottom⟩ stroke,
   arrowHeadShape style ⟨x1, b.bottom⟩ false,
   .text text ⟨x2, b.top + style.textPaddingY + half (messageTextHeight style true b)⟩ (messageText style)]

/-! ## Notes -/

/-- A box with its top right corner folded, the fold, and the text. -/
def noteShapes (style : Style α) (b : Box α) (text : String) : List (Shape α) :=
  let fold := smaller (smaller style.foldSize (half b.width)) (half b.height)
  let stroke := some (solid style.palette.noteStroke)
  let fill := some style.palette.noteFill
  [.polygon [⟨b.left, b.top⟩, ⟨b.right - fold, b.top⟩, ⟨b.right, b.top + fold⟩, ⟨b.right, b.bottom⟩,
     ⟨b.left, b.bottom⟩] stroke fill,
   .polygon [⟨b.right - fold, b.top⟩, ⟨b.right - fold, b.top + fold⟩, ⟨b.right, b.top + fold⟩] stroke fill,
   .text text ⟨b.midX, b.midY⟩ (messageText style)]

def eventShapes (style : Style α) (d : Diagram) (p : Placement α) (event : Nat) (e : Event) (b : Box α) :
    List (Shape α) :=
  match e.action with
  | .message arrow source destination text _ =>
    if source = destination then selfMessageShapes style d p event b arrow.style source text
    else messageShapes style d p event b arrow.style source destination text
  | .note _ _ text => noteShapes style b text
  | .blockStart .. | .blockEnd => []

/-! ## Block frames -/

/-- The height of one label line, found back from the height of the header. -/
def slotHeight (style : Style α) (f : Frame α) (tabHeight : α) : α :=
  match f.labelLines.length with
  | 0 => ofNat 0
  | n + 1 => larger ((f.headerHeight - tabHeight - style.lineSpacing * ofNat n) / ofNat (n + 1)) (ofNat 0)

/-- The frame, the tab with the keyword at its corner, and the label lines below. -/
def frameShapes (style : Style α) (block : Block) (f : Frame α) : List (Shape α) :=
  let stroke := solid style.palette.groupLine
  let x := f.box.left
  let y := f.box.top
  let tabWidth := smaller f.tabWidth f.box.width
  let tabHeight := smaller style.groupTabHeight f.box.height
  let notch := smaller (smaller style.foldSize tabWidth) tabHeight
  let tab : List (Point α) := [⟨x, y⟩, ⟨x + tabWidth, y⟩, ⟨x + tabWidth, y + tabHeight - notch⟩,
    ⟨x + tabWidth - notch, y + tabHeight⟩, ⟨x, y + tabHeight⟩]
  let text (bold : Bool) : TextStyle α := ⟨style.messageFontSize, style.palette.groupText, .start, bold⟩
  let slot := slotHeight style f tabHeight
  let labels : List (Shape α) := f.labelLines.mapIdx fun i line =>
    .text line ⟨x + style.textPaddingX, y + tabHeight + ofNat i * (slot + style.lineSpacing) + half slot⟩
      (text false)
  [.box f.box stroke none,
   .polygon tab (some stroke) (some style.palette.groupFill),
   .text block.kind.keyword ⟨x + half style.textPaddingX, y + half tabHeight⟩ (text true)] ++ labels

/-! ## The whole scene -/

def scene (style : Style α) (d : Diagram) (p : Placement α) : List (Shape α) :=
  (List.zipWith (actorShapes style p) d.actors p.labels).flatten ++
    p.bars.map (barShape style) ++
    ((d.events.zip p.events).mapIdx fun i (e, b) => eventShapes style d p i e b).flatten ++
    (List.zipWith (frameShapes style) d.blocks p.frames).flatten

end SequenceDiagram.Drawing
