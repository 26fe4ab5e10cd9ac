/-
  SequenceDiagram.Layout.Sizing — the size of each part before it is placed.

  A label or a note is its text with padding around. A message also reserves the length
  of an arrowhead, and a message to oneself the diameter of its loop. The first marker of
  a block is as large as the block's header: a tab with the keyword, and below it the
  lines of the wrapped label with spacing between them. The last marker is as high as an
  empty header.
-/

import SequenceDiagram.Diagram.Basic
import SequenceDiagram.Metrics.Wrap
import SequenceDiagram.Style

namespace SequenceDiagram.Layout

variable {α : Type} [Scalar α]

open Scalar (ofNat twice larger)

/-- A text with padding on all sides. -/
def padded (style : Style α) (text : Size α) : Size α :=
  ⟨text.width + twice style.textPaddingX, text.height + twice style.textPaddingY⟩

/-! ## Block headers -/

structure BlockLabel (α : Type) where
  lines : List String
  tabWidth : α
  /-- Width that the tab and every line of the label need. -/
  width : α
  headerHeight : α
  deriving DecidableEq, Repr

/-- The height of some lines with the spacing between them. -/
def linesHeight (style : Style α) (m : TextMetrics α) : Nat → α
  | 0 => ofNat 0
  | n + 1 => ofNat (n + 1) * m.lineHeight style.messageFontSize + ofNat n * style.lineSpacing

def blockLabel (style : Style α) (m : TextMetrics α) (kind : BlockKind) (text : String) : BlockLabel α :=
  let font := style.messageFontSize
  let tabWidth := (m.measure kind.keyword font).width + style.textPaddingX + style.foldSize
  let lines := m.wrap text font style.groupMaxWidth
  let widest := (lines.map fun l => (m.measure l font).width).foldl larger (ofNat 0)
  { lines
    tabWidth
    width := larger tabWidth (widest + twice style.textPaddingX)
    headerHeight := larger style.groupBaseHeight (style.groupTabHeight + linesHeight style m lines.length) }

/-! ## Labels and events -/

def labelSize (style : Style α) (m : TextMetrics α) (name : String) : Size α :=
  padded style (m.measure name style.actorFontSize)

def eventSize (style : Style α) (m : TextMetrics α) : Action → Size α
  | .message _ source destination text _ =>
    let s := padded style (m.measure text style.messageFontSize)
    ⟨s.width + style.arrowWidth, if source = destination then s.height + style.selfDiameter else s.height⟩
  | .note _ _ text => padded style (m.measure text style.messageFontSize)
  | .blockStart kind text =>
    let label := blockLabel style m kind text
    ⟨label.width, label.headerHeight⟩
  | .blockEnd => ⟨ofNat 0, style.groupBaseHeight⟩

end SequenceDiagram.Layout
