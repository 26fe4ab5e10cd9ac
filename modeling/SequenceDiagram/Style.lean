/-
  SequenceDiagram.Style — lengths, fonts and colours of a picture.

  Layout reads the lengths and font sizes, drawing reads all. The default style is the
  one a picture gets when nothing is set.
-/

import SequenceDiagram.Numeric.Scalar

namespace SequenceDiagram

structure Palette where
  background : String
  actorStroke : String
  actorText : String
  lifeline : String
  messageLine : String
  arrowHead : String
  messageText : String
  activationStroke : String
  activationFill : String
  noteFill : String
  noteStroke : String
  groupLine : String
  groupFill : String
  groupText : String
  deriving DecidableEq, Repr

structure Style (α : Type) where
  /-- Font size of actor labels. -/
  actorFontSize : α
  /-- Font size of messages, notes and block labels. -/
  messageFontSize : α
  /-- Margin left and right of the actors, and the least gap between two labels. -/
  minPaddingX : α
  /-- Gap between consecutive events. -/
  minPaddingY : α
  /-- Padding left and right of a text. -/
  textPaddingX : α
  /-- Padding above and below a text. -/
  textPaddingY : α
  /-- Length of an arrowhead, reserved in every message box. -/
  arrowWidth : α
  /-- Base of an arrowhead. -/
  arrowHeight : α
  /-- Diameter of the half circle that turns a self-message back. -/
  selfDiameter : α
  activationWidth : α
  /-- Extra space between the lines of a block label. -/
  lineSpacing : α
  /-- Width at which a block label wraps. -/
  groupMaxWidth : α
  /-- Least height of a block's header. -/
  groupBaseHeight : α
  /-- Padding between a block's frame and what it holds. -/
  groupPadding : α
  /-- Height of the tab with a block's keyword. -/
  groupTabHeight : α
  /-- Distance between nested frames. -/
  blockMargin : α
  /-- Gap between a side note and its lifeline. -/
  noteGap : α
  /-- Size of the folded corner of notes and tabs. -/
  foldSize : α
  fontFamily : String
  palette : Palette
  deriving DecidableEq, Repr

/-- The family of the face that images are drawn with. -/
def bundledFamily : String := "DejaVu Sans"

def Palette.default : Palette where
  background := "#ffffff"
  actorStroke := "#000000"
  actorText := "#000000"
  lifeline := "#0000ff"
  messageLine := "#0000ff"
  arrowHead := "#000000"
  messageText := "#000000"
  activationStroke := "#000000"
  activationFill := "#ffffff"
  noteFill := "#fffccf"
  noteStroke := "#000000"
  groupLine := "#0000ff"
  groupFill := "#ffffff"
  groupText := "#0000ff"

namespace Style

variable {α : Type}

open Scalar (ofNat)

def default [Scalar α] : Style α where
  actorFontSize := ofNat 14
  messageFontSize := ofNat 12
  minPaddingX := ofNat 30
  minPaddingY := ofNat 25
  textPaddingX := ofNat 15
  textPaddingY := ofNat 5
  arrowWidth := ofNat 20
  arrowHeight := ofNat 14
  selfDiameter := ofNat 30
  activationWidth := ofNat 10
  lineSpacing := ofNat 5
  groupMaxWidth := ofNat 300
  groupBaseHeight := ofNat 30
  groupPadding := ofNat 10
  groupTabHeight := ofNat 20
  blockMargin := ofNat 5
  noteGap := ofNat 10
  foldSize := ofNat 8
  fontFamily := bundledFamily ++ ", sans-serif"
  palette := .default

def withFontSizes (s : Style α) (actor message : α) : Style α :=
  { s with actorFontSize := actor, messageFontSize := message }

def withGroupMaxWidth (s : Style α) (width : α) : Style α := { s with groupMaxWidth := width }

def withFontFamily (s : Style α) (family : String) : Style α := { s with fontFamily := family }

end Style

end SequenceDiagram
