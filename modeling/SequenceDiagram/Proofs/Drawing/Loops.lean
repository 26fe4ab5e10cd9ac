/-
  SequenceDiagram.Proofs.Drawing.Loops — bars and messages to oneself at the right edge.

  A message to oneself leaves its lifeline, or the innermost bar there, on the right. So
  it begins half a bar further right for every level its actor is deep (`loopStart_eq`),
  turns half its box further on, and comes back to where it began. Its box is measured
  from the lifeline, and so is the canvas: neither knows of the bars.

  That leaves room for so many levels and no more. In the default style every bar is on
  the canvas up to depth eight, and every loop up to level four, whatever the document and
  the metrics (`barsFit_of_build`); one level deeper short names and texts are enough to
  leave it (`deep_bar_and_loop_leave_canvas`). On the left, at the top and at the bottom
  all bars are on the canvas.
-/

import SequenceDiagram.Drawing.Scene
import SequenceDiagram.Proofs.Layout.Bars

namespace SequenceDiagram

/-- Nothing of a shape but its text is left of one line or right of another. Of an arc the
    whole circle is meant. -/
def Shape.Between (left right : ℚ) : Shape ℚ → Prop
  | .line first last _ => (left ≤ first.x ∧ first.x ≤ right) ∧ left ≤ last.x ∧ last.x ≤ right
  | .box b _ _ => left ≤ b.left ∧ b.right ≤ right
  | .polygon points _ _ => ∀ point ∈ points, left ≤ point.x ∧ point.x ≤ right
  | .arc center radius _ _ _ => left ≤ center.x - radius ∧ center.x + radius ≤ right
  | .text .. => True

namespace Drawing

open Layout

variable {style : Style ℚ} {m : TextMetrics ℚ} {d : Diagram} {p : Placement ℚ} {actor k line : Nat}
  {arrow : Arrow} {text : String} {activation : Option Nat}

/-! ## The shapes of a loop -/

/-- Where a message to oneself begins and ends: right of the innermost bar, or at the lifeline. -/
def loopStart (d : Diagram) (p : Placement ℚ) (actor event : Nat) : ℚ :=
  (activeBar? d p actor event).elim (p.labelBox actor).midX Box.right

/-- Half a bar for every level, as a bar is one wide and each is half a bar further right. -/
theorem loopStart_eq (hd : d.Spanned) (hbarred : Barred style d p) (actor event : Nat) :
    loopStart d p actor event = (p.labelBox actor).midX + d.level actor event * (style.activationWidth / 2) := by
  unfold loopStart activeBar?
  cases hk : d.activationAt? actor event with
  | none =>
    rw [Diagram.level_of_none hk, Nat.cast_zero, zero_mul, add_zero]
    rfl
  | some k =>
    obtain ⟨x, hx, rfl⟩ := hd.actor_of_activationAt? hk
    rw [Diagram.level_of_some hk, Option.map_some, Option.elim_some, hbarred.bar k x hx]
    show barLeft style d p k x + style.activationWidth = _
    rw [barLeft, Nat.cast_add, Nat.cast_one]
    ring

theorem selfMessageShapes_eq (style : Style ℚ) (d : Diagram) (p : Placement ℚ) (event : Nat) (b : Box ℚ)
    (line : LineStyle) (actor : Nat) (text : String) : selfMessageShapes style d p event b line actor text =
      let x1 := loopStart d p actor event
      let x2 := x1 + b.width / 2
      let top := b.bottom - style.selfDiameter
      [.line ⟨x1, top⟩ ⟨x2, top⟩ (messageStroke style line),
       .arc ⟨x2, top + style.selfDiameter / 2⟩ (style.selfDiameter / 2) (-90) 90 (messageStroke style line),
       .line ⟨x2, b.bottom⟩ ⟨x1, b.bottom⟩ (messageStroke style line),
       arrowHeadShape style ⟨x1, b.bottom⟩ false,
       .text text ⟨x2, b.top + style.textPaddingY + messageTextHeight style true b / 2⟩ (messageText style)] := by
  unfold selfMessageShapes loopStart
  cases activeBar? d p actor event <;> rfl

/-- A loop is between two lines when it begins, turns and has its arrowhead there. -/
theorem between_selfMessageShapes (hs : style.NonNegative) {event : Nat} {b : Box ℚ} {line : LineStyle} {left right : ℚ}
    (hleft : left ≤ loopStart d p actor event) (hturn : style.selfDiameter ≤ b.width)
    (hhead : loopStart d p actor event + style.arrowWidth ≤ right)
    (hreach : loopStart d p actor event + b.width / 2 + style.selfDiameter / 2 ≤ right) :
    ∀ shape ∈ selfMessageShapes style d p event b line actor text, shape.Between left right := by
  have hdiameter := hs.selfDiameter
  have hwidth := hs.arrowWidth
  have hstart : left ≤ loopStart d p actor event ∧ loopStart d p actor event ≤ right := ⟨hleft, by linarith⟩
  have hend : left ≤ loopStart d p actor event + b.width / 2 ∧ loopStart d p actor event + b.width / 2 ≤ right :=
    ⟨by linarith, by linarith⟩
  rw [selfMessageShapes_eq]
  simp only [List.forall_mem_cons, List.not_mem_nil, IsEmpty.forall_iff, implies_true, and_true]
  refine ⟨⟨hstart, hend⟩, ⟨?_, hreach⟩, ⟨hend, hstart⟩, ?_, trivial⟩
  · show left ≤ loopStart d p actor event + b.width / 2 - style.selfDiameter / 2
    linarith
  · have hbase : left ≤ loopStart d p actor event + style.arrowWidth ∧
        loopStart d p actor event + style.arrowWidth ≤ right := ⟨by linarith, hhead⟩
    intro point hpoint
    rcases List.mem_cons.mp hpoint with rfl | hpoint
    · exact hstart
    · rcases List.mem_cons.mp hpoint with rfl | hpoint
      · exact hbase
      · obtain rfl := List.mem_singleton.mp hpoint
        exact hbase

/-! ## Loops and the canvas -/

/-- The padding of its text and the arrowhead make the least width of a message. -/
theorem le_messageWidth (hm : m.NonNegative style) (arrow : Arrow) (source destination : Nat) (text : String)
    (activation : Option Nat) : 2 * style.textPaddingX + style.arrowWidth ≤
      (eventSize style m (.message arrow source destination text activation)).width := by
  have htext := (hm.message text).width
  show _ ≤ (m.measure text style.messageFontSize).width + style.textPaddingX * 2 + style.arrowWidth
  linarith

/-- A loop is on the canvas up to the level that half its box and the padding leave room for. -/
theorem loop_between (hs : style.NonNegative) (hm : m.NonNegative style) (hd : d.Spanned) (hindexed : d.Indexed)
    (he : d.events[k]? = some ⟨line, .message arrow actor actor text activation⟩)
    (hturn : style.selfDiameter ≤ 2 * style.textPaddingX + style.arrowWidth)
    (hhead : d.level actor k * style.activationWidth ≤ 2 * (2 * style.textPaddingX + style.groupPadding))
    (hreach : d.level actor k * style.activationWidth + style.selfDiameter ≤
      2 * style.textPaddingX + style.arrowWidth + 2 * style.groupPadding) :
    ∀ shape ∈ eventShapes style d (d.place style m) k ⟨line, .message arrow actor actor text activation⟩
      ((d.place style m).eventBox k), shape.Between 0 (d.place style m).canvas.width := by
  have hmem := List.mem_of_getElem? he
  have hactor := hindexed.referenced _ hmem actor (by simp [Action.referenced, Action.source?])
  have hanchored := anchored_place hs hm (fun e => hindexed.referenced e)
  have hwidth := hanchored.width k _ he rfl
  have hleast := le_messageWidth hm arrow actor actor text activation
  have hbegin := hanchored.loop k line arrow actor text activation he
  have hcanvas : ((d.place style m).eventBox k).right + style.groupPadding ≤ (d.place style m).canvas.width := by
    rw [canvas_place]
    have hevent := List.mem_of_getElem? ((stacked_place hs hm d).events_getElem? he)
    exact (overhang_le_canvas style (List.mem_append_right _ hevent)).1
  have hstart := loopStart_eq hd (barred_place hs hm hd hindexed) actor k
  have hlifeline := (lifeline_on_canvas hs hm hactor).1
  have hlevel : (0 : ℚ) ≤ d.level actor k * (style.activationWidth / 2) :=
    mul_nonneg (Nat.cast_nonneg _) (by linarith [hs.activationWidth])
  have hright : ((d.place style m).eventBox k).right =
      ((d.place style m).labelBox actor).midX + ((d.place style m).eventBox k).width := by
    rw [Box.width_eq, hbegin]
    ring
  simp only [eventShapes, if_true]
  apply between_selfMessageShapes hs
  · rw [hstart]
    linarith [hs.groupPadding, hs.textPaddingX]
  · linarith
  · linarith
  · linarith

/-! ## The default style -/

/-- What is on the canvas beside the lifelines, in the default style. -/
structure BarsFit (d : Diagram) (p : Placement ℚ) : Prop where
  bars : p.bars.length = d.activations.length
  /-- Ten wide, and five further to the right for every ancestor. -/
  place : ∀ k x, d.activations[k]? = some x → (p.barBox k).left = (p.labelBox x.actor).midX - 5 + 5 * d.depth k ∧
    (p.barBox k).right = (p.barBox k).left + 10
  left : ∀ k < d.activations.length, 0 ≤ (p.barBox k).left
  vertical : ∀ k < d.activations.length, 0 ≤ (p.barBox k).top ∧ (p.barBox k).top ≤ (p.barBox k).bottom ∧
    (p.barBox k).bottom ≤ p.canvas.height
  right : ∀ k < d.activations.length, d.depth k ≤ 8 → (p.barBox k).right ≤ p.canvas.width
  /-- The lines, the arc and the arrowhead of a message to oneself. -/
  loop : ∀ (k : Nat) line arrow actor text activation,
    d.events[k]? = some ⟨line, .message arrow actor actor text activation⟩ → d.level actor k ≤ 4 →
      ∀ shape ∈ eventShapes .default d p k ⟨line, .message arrow actor actor text activation⟩ (p.eventBox k),
        shape.Between 0 p.canvas.width

/-- In the default style the bars of every linked diagram are on the canvas on three sides, and
    on the right up to depth eight; loops are up to level four. -/
theorem barsFit_of_build {ss : List Numbered} {d : Diagram} {m : TextMetrics ℚ} (h : Diagram.build ss = .ok d)
    (hm : m.NonNegative .default) : BarsFit d (d.place .default m) := by
  have hs := Style.default_nonNegative
  have hd := Diagram.spanned_of_build h
  have hindexed := Diagram.indexed_of_build h
  have hbarred := barred_place hs hm hd hindexed
  have hbarWidth : (Style.default : Style ℚ).activationWidth = 10 := rfl
  have hdiameter : (Style.default : Style ℚ).selfDiameter = 30 := rfl
  have harrow : (Style.default : Style ℚ).arrowWidth = 20 := rfl
  have htext : (Style.default : Style ℚ).textPaddingX = 15 := rfl
  have hgroup : (Style.default : Style ℚ).groupPadding = 10 := rfl
  have hmargin : (Style.default : Style ℚ).minPaddingX = 30 := rfl
  have hrow : (Style.default : Style ℚ).minPaddingY = 25 := rfl
  refine ⟨hbarred.length, fun k x hx => ?_, fun k hk => ?_, fun k hk => ?_, fun k hk hdepth => ?_,
    fun k line arrow actor text activation he hlevel => ?_⟩
  · rw [hbarred.bar k x hx]
    refine ⟨?_, congrArg (_ + ·) hbarWidth⟩
    show barLeft _ d _ k x = _
    rw [barLeft, hbarWidth]
    ring
  · apply bar_left_nonneg hs hm hd hindexed (List.getElem?_eq_getElem hk)
    rw [hbarWidth, hgroup, htext]
    norm_num
  · obtain ⟨htop, hlong, hbottom⟩ := bar_vertical hs hm hd hindexed (List.getElem?_eq_getElem hk)
    exact ⟨htop, by linarith, hbottom⟩
  · have hcast : (d.depth k : ℚ) ≤ 8 := by exact_mod_cast hdepth
    apply bar_right_le_canvas hs hm hd hindexed (List.getElem?_eq_getElem hk)
    rw [hbarWidth, htext, hmargin]
    linarith
  · have hcast : (d.level actor k : ℚ) ≤ 4 := by exact_mod_cast hlevel
    apply loop_between hs hm hd hindexed he
    · rw [hdiameter, htext, harrow]
      norm_num
    · rw [hbarWidth, htext, hgroup]
      linarith
    · rw [hbarWidth, hdiameter, htext, harrow, hgroup]
      linarith

/-- A bar inside another that never ends, and a message to oneself from each. -/
theorem barsFit_nested :
    ∃ ss, ss = [⟨1, .message "a" ⟨.solid, some .start⟩ "b" "x"⟩, ⟨2, .message "b" ⟨.solid, some .start⟩ "b" "y"⟩,
      ⟨3, .message "b" ⟨.dashed, some .finish⟩ "a" "z"⟩, ⟨4, .message "b" ⟨.solid, none⟩ "b" "on"⟩] ∧
    ∃ d, Diagram.build ss = .ok d ∧ d.depth 1 = 1 ∧ d.level 1 1 = 2 ∧ d.level 1 3 = 1 ∧
      (d.place .default (.fixed (8 : ℚ) 16)).bars = [⟨112, 64, 122, 315⟩, ⟨117, 130, 127, 196⟩] ∧
      (d.place .default (.fixed (8 : ℚ) 16)).canvas = ⟨193, 367⟩ ∧
      BarsFit d (d.place .default (.fixed 8 16)) := by
  have hm : (TextMetrics.fixed (8 : ℚ) 16).NonNegative .default :=
    TextMetrics.fixed_nonNegative (by decide) (by decide) _
  refine ⟨_, rfl, ?d, ?build, ?depth, ?inner, ?outer, ?bars, ?canvas, barsFit_of_build ?build hm⟩
  case build => exact rfl
  case depth => decide +kernel
  case inner => decide +kernel
  case outer => decide +kernel
  case bars => decide +kernel
  case canvas => decide +kernel

/-- The bar of a tenth activation inside nine others ends right of the canvas, and so does the
    loop of a message to oneself that starts the fifth inside four others. -/
theorem deep_bar_and_loop_leave_canvas :
    (∃ d p, Diagram.read ("\n".intercalate (List.replicate 10 "a->+b: x")) = .ok d ∧
      p = d.place .default (.fixed (8 : ℚ) 16) ∧ d.depth 9 = 9 ∧ p.canvas.width < (p.barBox 9).right) ∧
    ∃ d p, Diagram.read ("\n".intercalate (List.replicate 5 "a->+a: x")) = .ok d ∧
      p = d.place .default (.fixed (8 : ℚ) 16) ∧ d.level 0 4 = 5 ∧
      ∃ center radius stroke, .arc center radius (-90) 90 stroke ∈ scene .default d p ∧
        p.canvas.width < center.x + radius := by
  constructor
  · have hdocument : Document.read ("\n".intercalate (List.replicate 10 "a->+b: x")) =
        .ok ((List.range 10).map fun i => ⟨i + 1, .message "a" ⟨.solid, some .start⟩ "b" "x"⟩) := by decide +kernel
    obtain ⟨d, hread, hdepth, hbar, hcanvas⟩ :
        ∃ d, Diagram.read ("\n".intercalate (List.replicate 10 "a->+b: x")) = .ok d ∧ d.depth 9 = 9 ∧
          (d.place .default (.fixed (8 : ℚ) 16)).barBox 9 = ⟨157, 523, 167, 561⟩ ∧
          (d.place .default (.fixed (8 : ℚ) 16)).canvas = ⟨166, 613⟩ := by
      refine ⟨?bars, ?linked, ?depth, ?bar, ?canvas⟩
      case linked =>
        rw [Diagram.read, hdocument]
        exact rfl
      case depth => decide +kernel
      case bar => decide +kernel
      case canvas => decide +kernel
    refine ⟨d, _, hread, rfl, hdepth, ?_⟩
    rw [hbar, hcanvas]
    norm_num
  · have hdocument : Document.read ("\n".intercalate (List.replicate 5 "a->+a: x")) =
        .ok ((List.range 5).map fun i => ⟨i + 1, .message "a" ⟨.solid, some .start⟩ "a" "x"⟩) := by decide +kernel
    refine ⟨?loops, _, ?read, rfl, ?level, ⟨103, 416⟩, 15, ⟨"#0000ff", 1, none⟩, ?arc, ?beyond⟩
    case read =>
      rw [Diagram.read, hdocument]
      exact rfl
    case level => decide +kernel
    case arc => decide +kernel
    case beyond => decide +kernel

end Drawing

end SequenceDiagram
