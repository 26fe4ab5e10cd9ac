/-
  SequenceDiagram.Proofs.Drawing.Arrows — which way the line of a message runs.

  An arrowhead points from the lifeline of the sender to that of the receiver. The line it
  ends runs between the innermost bars where there are any: from the right of the actor on
  the left (`loopStart`) to the left of the actor on the right (`leftSide`), or back. Both
  move half a bar to the right with every level, the lifelines do not, and no gap between
  two labels is widened for bars.

  So a line runs the way its arrowhead points as long as the bars on the left end before
  the actor on the right begins. A name is a letter or a digit at the least, which puts the
  lifelines of a document 68 apart in the default style, and that is room for twelve levels
  on the left (`arrowsRun_of_read`). Two levels more are enough to take the tip of an
  arrowhead across the lifeline its message comes from (`deep_bar_turns_line`).
-/

import SequenceDiagram.Proofs.Document.Lines
import SequenceDiagram.Proofs.Drawing.Loops

namespace SequenceDiagram

/-! ## The names of a document -/

/-- Letters and digits, at least one. -/
structure IsName (name : String) : Prop where
  ne_nil : name.toList ≠ []
  isAlphanumeric : ∀ c ∈ name.toList, Text.isAlphanumeric c = true

theorem Line.Name.isName (n : Line.Name) : IsName (String.ofList n.chars) := by
  constructor <;> rw [String.toList_ofList]
  · exact n.ne_nil
  · exact n.isAlphanumeric

theorem Line.Says.isName {s : List Char} {st : Statement} (h : Line.Says s st) :
    ∀ name ∈ st.mentioned, IsName name := by
  intro name hname
  cases h with
  | message m hs =>
    rcases List.mem_cons.mp hname with rfl | hname
    · exact m.source.isName
    · rw [List.mem_singleton.mp hname]
      exact m.destination.isName
  | note n hs =>
    obtain ⟨written, -, rfl⟩ := List.mem_map.mp hname
    exact written.isName
  | _ => cases hname

theorem Diagram.read_eq_ok_iff {text : String} {d : Diagram} :
    Diagram.read text = .ok d ↔ ∃ ss, Document.read text = .ok ss ∧ Diagram.build ss = .ok d := by
  unfold Diagram.read
  cases Document.read text <;> simp [bind, Except.bind]

/-- Every actor of a document has the name of a line. -/
theorem Diagram.isName_of_read {text : String} {d : Diagram} (h : Diagram.read text = .ok d) :
    ∀ a ∈ d.actors, IsName a.name := by
  obtain ⟨ss, hdocument, hbuild⟩ := read_eq_ok_iff.mp h
  intro a ha
  have hname : a.name ∈ (mentioned ss).eraseDups := names_of_build hbuild ▸ List.mem_map_of_mem ha
  obtain ⟨s, hs, hmentioned⟩ := List.mem_flatMap.mp (List.mem_eraseDups.mp hname)
  obtain ⟨l, -, hread⟩ := ((Document.read_eq_ok_iff.mp hdocument).2.mem_iff s).mp hs
  exact (Statement.read_eq_ok_iff.mp hread).isName a.name hmentioned

namespace TextMetrics

/-- A letter or digit takes more than half a font size. -/
theorem le_weight {c : Char} (hc : Text.isAlphanumeric c = true) : (55 / 100 : ℚ) ≤ weight c := by
  have hspace : c ≠ ' ' := by
    intro heq
    rw [heq] at hc
    revert hc
    decide
  unfold weight
  rw [if_neg hspace]
  split
  · show (55 / 100 : ℚ) ≤ (1 : Nat)
    norm_num
  · split
    · show (55 / 100 : ℚ) ≤ (7 : Nat) / (Nat.pow 10 1 : Nat)
      norm_num
    · show (55 / 100 : ℚ) ≤ (55 : Nat) / (Nat.pow 10 2 : Nat)
      norm_num

theorem le_fixed_width {name : String} (hname : IsName name) (font : ℚ) :
    8 ≤ ((fixed (8 : ℚ) 16).measure name font).width := by
  have hlength : 1 ≤ name.length := by
    rw [← String.length_toList]
    exact List.length_pos_iff.mpr hname.ne_nil
  have hcast : (1 : ℚ) ≤ name.length := by exact_mod_cast hlength
  show (8 : ℚ) ≤ name.length * 8
  linarith

theorem le_estimated_width {name : String} (hname : IsName name) :
    8 ≤ ((estimated : TextMetrics ℚ).measure name 14).width := by
  have hweights : (55 / 100 : ℚ) ≤ (name.toList.map (weight : Char → ℚ)).sum := by
    obtain ⟨c, cs, hcs⟩ := List.exists_cons_of_ne_nil hname.ne_nil
    have hfirst : (55 / 100 : ℚ) ≤ weight c := le_weight (hname.isAlphanumeric c (hcs ▸ List.mem_cons_self))
    have hrest : 0 ≤ (cs.map (weight : Char → ℚ)).sum := by
      apply List.sum_nonneg
      intro w hw
      obtain ⟨c, -, rfl⟩ := List.mem_map.mp hw
      exact weight_nonneg c
    rw [hcs, List.map_cons, List.sum_cons]
    linarith
  -- widths are whole numbers, and this one is above seven
  have hseven : ((7 : Nat) : ℚ) < Scalar.sum (name.toList.map weight) * 14 := by
    rw [Scalar.sum_exact, Nat.cast_ofNat]
    linarith
  have hwhole := Scalar.succ_le_ceil hseven
  rw [Nat.cast_ofNat] at hwhole
  show 8 ≤ Scalar.ceil (Scalar.sum (name.toList.map weight) * 14)
  linarith

end TextMetrics

namespace Drawing

open Layout

variable {style : Style ℚ} {m : TextMetrics ℚ} {d : Diagram} {p : Placement ℚ} {i j k source destination : Nat}
  {e : Event} {shape : Shape ℚ}

/-- Lifelines are apart by the padding, and by the width and padding of half a text on both sides. -/
theorem lifelines_apart (hs : style.NonNegative) (hm : m.NonNegative style) {width : ℚ}
    (hwide : ∀ a ∈ d.actors, width ≤ (m.measure a.name style.actorFontSize).width) (hij : i < j)
    (hj : j < d.actors.length) :
    ((d.place style m).labelBox i).midX + (width + 2 * style.textPaddingX + style.minPaddingX) ≤
      ((d.place style m).labelBox j).midX := by
  have happart := (linedUp_place hs hm d).right_add_le hs hij hj
  have hlabel : ∀ i < d.actors.length, width + 2 * style.textPaddingX ≤
      ((d.place style m).labelBox i).right - ((d.place style m).labelBox i).left := by
    intro i hi
    have htext := hwide _ (List.getElem_mem hi)
    rw [← Box.width_eq, width_label_place hs hm (List.getElem?_eq_getElem hi)]
    show _ ≤ (m.measure d.actors[i].name style.actorFontSize).width + style.textPaddingX * 2
    linarith
  have hleft := hlabel i (by omega)
  have hright := hlabel j hj
  rw [Box.midX_eq, Box.midX_eq]
  linarith

/-! ## Where lines end -/

/-- Where a line meets an actor from the left: at the innermost bar, or at the lifeline. -/
def leftSide (d : Diagram) (p : Placement ℚ) (actor event : Nat) : ℚ :=
  (activeBar? d p actor event).elim (p.labelBox actor).midX Box.left

/-- How far right of the lifeline that is. The first bar begins half a bar left of it. -/
def nearEdge (style : Style ℚ) (level : Nat) : ℚ := if level = 0 then 0 else (level - 2) * (style.activationWidth / 2)

theorem leftSide_eq (hd : d.Spanned) (hbarred : Barred style d p) (actor event : Nat) :
    leftSide d p actor event = (p.labelBox actor).midX + nearEdge style (d.level actor event) := by
  unfold leftSide activeBar? nearEdge
  cases hk : d.activationAt? actor event with
  | none =>
    rw [Diagram.level_of_none hk, if_pos rfl, add_zero]
    rfl
  | some k =>
    obtain ⟨x, hx, rfl⟩ := hd.actor_of_activationAt? hk
    rw [Diagram.level_of_some hk, Option.map_some, Option.elim_some, hbarred.bar k x hx, if_neg (Nat.succ_ne_zero _)]
    show barLeft style d p k x = _
    rw [barLeft, Nat.cast_add, Nat.cast_one]
    ring

theorem neg_le_nearEdge (hs : style.NonNegative) (level : Nat) : -(style.activationWidth / 2) ≤ nearEdge style level := by
  have hhalf : 0 ≤ style.activationWidth / 2 := by linarith [hs.activationWidth]
  unfold nearEdge
  split
  · linarith
  · rename_i hlevel
    have hcast : (1 : ℚ) ≤ level := by exact_mod_cast Nat.pos_of_ne_zero hlevel
    have hstep : (1 - 2) * (style.activationWidth / 2) ≤ ((level : ℚ) - 2) * (style.activationWidth / 2) :=
      mul_le_mul_of_nonneg_right (by linarith) hhalf
    linarith

/-- The line of a message from `x1` to `x2`, the arrowhead with its base at `base`, and the text. -/
def lineShapes (style : Style ℚ) (line : LineStyle) (text : String) (x1 x2 base y : ℚ) (spot : Point ℚ) :
    List (Shape ℚ) :=
  [.line ⟨x1, y⟩ ⟨x2, y⟩ (messageStroke style line),
   .polygon [⟨x2, y⟩, ⟨base, y - style.arrowHeight / 2⟩, ⟨base, y + style.arrowHeight / 2⟩] none
     (some style.palette.arrowHead),
   .text text spot (messageText style)]

section

variable (style d) (event : Nat) (b : Box ℚ) (line : LineStyle) (text : String)

theorem messageShapes_rightward (h : (p.labelBox source).midX ≤ (p.labelBox destination).midX) :
    ∃ spot, messageShapes style d p event b line source destination text =
      lineShapes style line text (loopStart d p source event) (leftSide d p destination event)
        (leftSide d p destination event - style.arrowWidth) b.midY spot := by
  have hrightward : decide ((p.labelBox destination).midX < (p.labelBox source).midX) = false :=
    decide_eq_false (not_lt.mpr h)
  have hends : messageEnds d p event source destination =
      (loopStart d p source event, leftSide d p destination event) := by
    unfold messageEnds loopStart leftSide
    simp only [hrightward]
    cases activeBar? d p source event <;> cases activeBar? d p destination event <;> rfl
  unfold messageShapes
  simp only [hends, hrightward]
  exact ⟨_, rfl⟩

theorem messageShapes_leftward (h : (p.labelBox destination).midX < (p.labelBox source).midX) :
    ∃ spot, messageShapes style d p event b line source destination text =
      lineShapes style line text (leftSide d p source event) (loopStart d p destination event)
        (loopStart d p destination event + style.arrowWidth) b.midY spot := by
  have hleftward : decide ((p.labelBox destination).midX < (p.labelBox source).midX) = true := decide_eq_true h
  have hends : messageEnds d p event source destination =
      (leftSide d p source event, loopStart d p destination event) := by
    unfold messageEnds loopStart leftSide
    simp only [hleftward]
    cases activeBar? d p source event <;> cases activeBar? d p destination event <;> rfl
  unfold messageShapes
  simp only [hends, hleftward]
  exact ⟨_, rfl⟩

end

/-- The shapes of every event are drawn. -/
theorem mem_scene (hlength : p.events.length = d.events.length) (he : d.events[k]? = some e)
    (hshape : shape ∈ eventShapes style d p k e (p.eventBox k)) : shape ∈ scene style d p := by
  have hk := (List.getElem?_eq_some_iff.mp he).1
  have hzip : (d.events.zip p.events)[k]? = some (e, p.eventBox k) :=
    List.getElem?_zip_eq_some.mpr ⟨he, Placement.events_getElem? (hlength.symm ▸ hk)⟩
  have hevent : ((d.events.zip p.events).mapIdx fun i x => eventShapes style d p i x.1 x.2)[k]? =
      some (eventShapes style d p k e (p.eventBox k)) := by
    rw [List.getElem?_mapIdx, hzip]
    rfl
  have hflat := List.mem_flatten.mpr ⟨_, List.mem_of_getElem? hevent, hshape⟩
  exact List.mem_append_left _ (List.mem_append_right _ hflat)

/-! ## The default style -/

/-- How the lines of messages between two actors run, in the default style. -/
structure ArrowsRun (d : Diagram) (p : Placement ℚ) : Prop where
  apart : ∀ i j, i < j → j < d.actors.length → (p.labelBox i).midX + 68 ≤ (p.labelBox j).midX
  drawn : ∀ (k : Nat) e, d.events[k]? = some e →
    ∀ shape ∈ eventShapes .default d p k e (p.eventBox k), shape ∈ scene .default d p
  /-- To the right a line begins five further for every level of the sender, and its
      arrowhead has the base on the left. -/
  rightward : ∀ (k : Nat) line arrow source destination text activation,
    d.events[k]? = some ⟨line, .message arrow source destination text activation⟩ → source < destination →
      ∃ x1 x2 spot,
        eventShapes .default d p k ⟨line, .message arrow source destination text activation⟩ (p.eventBox k) =
          lineShapes .default arrow.style text x1 x2 (x2 - 20) (p.eventBox k).midY spot ∧
        x1 = (p.labelBox source).midX + 5 * d.level source k ∧
        x2 = (p.labelBox destination).midX + nearEdge .default (d.level destination k) ∧
        (d.level source k ≤ 12 → x1 < x2)
  /-- To the left a line ends five further for every level of the receiver, and its
      arrowhead has the base on the right. -/
  leftward : ∀ (k : Nat) line arrow source destination text activation,
    d.events[k]? = some ⟨line, .message arrow source destination text activation⟩ → destination < source →
      ∃ x1 x2 spot,
        eventShapes .default d p k ⟨line, .message arrow source destination text activation⟩ (p.eventBox k) =
          lineShapes .default arrow.style text x1 x2 (x2 + 20) (p.eventBox k).midY spot ∧
        x1 = (p.labelBox source).midX + nearEdge .default (d.level source k) ∧
        x2 = (p.labelBox destination).midX + 5 * d.level destination k ∧
        (d.level destination k ≤ 12 → x2 < x1)

/-- In the default style lifelines that are far enough apart leave room for twelve levels. -/
theorem arrowsRun_of_apart (hd : d.Spanned) (hresolved : d.Resolved) (hbarred : Barred .default d p)
    (hlength : p.events.length = d.events.length)
    (hapart : ∀ i j, i < j → j < d.actors.length → (p.labelBox i).midX + 68 ≤ (p.labelBox j).midX) :
    ArrowsRun d p := by
  have hbarWidth : (Style.default : Style ℚ).activationWidth = 10 := rfl
  have hright : ∀ actor event, loopStart d p actor event = (p.labelBox actor).midX + 5 * d.level actor event := by
    intro actor event
    rw [loopStart_eq hd hbarred, hbarWidth]
    ring
  have hleft := leftSide_eq hd hbarred
  -- twelve levels reach 60 to the right, and the actor there begins no more than 5 before its lifeline
  have hroom : ∀ i j event, i < j → j < d.actors.length → d.level i event ≤ 12 →
      (p.labelBox i).midX + 5 * d.level i event < (p.labelBox j).midX + nearEdge .default (d.level j event) := by
    intro i j event hij hj hlevel
    have hcast : (d.level i event : ℚ) ≤ 12 := by exact_mod_cast hlevel
    have hnear := neg_le_nearEdge Style.default_nonNegative (d.level j event)
    have hgap := hapart i j hij hj
    rw [hbarWidth] at hnear
    linarith
  refine ⟨hapart, fun k e he shape hshape => mem_scene hlength he hshape, ?rightward, ?leftward⟩
  case rightward =>
    intro k line arrow source destination text activation he hlt
    have hdestination := hresolved _ (List.mem_of_getElem? he) destination
      (by simp [Action.referenced, Action.destination?])
    have hgap := hapart source destination hlt hdestination
    have hmid : (p.labelBox source).midX ≤ (p.labelBox destination).midX := by linarith
    obtain ⟨spot, hshapes⟩ := messageShapes_rightward .default d k (p.eventBox k) arrow.style text hmid
    refine ⟨_, _, spot, ?_, hright source k, hleft destination k, fun hlevel => ?_⟩
    · show (if source = destination then _ else _) = _
      rw [if_neg (Nat.ne_of_lt hlt)]
      exact hshapes
    · rw [hright, hleft]
      exact hroom source destination k hlt hdestination hlevel
  case leftward =>
    intro k line arrow source destination text activation he hlt
    have hsource := hresolved _ (List.mem_of_getElem? he) source (by simp [Action.referenced, Action.source?])
    have hgap := hapart destination source hlt hsource
    have hmid : (p.labelBox destination).midX < (p.labelBox source).midX := by linarith
    obtain ⟨spot, hshapes⟩ := messageShapes_leftward .default d k (p.eventBox k) arrow.style text hmid
    refine ⟨_, _, spot, ?_, hleft source k, hright destination k, fun hlevel => ?_⟩
    · show (if source = destination then _ else _) = _
      rw [if_neg (Nat.ne_of_gt hlt)]
      exact hshapes
    · rw [hright, hleft]
      exact hroom destination source k hlt hsource hlevel

/-- In every document drawn with one of the metrics at hand, the line of a message runs the way
    its arrowhead points where the actor on the left is no more than twelve levels deep. -/
theorem arrowsRun_of_read {text : String} {d : Diagram} {m : TextMetrics ℚ} (h : Diagram.read text = .ok d)
    (hmetrics : m = .fixed 8 16 ∨ m = .estimated) : ArrowsRun d (d.place .default m) := by
  have hs := Style.default_nonNegative
  have hnames := Diagram.isName_of_read h
  have hm : m.NonNegative .default := by
    rcases hmetrics with rfl | rfl
    · exact TextMetrics.fixed_nonNegative (by decide) (by decide) _
    · exact TextMetrics.estimated_nonNegative (by decide) (by decide)
  have hwide : ∀ a ∈ d.actors, 8 ≤ (m.measure a.name (Style.default : Style ℚ).actorFontSize).width := by
    intro a ha
    rcases hmetrics with rfl | rfl
    · exact TextMetrics.le_fixed_width (hnames a ha) _
    · exact TextMetrics.le_estimated_width (hnames a ha)
  obtain ⟨ss, -, hbuild⟩ := Diagram.read_eq_ok_iff.mp h
  have hd := Diagram.spanned_of_build hbuild
  have hbarred := barred_place hs hm hd (Diagram.indexed_of_build hbuild)
  refine arrowsRun_of_apart hd (Diagram.resolved_of_build hbuild) hbarred (stacked_place hs hm d).length
    fun i j hij hj => ?_
  have hgap := lifelines_apart hs hm hwide hij hj
  have htext : (Style.default : Style ℚ).textPaddingX = 15 := rfl
  have hmargin : (Style.default : Style ℚ).minPaddingX = 30 := rfl
  rw [htext, hmargin] at hgap
  linarith

/-- Messages in both directions, the actor on the left two levels deep and the other one. -/
theorem arrowsRun_nested :
    ∃ text, text = "a->+b: x\nb->+a: y\nb->+a: z\na-->b: w" ∧
    ∃ d, Diagram.read text = .ok d ∧ d.level 0 3 = 2 ∧ d.level 1 3 = 1 ∧
      (d.place .default (.fixed (8 : ℚ) 16)).labels.map Box.midX = [49, 117] ∧
      messageEnds d (d.place .default (.fixed (8 : ℚ) 16)) 2 1 0 = (112, 59) ∧
      messageEnds d (d.place .default (.fixed (8 : ℚ) 16)) 3 0 1 = (59, 112) ∧
      ArrowsRun d (d.place .default (.fixed 8 16)) := by
  have hdocument : Document.read "a->+b: x\nb->+a: y\nb->+a: z\na-->b: w" =
      .ok [⟨1, .message "a" ⟨.solid, some .start⟩ "b" "x"⟩, ⟨2, .message "b" ⟨.solid, some .start⟩ "a" "y"⟩,
        ⟨3, .message "b" ⟨.solid, some .start⟩ "a" "z"⟩, ⟨4, .message "a" ⟨.dashed, none⟩ "b" "w"⟩] := by
    decide +kernel
  refine ⟨_, rfl, ?nested, ?read, ?left, ?right, ?lifelines, ?leftward, ?rightward, arrowsRun_of_read ?read (.inl rfl)⟩
  case read =>
    rw [Diagram.read, hdocument]
    exact rfl
  case left => decide +kernel
  case right => decide +kernel
  case lifelines => decide +kernel
  case leftward => decide +kernel
  case rightward => decide +kernel

/-- Fourteen activations inside one another on the left. The message to the left that starts the
    last runs to the right, from its lifeline to an arrowhead beyond it with the base further on, and
    the message back runs to the left, its arrowhead pointing right. -/
theorem deep_bar_turns_line :
    ∃ d p, Diagram.read ("\n".intercalate ("a->b: x" :: List.replicate 14 "b->+a: x" ++ ["a->b: x"])) = .ok d ∧
      p = d.place .default (.fixed (8 : ℚ) 16) ∧ d.level 0 14 = 14 ∧
      (p.labelBox 0).midX = 49 ∧ (p.labelBox 1).midX = 117 ∧
      (d.events.drop 14).map (·.action) =
        [.message ⟨.solid, some .start⟩ 1 0 "x" (some 13), .message ⟨.solid, none⟩ 0 1 "x" none] ∧
      (∃ spot, eventShapes .default d p 14 ⟨15, .message ⟨.solid, some .start⟩ 1 0 "x" (some 13)⟩ (p.eventBox 14) =
        lineShapes .default .solid "x" 117 119 139 778 spot) ∧
      ∃ spot, eventShapes .default d p 15 ⟨16, .message ⟨.solid, none⟩ 0 1 "x" none⟩ (p.eventBox 15) =
        lineShapes .default .solid "x" 119 117 97 829 spot := by
  have hdocument : Document.read ("\n".intercalate ("a->b: x" :: List.replicate 14 "b->+a: x" ++ ["a->b: x"])) =
      .ok ([⟨1, .message "a" ⟨.solid, none⟩ "b" "x"⟩] ++
        ((List.range 14).map fun i => ⟨i + 2, .message "b" ⟨.solid, some .start⟩ "a" "x"⟩) ++
        [⟨16, .message "a" ⟨.solid, none⟩ "b" "x"⟩]) := by decide +kernel
  refine ⟨?deep, _, ?read, rfl, ?level, ?sender, ?receiver, ?messages, ⟨⟨118, 1535 / 2⟩, ?leftward⟩,
    ⟨⟨118, 1637 / 2⟩, ?rightward⟩⟩
  case read =>
    rw [Diagram.read, hdocument]
    exact rfl
  case level => decide +kernel
  case sender => decide +kernel
  case receiver => decide +kernel
  case messages => decide +kernel
  case leftward => decide +kernel
  case rightward => decide +kernel

end Drawing

end SequenceDiagram
