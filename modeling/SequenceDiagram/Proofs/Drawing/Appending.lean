/-
  SequenceDiagram.Proofs.Drawing.Appending — the SVG document as a canvas appends it.

  Here a canvas is the document written so far, and a drawing appends a line of markup
  for each shape. Colours, the font family and texts are escaped where they are put in,
  the font family once for all lines. Numbers, and the paths and dashes made of numbers,
  are put in as they are.

  They need no escaping. The text of a binary64 has digits, points, signs and the letters
  of `inf` and `NaN` in it and nothing else, so it is its own escape (`escape_numeral`),
  and so is a path made of such texts (`plain_closedPath`, `plain_arcPath`). The line of
  a shape is therefore the line of its element (`line?_eq`), and the finished canvas is
  the document whose writer escapes every value it is given (`finish_foldl_draw`).
-/

import SequenceDiagram.Proofs.Drawing.Svg

namespace SequenceDiagram.Drawing

open Markup (Attribute Element Document escape isSpecial writeAttribute writeAttributes)
open Numeral (text)

/-! ## The canvas -/

/-- The document written so far, and the font family as it stands in a line of text. -/
structure Canvas where
  svg : String
  fontFamily : String

namespace Canvas

variable {α : Type} [Numeral α]

def start (size : Size α) (background fontFamily : String) : Canvas where
  svg :=
    "<svg xmlns=\"http://www.w3.org/2000/svg\" viewBox=\"0 0 " ++ text size.width ++ " " ++ text size.height ++
        "\" width=\"" ++ text size.width ++ "\" height=\"" ++ text size.height ++ "\">\n" ++
      "<rect x=\"0\" y=\"0\" width=\"" ++ text size.width ++ "\" height=\"" ++ text size.height ++
        "\" fill=\"" ++ escape background ++ "\"/>\n"
  fontFamily := escape fontFamily

def stroke (s : Stroke α) : String :=
  "stroke=\"" ++ escape s.color ++ "\" stroke-width=\"" ++ text s.width ++ "\"" ++
    match s.dash with
    | none => ""
    | some (dash, gap) => " stroke-dasharray=\"" ++ text dash ++ "," ++ text gap ++ "\""

/-- The line of a shape. A polygon without points has none. -/
def line? (fontFamily : String) : Shape α → Option String
  | .line first last s => some <|
    "<line x1=\"" ++ text first.x ++ "\" y1=\"" ++ text first.y ++ "\" x2=\"" ++ text last.x ++
      "\" y2=\"" ++ text last.y ++ "\" " ++ stroke s ++ "/>\n"
  | .box b s fill => some <|
    "<rect x=\"" ++ text b.left ++ "\" y=\"" ++ text b.top ++ "\" width=\"" ++ text b.width ++
      "\" height=\"" ++ text b.height ++ "\" fill=\"" ++ escape (fill.getD "none") ++ "\" " ++ stroke s ++ "/>\n"
  | .polygon [] _ _ => none
  | .polygon (first :: rest) s fill => some <|
    "<path d=\"" ++ closedPath first rest ++ "\" fill=\"" ++ escape (fill.getD "none") ++ "\" " ++
      (s.map stroke).getD "stroke=\"none\"" ++ "/>\n"
  | .arc center radius startDegrees endDegrees s => some <|
    "<path d=\"" ++ arcPath center radius startDegrees endDegrees ++ "\" fill=\"none\" " ++ stroke s ++ "/>\n"
  | .text content spot style => some <|
    "<text x=\"" ++ text spot.x ++ "\" y=\"" ++ text spot.y ++ "\" font-family=\"" ++ fontFamily ++
      "\" font-size=\"" ++ text style.fontSize ++ "\" fill=\"" ++ escape style.color ++
      "\" text-anchor=\"" ++ anchorKeyword style.anchor ++ "\" dominant-baseline=\"central\"" ++
      (if style.bold then " font-weight=\"bold\"" else "") ++ ">" ++ escape content ++ "</text>\n"

def draw (c : Canvas) (s : Shape α) : Canvas :=
  match line? c.fontFamily s with
  | none => c
  | some line => { c with svg := c.svg ++ line }

def finish (c : Canvas) : String := c.svg ++ "</svg>\n"

end Canvas

/-! ## Texts without special characters -/

/-- A text that reads the same escaped or not. -/
def Plain (s : String) : Prop := ∀ c ∈ s.toList, isSpecial c = false

instance (s : String) : Decidable (Plain s) := List.decidableBAll _ _

namespace Plain

variable {s t : String}

theorem escape_eq (h : Plain s) : escape s = s := Markup.escape_eq_self h

theorem append_iff : Plain (s ++ t) ↔ Plain s ∧ Plain t := by
  simp only [Plain, String.toList_append, List.forall_mem_append]

theorem join_iff {l : List String} : Plain (String.join l) ↔ ∀ s ∈ l, Plain s := by
  induction l with
  | nil => simp [Plain]
  | cons s l ih => rw [String.join_cons, append_iff, ih, List.forall_mem_cons]

end Plain

/-! ## Numbers -/

section Numbers

open Numeric

variable {c : Char}

theorem plain_of_isDigit (h : c.isDigit) : isSpecial c = false := by
  by_contra hc
  rw [Bool.not_eq_false, isSpecial] at hc
  simp only [Bool.or_eq_true, decide_eq_true_eq] at hc
  obtain (((rfl | rfl) | rfl) | rfl) | rfl := hc <;> exact absurd h (by decide)

theorem plain_of_mem_digits {n : Nat} (h : c ∈ digits n) : isSpecial c = false :=
  plain_of_isDigit (Nat.isDigit_of_mem_toDigits (by decide) (by decide) h)

theorem plain_of_mem_zeros {n : Nat} (h : c ∈ List.replicate n '0') : isSpecial c = false := by
  rw [List.eq_of_mem_replicate h]
  decide

theorem plain_of_mem_positional {d : Decimal} (h : c ∈ positional d) : isSpecial c = false := by
  rw [positional] at h
  split at h
  · obtain h | h := List.mem_append.mp h
    · exact plain_of_mem_digits h
    · exact plain_of_mem_zeros h
  · have hpadded : ∀ n, c ∈ List.replicate n '0' ++ digits d.coefficient → isSpecial c = false := by
      intro n h
      obtain h | h := List.mem_append.mp h
      · exact plain_of_mem_zeros h
      · exact plain_of_mem_digits h
    obtain h | h := List.mem_append.mp h
    · exact hpadded _ (List.mem_of_mem_take h)
    · obtain rfl | h := List.mem_cons.mp h
      · decide
      · exact hpadded _ (List.mem_of_mem_drop h)

theorem plain_of_mem_binary64Text {bits : Nat} (h : c ∈ binary64Text bits) : isSpecial c = false := by
  have hwords : ∀ c ∈ ['-', '0'] ++ "inf".toList ++ "NaN".toList, isSpecial c = false := by
    have hall : (['-', '0'] ++ "inf".toList ++ "NaN".toList).all (!isSpecial ·) := by decide
    intro c hc
    simpa using List.all_eq_true.mp hall c hc
  have hsign : ∀ (b : Prop) [Decidable b], c ∈ (if b then ['-'] else []) → isSpecial c = false := by
    intro b _ h
    split at h
    · exact hwords c (by simpa using Or.inl (List.mem_singleton.mp h))
    · exact absurd h (List.not_mem_nil)
  simp only [binary64Text] at h
  split at h
  · split at h
    · obtain h | h := List.mem_append.mp h
      · exact hsign _ h
      · exact hwords c (List.mem_append_left _ (List.mem_append_right _ h))
    · exact hwords c (List.mem_append_right _ h)
  · split at h
    · obtain h | h := List.mem_append.mp h
      · exact hsign _ h
      · split at h
        · rw [List.mem_singleton.mp h]
          decide
        · exact plain_of_mem_positional h
    · obtain h | h := List.mem_append.mp h
      · exact hsign _ h
      · exact plain_of_mem_positional h

theorem plain_numeral (a : Float) : Plain (text a) := by
  intro c hc
  rw [show (text a).toList = binary64Text a.toBits.toNat from String.toList_ofList] at hc
  exact plain_of_mem_binary64Text hc

/-- The text of a binary64 is written as it is. -/
@[simp] theorem escape_numeral (a : Float) : escape (text a) = text a := (plain_numeral a).escape_eq

end Numbers

/-! ## Paths -/

theorem plain_pointText (p : Point Float) : Plain (pointText p) := by
  rw [pointText, Plain.append_iff, Plain.append_iff]
  exact ⟨⟨plain_numeral p.x, by decide⟩, plain_numeral p.y⟩

theorem plain_closedPath (first : Point Float) (rest : List (Point Float)) : Plain (closedPath first rest) := by
  have hrest : Plain (String.join (rest.map fun p => " L " ++ pointText p)) := by
    rw [Plain.join_iff]
    intro s hs
    obtain ⟨p, _, rfl⟩ := List.mem_map.mp hs
    exact Plain.append_iff.mpr ⟨by decide, plain_pointText p⟩
  unfold closedPath
  simp only [Plain.append_iff]
  exact ⟨⟨⟨by decide, plain_pointText first⟩, hrest⟩, by decide⟩

theorem plain_arcPath (center : Point Float) (radius startDegrees endDegrees : Float) :
    Plain (arcPath center radius startDegrees endDegrees) := by
  have hflag : ∀ b, Plain (flag b) := by decide
  have hletters : Plain "M " ∧ Plain " A " ∧ Plain " 0 " ∧ Plain " " := by decide
  unfold arcPath
  simp only [Plain.append_iff, plain_pointText, plain_numeral, hflag, hletters, and_self]

theorem plain_anchorKeyword (anchor : TextAnchor) : Plain (anchorKeyword anchor) := by
  cases anchor <;> decide

/-! ## One shape, one line -/

@[simp] theorem writeAttributes_nil : writeAttributes [] = "" := rfl

@[simp] theorem writeAttributes_cons (a : Attribute) (as : List Attribute) :
    writeAttributes (a :: as) = writeAttribute a ++ writeAttributes as := String.join_cons

/-- The attributes of a stroke are what the canvas makes of it. -/
@[simp] theorem writeAttributes_stroke (s : Stroke Float) :
    writeAttributes (strokeAttributes s) = " " ++ Canvas.stroke s := by
  obtain ⟨color, width, dash⟩ := s
  cases dash with
  | none =>
    unfold Canvas.stroke
    simp [strokeAttributes, number, writeAttribute, ← String.toList_inj]
  | some dash =>
    obtain ⟨dash, gap⟩ := dash
    have hdashes : Plain (text dash ++ "," ++ text gap) := by
      simp only [Plain.append_iff]
      exact ⟨⟨plain_numeral dash, by decide⟩, plain_numeral gap⟩
    unfold Canvas.stroke
    simp [strokeAttributes, number, writeAttribute, hdashes.escape_eq, ← String.toList_inj]

/-- The line of a shape is that of its element. -/
theorem line?_eq (fontFamily : String) (s : Shape Float) :
    Canvas.line? (escape fontFamily) s = (element? fontFamily s).map (·.write ++ "\n") := by
  have hnone : escape "none" = "none" := by decide
  cases s with
  | line first last stroke =>
    simp [Canvas.line?, element?, Element.write, number, writeAttribute, ← String.toList_inj]
  | box b stroke fill =>
    simp [Canvas.line?, element?, Element.write, number, writeAttribute, fillAttribute, ← String.toList_inj]
  | polygon points stroke fill =>
    cases points with
    | nil => rfl
    | cons first rest =>
      have hpath := (plain_closedPath first rest).escape_eq
      cases stroke <;>
        simp [Canvas.line?, element?, Element.write, writeAttribute, fillAttribute, hpath, hnone, ← String.toList_inj]
  | arc center radius startDegrees endDegrees stroke =>
    have hpath := (plain_arcPath center radius startDegrees endDegrees).escape_eq
    simp [Canvas.line?, element?, Element.write, writeAttribute, hpath, hnone, ← String.toList_inj]
  | text content spot style =>
    have hkeywords : escape "central" = "central" ∧ escape "bold" = "bold" := by decide
    have hanchor := (plain_anchorKeyword style.anchor).escape_eq
    by_cases hbold : style.bold <;>
      simp [Canvas.line?, element?, Element.write, number, writeAttribute, hanchor, hkeywords, hbold,
        ← String.toList_inj]

/-! ## The whole document -/

theorem svg_start (size : Size Float) (color fontFamily : String) :
    (Canvas.start size color fontFamily).svg =
      "<svg" ++ writeAttributes (document size color fontFamily []).attributes ++ ">\n" ++
        ((background size color).write ++ "\n") := by
  have hfixed : escape "http://www.w3.org/2000/svg" = "http://www.w3.org/2000/svg" ∧ escape "0" = "0" := by decide
  have hbox : Plain ("0 0 " ++ text size.width ++ " " ++ text size.height) := by
    simp only [Plain.append_iff]
    exact ⟨⟨⟨by decide, plain_numeral size.width⟩, by decide⟩, plain_numeral size.height⟩
  unfold Canvas.start
  simp [document, background, Element.write, number, writeAttribute, hfixed, hbox.escape_eq, ← String.toList_inj]

section Drawn

variable {α : Type} [Numeral α]

theorem draw_fontFamily (c : Canvas) (s : Shape α) : (c.draw s).fontFamily = c.fontFamily := by
  rw [Canvas.draw]
  split <;> rfl

theorem svg_draw (c : Canvas) (s : Shape α) :
    (c.draw s).svg = c.svg ++ String.join (Canvas.line? c.fontFamily s).toList := by
  rw [Canvas.draw]
  cases Canvas.line? c.fontFamily s <;> simp

/-- Drawing keeps what is written and appends the lines of the shapes in drawing order. -/
theorem svg_foldl_draw (c : Canvas) (shapes : List (Shape α)) :
    (shapes.foldl Canvas.draw c).svg = c.svg ++ String.join (shapes.filterMap (Canvas.line? c.fontFamily)) := by
  induction shapes generalizing c with
  | nil => simp
  | cons s shapes ih =>
    rw [List.foldl_cons, ih, draw_fontFamily, svg_draw, String.append_assoc, ← String.join_append]
    cases h : Canvas.line? c.fontFamily s <;> simp [h]

end Drawn

/-- A drawing appended line by line, with no more escaped than colours, the font family and
    texts, is the document whose writer escapes every value. -/
theorem finish_foldl_draw (size : Size Float) (color fontFamily : String) (shapes : List (Shape Float)) :
    (shapes.foldl Canvas.draw (Canvas.start size color fontFamily)).finish = svg size color fontFamily shapes := by
  have hlines : shapes.filterMap (Canvas.line? (escape fontFamily)) =
      (shapes.filterMap (element? fontFamily)).map (·.write ++ "\n") := by
    rw [List.map_filterMap]
    exact List.filterMap_congr fun s _ => line?_eq fontFamily s
  calc (shapes.foldl Canvas.draw (Canvas.start size color fontFamily)).finish
      = (Canvas.start size color fontFamily).svg ++
          String.join (shapes.filterMap (Canvas.line? (escape fontFamily))) ++ "</svg>\n" := by
        rw [Canvas.finish, svg_foldl_draw]
        rfl
    _ = svg size color fontFamily shapes := by
        rw [hlines, svg_start]
        simp [svg, Document.write, document, Function.comp_def, ← String.toList_inj]

end SequenceDiagram.Drawing
