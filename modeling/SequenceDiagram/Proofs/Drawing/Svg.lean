/-
  SequenceDiagram.Proofs.Drawing.Svg — a drawing read back from its SVG document.

  Colours, the font family and every text come from the caller, and any string will do.
  Each shape but a polygon without points is one element. Its name and the names of its
  attributes follow from the kind of the shape and its options (`Shape.tagName`,
  `Shape.attributeNames`); the caller's strings are attribute values (`Shape.passed`) or
  the text between two tags (`Shape.text?`). The document, read character by character,
  is the frame, the background and these elements in drawing order, each with the very
  strings the caller passed (`svg_read`): no string ends its place in the document or
  begins a new one.
-/

import SequenceDiagram.Drawing.Svg
import SequenceDiagram.Proofs.Markup.Lexer

namespace SequenceDiagram

variable {α : Type}

/-! ## What a shape leaves in the document -/

namespace Shape

/-- A polygon without points leaves nothing. -/
def isDrawn : Shape α → Bool
  | .polygon [] _ _ => false
  | _ => true

def tagName : Shape α → String
  | .line .. => "line"
  | .box .. => "rect"
  | .polygon .. | .arc .. => "path"
  | .text .. => "text"

def strokeNames (s : Stroke α) : List String :=
  ["stroke", "stroke-width"] ++ if s.dash.isSome then ["stroke-dasharray"] else []

/-- The names of its attributes. No string of the shape has a part in them. -/
def attributeNames : Shape α → List String
  | .line _ _ stroke => ["x1", "y1", "x2", "y2"] ++ strokeNames stroke
  | .box _ stroke _ => ["x", "y", "width", "height", "fill"] ++ strokeNames stroke
  | .polygon _ none _ => ["d", "fill", "stroke"]
  | .polygon _ (some stroke) _ => ["d", "fill"] ++ strokeNames stroke
  | .arc _ _ _ _ stroke => ["d", "fill"] ++ strokeNames stroke
  | .text _ _ style =>
    ["x", "y", "font-family", "font-size", "fill", "text-anchor", "dominant-baseline"] ++
      if style.bold then ["font-weight"] else []

/-- The caller's strings among the attribute values, `none` standing for a colour not given. -/
def passed (fontFamily : String) : Shape α → List Markup.Attribute
  | .line _ _ stroke | .arc _ _ _ _ stroke => [("stroke", stroke.color)]
  | .box _ stroke fill => [("fill", fill.getD "none"), ("stroke", stroke.color)]
  | .polygon _ stroke fill => [("fill", fill.getD "none"), ("stroke", (stroke.map (·.color)).getD "none")]
  | .text _ _ style => [("font-family", fontFamily), ("fill", style.color)]

end Shape

namespace Drawing

open Markup (Attribute Element Token isName)

/-- An element that draws a shape. -/
structure Draws (fontFamily : String) (s : Shape α) (e : Element) : Prop where
  tag : e.name = s.tagName
  names : e.attributes.map Prod.fst = s.attributeNames
  /-- No name stands twice, so that each of the strings below is the value of its name. -/
  distinct : (e.attributes.map Prod.fst).Nodup
  strings : ∀ a ∈ s.passed fontFamily, a ∈ e.attributes
  text : e.text = s.text?

/-! ## One shape, one element -/

/-- All lists of attribute names a shape can have. -/
def nameLists : List (List String) :=
  [["x1", "y1", "x2", "y2"], ["x", "y", "width", "height", "fill"], ["d", "fill"]].flatMap
      (fun names => [names ++ ["stroke", "stroke-width"], names ++ ["stroke", "stroke-width", "stroke-dasharray"]]) ++
    [["d", "fill", "stroke"],
     ["x", "y", "font-family", "font-size", "fill", "text-anchor", "dominant-baseline"],
     ["x", "y", "font-family", "font-size", "fill", "text-anchor", "dominant-baseline", "font-weight"]]

theorem attributeNames_mem_nameLists (s : Shape α) : s.attributeNames ∈ nameLists := by
  have hstroke : ∀ stroke : Stroke α, Shape.strokeNames stroke = ["stroke", "stroke-width"] ∨
      Shape.strokeNames stroke = ["stroke", "stroke-width", "stroke-dasharray"] := by
    intro stroke
    by_cases h : stroke.dash.isSome <;> simp [Shape.strokeNames, h]
  cases s with
  | line _ _ stroke => obtain h | h := hstroke stroke <;> rw [Shape.attributeNames, h] <;> decide
  | box _ stroke _ => obtain h | h := hstroke stroke <;> rw [Shape.attributeNames, h] <;> decide
  | arc _ _ _ _ stroke => obtain h | h := hstroke stroke <;> rw [Shape.attributeNames, h] <;> decide
  | polygon _ stroke _ =>
    cases stroke with
    | none =>
      rw [Shape.attributeNames]
      decide
    | some stroke => obtain h | h := hstroke stroke <;> rw [Shape.attributeNames, h] <;> decide
  | text _ _ style =>
    by_cases h : style.bold
    · rw [Shape.attributeNames, if_pos h]
      decide
    · rw [Shape.attributeNames, if_neg h]
      decide

theorem attributeNames_nodup (s : Shape α) : s.attributeNames.Nodup := by
  have hall : ∀ names ∈ nameLists, names.Nodup := by decide
  exact hall _ (attributeNames_mem_nameLists s)

theorem isName_of_mem_attributeNames {s : Shape α} {name : String} (h : name ∈ s.attributeNames) : isName name := by
  have hall : ∀ names ∈ nameLists, ∀ name ∈ names, isName name := by decide
  exact hall _ (attributeNames_mem_nameLists s) name h

theorem isName_tagName (s : Shape α) : isName s.tagName := by
  have hall : ∀ name ∈ ["line", "rect", "path", "text"], isName name := by decide
  apply hall
  cases s <;> simp [Shape.tagName]

theorem Draws.named {fontFamily : String} {s : Shape α} {e : Element} (h : Draws fontFamily s e) : e.Named where
  name := by
    rw [h.tag]
    exact isName_tagName s
  attributes := by
    intro a ha
    have hname : a.1 ∈ e.attributes.map Prod.fst := List.mem_map_of_mem ha
    rw [h.names] at hname
    exact isName_of_mem_attributeNames hname

variable [Numeral α] {fontFamily : String} {s : Shape α}

theorem strokeAttributes_names (stroke : Stroke α) :
    (strokeAttributes stroke).map Prod.fst = Shape.strokeNames stroke := by
  obtain ⟨color, width, dash⟩ := stroke
  cases dash <;> rfl

theorem stroke_mem_strokeAttributes (stroke : Stroke α) : ("stroke", stroke.color) ∈ strokeAttributes stroke :=
  List.mem_append_left _ (List.mem_cons_self ..)

/-- Every shape but a polygon without points is drawn by its element. -/
theorem exists_draws (fontFamily : String) (h : s.isDrawn) : ∃ e, element? fontFamily s = some e ∧ Draws fontFamily s e := by
  -- once the names are those of the table, none of them stands twice
  have hdraws : ∀ e : Element, e.name = s.tagName → e.attributes.map Prod.fst = s.attributeNames →
      (∀ a ∈ s.passed fontFamily, a ∈ e.attributes) → e.text = s.text? → Draws fontFamily s e := by
    intro e htag hnames hstrings htext
    refine ⟨htag, hnames, ?_, hstrings, htext⟩
    rw [hnames]
    exact attributeNames_nodup s
  cases s with
  | line first last stroke =>
    refine ⟨_, rfl, hdraws _ rfl ?_ ?_ rfl⟩
    · rw [List.map_append, strokeAttributes_names]
      rfl
    · simp [Shape.passed, stroke_mem_strokeAttributes]
  | box b stroke fill =>
    refine ⟨_, rfl, hdraws _ rfl ?_ ?_ rfl⟩
    · rw [List.map_append, strokeAttributes_names]
      rfl
    · simp [Shape.passed, stroke_mem_strokeAttributes, fillAttribute]
  | polygon points stroke fill =>
    cases points with
    | nil => exact absurd h (by simp [Shape.isDrawn])
    | cons first rest =>
      refine ⟨_, rfl, hdraws _ rfl ?_ ?_ rfl⟩
      · cases stroke with
        | none => rfl
        | some stroke =>
          rw [List.map_append, strokeAttributes_names]
          rfl
      · cases stroke <;> simp [Shape.passed, stroke_mem_strokeAttributes, fillAttribute]
  | arc center radius startDegrees endDegrees stroke =>
    refine ⟨_, rfl, hdraws _ rfl ?_ ?_ rfl⟩
    · rw [List.map_append, strokeAttributes_names]
      rfl
    · simp [Shape.passed, stroke_mem_strokeAttributes]
  | text content spot style =>
    refine ⟨_, rfl, hdraws _ rfl ?_ ?_ rfl⟩
    · rw [List.map_append]
      by_cases hbold : style.bold <;> simp [Shape.attributeNames, hbold, number]
    · simp [Shape.passed]

theorem element?_eq_none (h : ¬ s.isDrawn) : element? fontFamily s = none := by
  cases s with
  | polygon points stroke fill =>
    cases points with
    | nil => rfl
    | cons first rest => exact absurd rfl h
  | _ => exact absurd rfl h

/-! ## All shapes -/

/-- The elements of a drawing are those of its drawn shapes, in drawing order. -/
theorem draws_elements (fontFamily : String) (shapes : List (Shape α)) :
    List.Forall₂ (Draws fontFamily) (shapes.filter (·.isDrawn)) (shapes.filterMap (element? fontFamily)) := by
  induction shapes with
  | nil => exact .nil
  | cons s shapes ih =>
    by_cases h : s.isDrawn
    · obtain ⟨e, he, hdraws⟩ := exists_draws fontFamily h
      rw [List.filter_cons_of_pos h, List.filterMap_cons_some he]
      exact .cons hdraws ih
    · rw [List.filter_cons_of_neg h, List.filterMap_cons_none (element?_eq_none h)]
      exact ih

theorem document_named (size : Size α) (color fontFamily : String) (shapes : List (Shape α)) :
    (document size color fontFamily shapes).Named where
  name := by
    show isName "svg" = true
    decide
  attributes := by
    have hall : ∀ name ∈ ["xmlns", "viewBox", "width", "height"], isName name := by decide
    intro a ha
    exact hall a.1 (List.mem_map_of_mem (f := Prod.fst) ha)
  elements := by
    intro e he
    obtain rfl | he := List.mem_cons.mp he
    · have hall : ∀ name ∈ ["x", "y", "width", "height", "fill"], isName name := by decide
      exact ⟨by show isName "rect" = true; decide, fun a ha => hall a.1 (List.mem_map_of_mem (f := Prod.fst) ha)⟩
    · obtain ⟨s, _, hs⟩ := List.mem_filterMap.mp he
      by_cases h : s.isDrawn
      · obtain ⟨e', he', hdraws⟩ := exists_draws fontFamily h
        rw [hs] at he'
        rw [Option.some.inj he']
        exact hdraws.named
      · rw [element?_eq_none h] at hs
        exact absurd hs (by simp)

/-- A drawing's document is read as its frame, the background, and an element for each
    drawn shape in drawing order, with the caller's strings in their places. -/
theorem svg_read (size : Size α) (color fontFamily : String) (shapes : List (Shape α)) :
    ∃ (frame : List Attribute) (back : Element) (drawn : List Element),
      Markup.read? (svg size color fontFamily shapes) =
        some (⟨.opening "svg" frame, "\n"⟩ :: (back :: drawn).flatMap Element.tokens ++ [⟨.closing "svg", "\n"⟩]) ∧
      frame.map Prod.fst = ["xmlns", "viewBox", "width", "height"] ∧
      back.name = "rect" ∧ back.attributes.map Prod.fst = ["x", "y", "width", "height", "fill"] ∧
      ("fill", color) ∈ back.attributes ∧ back.text = none ∧
      List.Forall₂ (Draws fontFamily) (shapes.filter (·.isDrawn)) drawn := by
  have hread := Markup.read?_write (document_named size color fontFamily shapes)
  refine ⟨_, background size color, _, hread, rfl, rfl, rfl, ?_, rfl, draws_elements fontFamily shapes⟩
  simp [background]

end Drawing

end SequenceDiagram
