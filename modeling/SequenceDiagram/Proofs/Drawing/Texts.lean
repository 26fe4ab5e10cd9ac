/-
  SequenceDiagram.Proofs.Drawing.Texts — every text of a document drawn once, in order.

  The texts of a scene are the texts of its actors, events and frames, one kind after the
  other: bars and lines have none. Each actor's name stands at both ends of its lifeline;
  a message and a note draw their text and a block marker draws nothing; a frame draws its
  keyword and the lines its label was wrapped into (`texts_scene`).

  For the drawing of a document this says which texts, in terms of its statements: the
  names by first mention, each twice; the texts of messages and notes; and for every
  `end` the keyword and the wrapped words of the block it closes (`EndsBlock`). The same
  texts stand in the text elements of the SVG document, read back with their entities
  replaced (`textContents_svg`).
-/

import SequenceDiagram.Proofs.Diagram.Endings
import SequenceDiagram.Proofs.Diagram.Names
import SequenceDiagram.Proofs.Drawing.Svg
import SequenceDiagram.Proofs.Layout.Fitting
import SequenceDiagram.Proofs.Metrics.Words
import SequenceDiagram.Typesetter

namespace SequenceDiagram

/-- What a message or a note says. -/
def Statement.said? : Statement → Option String
  | .message _ _ _ text | .note _ _ text => some text
  | _ => none

def Action.said? : Action → Option String
  | .message _ _ _ text _ | .note _ _ text => some text
  | _ => none

theorem Tells.said? {names : List String} {s : Numbered} {e : Event} (h : Tells names s e) :
    e.action.said? = s.statement.said? := by
  cases h <;> rfl

/-- The contents of the text elements of a document, read back. -/
def Markup.textContents (tokens : List Token) : List String :=
  tokens.filterMap fun t =>
    match t.tag with
    | .opening "text" _ => some t.content
    | _ => none

variable {α : Type}

namespace Layout

variable [Scalar α]

/-! ## Label lines -/

theorem labelLines_frameBlocks (style : Style α) (m : TextMetrics α) (d : Diagram) (p : Placement α) :
    (frameBlocks style m d p).frames.map (·.labelLines) =
      d.blocks.map fun b => m.wrap b.text style.messageFontSize style.groupMaxWidth := by
  refine List.ext_getElem? fun k => ?_
  show (((d.blocks.foldl (fun before b => before ++ [(b, frame style m d p before b)]) []).map (·.2)).map
    (·.labelLines))[k]? = _
  rw [List.map_map, List.getElem?_map, foldl_snoc_getElem? (fun before b => (b, frame style m d p before b)),
    List.getElem?_map, Option.map_map]
  rfl

theorem labelLines_sizeCanvas (style : Style α) (p : Placement α) :
    (sizeCanvas style p).frames.map (·.labelLines) = p.frames.map (·.labelLines) := by
  have hclear : (clearLeft style p).frames.map (·.labelLines) = p.frames.map (·.labelLines) := by
    unfold clearLeft
    split
    · split
      · rw [shiftRight, List.map_map]
        rfl
      · rfl
    · rfl
  exact hclear

/-- However frames are placed, their label lines are the wrapped texts of the blocks. -/
theorem labelLines_place (style : Style α) (m : TextMetrics α) (d : Diagram) :
    (d.place style m).frames.map (·.labelLines) =
      d.blocks.map fun b => m.wrap b.text style.messageFontSize style.groupMaxWidth :=
  (labelLines_sizeCanvas style _).trans (labelLines_frameBlocks style m d _)

end Layout

namespace Drawing

/-! ## Texts of a scene -/

def texts (shapes : List (Shape α)) : List String := shapes.filterMap Shape.text?

theorem texts_append (s t : List (Shape α)) : texts (s ++ t) = texts s ++ texts t := List.filterMap_append

/-- Shapes made of each pair of entries have the texts of each pair, in order. -/
theorem texts_zipWith {β γ : Type} (f : β → γ → List (Shape α)) (xs : List β) (ys : List γ) :
    texts (List.zipWith f xs ys).flatten = (List.zipWith (fun x y => texts (f x y)) xs ys).flatten := by
  rw [texts, List.filterMap_flatten, List.map_zipWith]
  rfl

theorem texts_mapIdx {β : Type} {f : Nat → β → List (Shape α)} {g : β → List String}
    (h : ∀ i x, texts (f i x) = g x) (xs : List β) : texts (xs.mapIdx f).flatten = xs.flatMap g := by
  induction xs generalizing f with
  | nil => rfl
  | cons x xs ih =>
    rw [List.mapIdx_cons, List.flatten_cons, texts_append, h 0 x, ih fun i y => h (i + 1) y]
    rfl

theorem zipWith_left {β γ δ : Type} (f : β → δ) {xs : List β} {ys : List γ} (h : xs.length = ys.length) :
    List.zipWith (fun x _ => f x) xs ys = xs.map f := by
  have hzip : ((xs.zip ys).map Prod.fst).map f = xs.map f := by rw [List.map_fst_zip (Nat.le_of_eq h)]
  rw [List.map_map] at hzip
  rw [← hzip, List.map_zip_eq_zipWith]
  rfl

section Scene

variable [Scalar α] {style : Style α} {d : Diagram} {p : Placement α}

theorem texts_actorShapes (actor : Actor) (b : Box α) :
    texts (actorShapes style p actor b) = [actor.name, actor.name] := rfl

theorem texts_bars (bars : List (Box α)) : texts (bars.map (barShape style)) = [] := by
  rw [texts, List.filterMap_map, List.filterMap_eq_nil_iff]
  intro b _
  rfl

theorem texts_eventShapes (event : Nat) (e : Event) (b : Box α) :
    texts (eventShapes style d p event e b) = e.action.said?.toList := by
  obtain ⟨line, action⟩ := e
  cases action with
  | message arrow source destination text activation =>
    show texts (if source = destination then _ else _) = [text]
    by_cases hself : source = destination
    · rw [if_pos hself]
      rfl
    · rw [if_neg hself]
      rfl
  | _ => rfl

theorem texts_frameShapes (block : Block) (f : Frame α) :
    texts (frameShapes style block f) = block.kind.keyword :: f.labelLines := by
  have hlabels : ∀ {g : Nat → String → Shape α} (lines : List String), (∀ i line, (g i line).text? = some line) →
      texts (lines.mapIdx g) = lines := by
    intro g lines hg
    induction lines generalizing g with
    | nil => rfl
    | cons line lines ih =>
      rw [List.mapIdx_cons, texts, List.filterMap_cons_some (hg 0 line)]
      exact congrArg (line :: ·) (ih fun i l => hg (i + 1) l)
  rw [frameShapes, texts_append, hlabels f.labelLines fun _ _ => rfl]
  rfl

theorem texts_scene (h : p.Fits d) : texts (scene style d p) =
    (d.names.flatMap fun name => [name, name]) ++ d.events.filterMap (·.action.said?) ++
      (List.zipWith (fun (b : Block) lines => b.kind.keyword :: lines) d.blocks (p.frames.map (·.labelLines))).flatten := by
  have hactors : texts (List.zipWith (actorShapes style p) d.actors p.labels).flatten =
      d.names.flatMap fun name => [name, name] := by
    rw [texts_zipWith]
    simp only [texts_actorShapes]
    rw [zipWith_left _ h.labels.symm, Diagram.names, List.flatMap_map]
    rfl
  have hevents : texts ((d.events.zip p.events).mapIdx fun i x => eventShapes style d p i x.1 x.2).flatten =
      d.events.filterMap (·.action.said?) := by
    rw [texts_mapIdx (g := fun x => x.1.action.said?.toList) fun i x => texts_eventShapes i x.1 x.2,
      ← List.filterMap_eq_flatMap_toList]
    have hfst : ((d.events.zip p.events).map Prod.fst).filterMap (·.action.said?) = d.events.filterMap (·.action.said?) := by
      rw [List.map_fst_zip (Nat.le_of_eq h.events.symm)]
    rwa [List.filterMap_map] at hfst
  have hframes : texts (List.zipWith (frameShapes style) d.blocks p.frames).flatten =
      (List.zipWith (fun (b : Block) lines => b.kind.keyword :: lines) d.blocks (p.frames.map (·.labelLines))).flatten := by
    rw [texts_zipWith, List.zipWith_map_right]
    simp only [texts_frameShapes]
  have hscene : scene style d p = (List.zipWith (actorShapes style p) d.actors p.labels).flatten ++
      p.bars.map (barShape style) ++
      ((d.events.zip p.events).mapIdx fun i x => eventShapes style d p i x.1 x.2).flatten ++
      (List.zipWith (frameShapes style) d.blocks p.frames).flatten := rfl
  rw [hscene, texts_append, texts_append, texts_append, hactors, texts_bars, hevents, hframes, List.append_nil]

end Scene

/-! ## Texts of a document -/

/-- The texts of the frame that the `end` at `j` closes: its keyword, and lines with the
    words of its text. -/
def Labelled (ss : List Numbered) (j : Nat) (group : List String) : Prop :=
  ∃ kind label lines, EndsBlock ss j kind label ∧ group = kind.keyword :: lines ∧
    lines.flatMap (Text.words ·.toList) = Text.words label.toList

theorem said_of_build {ss : List Numbered} {d : Diagram} (h : Diagram.build ss = .ok d) :
    d.events.filterMap (·.action.said?) = ss.filterMap (·.statement.said?) := by
  obtain ⟨e, he, rfl⟩ := Diagram.build_eq_ok_iff.mp h
  have htells := Draft.tells_of_run he
  have hevents : ∀ {names : List String} {rs : List Numbered} {es : List Event}, List.Forall₂ (Tells names) rs es →
      es.filterMap (·.action.said?) = rs.filterMap (·.statement.said?) := by
    intro names rs es h
    induction h with
    | nil => rfl
    | cons hfirst _ ih => rw [List.filterMap_cons, List.filterMap_cons, hfirst.said?, ih]
  rw [hevents htells, List.filterMap_filter]
  refine List.filterMap_congr fun s _ => ?_
  obtain ⟨line, statement⟩ := s
  cases statement <;> rfl

/-- The frames of a placed diagram are labelled as the `end` statements ask. -/
theorem labelled_place [Scalar α] {ss : List Numbered} {d : Diagram} (h : Diagram.build ss = .ok d) (style : Style α)
    (m : TextMetrics α) : List.Forall₂ (Labelled ss) (ends ss)
      (List.zipWith (fun (b : Block) lines => b.kind.keyword :: lines) d.blocks
        ((d.place style m).frames.map (·.labelLines))) := by
  rw [Layout.labelLines_place, List.zipWith_map_right, List.zipWith_self, List.forall₂_map_right_iff]
  refine (Diagram.listed_of_build h).imp fun j b hends => ?_
  exact ⟨b.kind, b.text, _, hends, rfl, TextMetrics.words_wrap m b.text style.messageFontSize style.groupMaxWidth⟩

section Document

variable [Numeral α] {fontFamily : String}

theorem textContents_element {s : Shape α} {e : Markup.Element} (h : element? fontFamily s = some e) :
    Markup.textContents e.tokens = s.text?.toList := by
  cases s with
  | polygon points stroke fill =>
    cases points with
    | nil => cases h
    | cons first rest =>
      cases h
      rfl
  | _ =>
    cases h
    rfl

theorem textContents_elements (shapes : List (Shape α)) :
    Markup.textContents ((shapes.filterMap (element? fontFamily)).flatMap Markup.Element.tokens) = texts shapes := by
  induction shapes with
  | nil => rfl
  | cons s shapes ih =>
    have hcons : texts (s :: shapes) = s.text?.toList ++ texts shapes := by
      rw [texts, List.filterMap_cons]
      cases s.text? <;> rfl
    rw [hcons, ← ih]
    cases he : element? fontFamily s with
    | none =>
      have hnone : s.text? = none := by
        cases s with
        | text content spot style => cases he
        | _ => rfl
      rw [List.filterMap_cons_none he, hnone]
      rfl
    | some e =>
      rw [List.filterMap_cons_some he, List.flatMap_cons, ← textContents_element he]
      exact List.filterMap_append

theorem textContents_svg (size : Size α) (color fontFamily : String) (shapes : List (Shape α)) :
    (Markup.read? (svg size color fontFamily shapes)).map Markup.textContents = some (texts shapes) := by
  have htokens : Markup.textContents (document size color fontFamily shapes).tokens =
      Markup.textContents ((shapes.filterMap (element? fontFamily)).flatMap Markup.Element.tokens) ++ [] :=
    List.filterMap_append
  rw [svg, Markup.read?_write (document_named size color fontFamily shapes), Option.map_some, htokens, List.append_nil,
    textContents_elements]

end Document

/-- The texts of a document's drawing: names, then what messages and notes say, then a
    keyword and label for every `end`. They are the contents of the text elements. -/
theorem texts_of_document [Numeral α] {text : String} {ss : List Numbered} {d : Diagram}
    (hread : SequenceDiagram.Document.read text = .ok ss) (hbuild : Diagram.build ss = .ok d) (t : Typesetter α) :
    ∃ groups, List.Forall₂ (Labelled ss) (ends ss) groups ∧
      let drawn := ((mentioned ss).eraseDups.flatMap fun name => [name, name]) ++ ss.filterMap (·.statement.said?) ++
        groups.flatten
      texts (scene t.style d (d.place t.style t.metrics)) = drawn ∧
      ∃ svg tokens, t.svg text = .ok svg ∧ Markup.read? svg = some tokens ∧ Markup.textContents tokens = drawn := by
  have htexts : texts (scene t.style d (d.place t.style t.metrics)) = _ :=
    texts_scene (Placement.Fits.place t.style t.metrics d)
  rw [Diagram.names_of_build hbuild, said_of_build hbuild] at htexts
  have hsvg : t.svg text = .ok (Typesetter.draw t.style d (d.place t.style t.metrics)) := by
    simp only [Typesetter.svg, Typesetter.layout, Diagram.read, hread, bind, Except.bind, hbuild]
    rfl
  have hcontents := textContents_svg (d.place t.style t.metrics).canvas t.style.palette.background
    t.style.fontFamily (scene t.style d (d.place t.style t.metrics))
  obtain ⟨tokens, htokens, hsame⟩ := Option.map_eq_some_iff.mp hcontents
  exact ⟨_, labelled_place hbuild t.style t.metrics, htexts, _, tokens, hsvg, htokens, hsame.trans htexts⟩

/-- A block that is never closed, a comment and an `else` draw nothing. -/
theorem texts_of_document_unclosed :
    ∃ text ss d, text = "alt never closed\n# aside\nb->a: first\nloop again and again\nnote over c, a: second\nelse or\nend" ∧
      SequenceDiagram.Document.read text = .ok ss ∧ Diagram.build ss = .ok d ∧
      ∃ groups, List.Forall₂ (Labelled ss) [5] groups ∧
        texts (scene Style.default d (d.place Style.default (TextMetrics.estimated (α := Float)))) =
          ["b", "b", "a", "a", "c", "c", "first", "second"] ++ groups.flatten := by
  have hread : SequenceDiagram.Document.read
      "alt never closed\n# aside\nb->a: first\nloop again and again\nnote over c, a: second\nelse or\nend" = .ok
        [⟨1, .blockStart .alt "never closed"⟩, ⟨3, .message "b" ⟨.solid, none⟩ "a" "first"⟩,
         ⟨4, .blockStart .loop "again and again"⟩, ⟨5, .note .over ["c", "a"] "second"⟩, ⟨6, .otherwise "or"⟩,
         ⟨7, .blockEnd⟩] := by
    decide +kernel
  obtain ⟨groups, hgroups, htexts, -⟩ := texts_of_document hread rfl (Typesetter.default (α := Float))
  exact ⟨_, _, _, rfl, hread, rfl, groups, hgroups, htexts⟩

end Drawing

end SequenceDiagram
