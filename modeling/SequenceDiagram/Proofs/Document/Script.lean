/-
  SequenceDiagram.Proofs.Document.Script — a picture shows what is said, not where.

  The script of a document is its statements but `else`, in order, without their lines;
  there is none when the document is not read (`script`). It is found line by line: a
  blank line, a comment and an `else` add nothing, a statement adds itself, a line that is
  rejected leaves no script (`lineSays`, `said`, `script_of_line`).

  The drawing of a document is a function of its script (`Typesetter.svg_eq_script`), since
  neither linking nor layout nor drawing looks at line numbers. Putting in or taking out
  lines that add nothing, and blanks at the ends of lines, leave the script as it is
  (`Edits.said_eq`), and so does a carriage return before every line feed
  (`script_withReturns`).
-/

import Mathlib.Data.List.TakeWhile
import Mathlib.Logic.Relation
import SequenceDiagram.Proofs.Document.Outcome
import SequenceDiagram.Proofs.Drawing.Unnumbered

namespace SequenceDiagram

open Text (trim trimEnd isBlank)

/-! ## Blanks around a line -/

namespace Text

variable {b s : List Char}

theorem trim_blank_append (hb : ∀ c ∈ b, isBlank c = true) : trim (b ++ s) = trim s := by
  rw [trim, List.dropWhile_append_of_pos hb]
  rfl

theorem trimEnd_append_blank (hb : ∀ c ∈ b, isBlank c = true) : trimEnd (s ++ b) = trimEnd s := by
  have hreverse : ∀ c ∈ b.reverse, isBlank c = true := fun c hc => hb c (List.mem_reverse.mp hc)
  rw [trimEnd, List.reverse_append, List.dropWhile_append_of_pos hreverse]
  rfl

theorem trim_append_blank (hb : ∀ c ∈ b, isBlank c = true) : trim (s ++ b) = trim s := by
  rw [trim, trim, List.dropWhile_append]
  by_cases hs : (s.dropWhile isBlank).isEmpty = true
  · have hnil : b.dropWhile isBlank = [] := List.dropWhile_eq_nil_iff.mpr hb
    rw [if_pos hs, hnil, List.isEmpty_iff.mp hs]
  · rw [if_neg hs, trimEnd_append_blank hb]

end Text

namespace Document

/-! ## The script of a document -/

/-- What a line adds to the script, if it is not rejected. -/
def lineSays (l : List Char) : Option (List Statement) :=
  if isComment l then some [] else (Line.statement? (trim l)).map fun st => [st].filter (!·.isOtherwise)

/-- What some lines add, one after the other. -/
def said : List (List Char) → Option (List Statement)
  | [] => some []
  | l :: ls => (lineSays l).bind fun first => (said ls).map (first ++ ·)

/-- The statements of a document but `else`, if it is read. -/
def script (text : String) : Option (List Statement) := (read text).toOption.map gist

theorem said_append (ls ls' : List (List Char)) :
    said (ls ++ ls') = (said ls).bind fun first => (said ls').map (first ++ ·) := by
  induction ls with
  | nil => simp [said]
  | cons l ls ih =>
    rw [List.cons_append, said, said, ih]
    cases lineSays l <;> cases said ls <;> cases said ls' <;> simp

theorem readLine_eq {n : Nat} {l : List Char} (h : isComment l = false) :
    (readLine (n, l)).toOption = (Line.statement? (trim l)).map (Numbered.mk n) := by
  have hne := (isComment_eq_false_iff.mp h).1
  unfold readLine Statement.read
  rw [String.toList_ofList]
  cases htrim : trim l with
  | nil => exact absurd htrim hne
  | cons c s =>
    simp only
    cases Line.statement? (c :: s) <;> rfl

/-- Reading the lines that say something finds their statements one by one. -/
theorem gist_mapM_readLine (numbered : List (Nat × List Char)) :
    ((numbered.filter fun (_, l) => !isComment l).mapM readLine).toOption.map gist = said (numbered.map (·.2)) := by
  induction numbered with
  | nil => rfl
  | cons line numbered ih =>
    obtain ⟨n, l⟩ := line
    rw [List.map_cons, said, ← ih, lineSays, List.filter_cons]
    by_cases hl : isComment l = true
    · rw [if_neg (by simp [hl]), if_pos hl]
      cases ((numbered.filter fun (_, l) => !isComment l).mapM readLine).toOption <;> rfl
    · have hread := readLine_eq (n := n) (Bool.eq_false_iff.mpr hl)
      rw [if_pos (by simpa using hl), if_neg hl, List.mapM_cons]
      cases hstatement : Line.statement? (trim l) with
      | none =>
        rw [hstatement] at hread
        cases hfirst : readLine (n, l) with
        | error f => rfl
        | ok s => rw [hfirst] at hread; cases hread
      | some st =>
        rw [hstatement] at hread
        cases hfirst : readLine (n, l) with
        | error f => rw [hfirst] at hread; cases hread
        | ok s =>
          rw [hfirst] at hread
          obtain rfl : s = ⟨n, st⟩ := Option.some.inj hread
          cases (numbered.filter fun (_, l) => !isComment l).mapM readLine with
          | error f => rfl
          | ok ss =>
            show some (gist (⟨n, st⟩ :: ss)) = some ([st].filter (!·.isOtherwise) ++ gist ss)
            rw [gist_cons, List.filter_singleton]
            cases st.isOtherwise <;> rfl

/-- A document is read from its lines, if one of them says something. -/
theorem script_of_line {text : String} (h : ∃ n l, HasLine text n l) : script text = said (Text.lines text.toList) := by
  have hlines : ((Text.lines text.toList).mapIdx fun i l => (i + 1, l)).map (·.2) = Text.lines text.toList := by
    refine List.ext_getElem? fun i => ?_
    simp [Function.comp_def]
  rw [script, read_eq_mapM h, numberedLines, gist_mapM_readLine, hlines]

theorem script_congr {a b : String} (hsaid : said (Text.lines a.toList) = said (Text.lines b.toList))
    (hlines : (∃ n l, HasLine a n l) ↔ ∃ n l, HasLine b n l) : script a = script b := by
  by_cases ha : ∃ n l, HasLine a n l
  · rw [script_of_line ha, script_of_line (hlines.mp ha), hsaid]
  · have hb : ¬ ∃ n l, HasLine b n l := fun hb => ha (hlines.mpr hb)
    rw [script, script, read_eq_emptyInput fun n l hl => ha ⟨n, l, hl⟩,
      read_eq_emptyInput fun n l hl => hb ⟨n, l, hl⟩]

theorem exists_hasLine_iff {text : String} :
    (∃ n l, HasLine text n l) ↔ ∃ l ∈ Text.lines text.toList, isComment l = false := by
  rw [lines_eq_splitOn]
  constructor
  · intro h
    obtain ⟨n, l, hl⟩ := h
    exact ⟨l, List.mem_of_getElem? hl.stands, isComment_eq_false_iff.mpr ⟨hl.nonempty, hl.plain⟩⟩
  · intro h
    obtain ⟨l, hl, hsays⟩ := h
    obtain ⟨i, hi⟩ := List.mem_iff_getElem?.mp hl
    obtain ⟨hnonempty, hplain⟩ := isComment_eq_false_iff.mp hsays
    exact ⟨i + 1, l, Nat.succ_pos i, hi, hnonempty, hplain⟩

/-! ## Lines put in and taken out -/

/-- A line that adds nothing to a picture: blank, a comment or an `else`. -/
def Idle (l : List Char) : Prop := isComment l = true ∨ ∃ text, Line.Says (trim l) (.otherwise text)

/-- One change of the lines of a document that leaves what they say. -/
inductive Edit : List (List Char) → List (List Char) → Prop
  | putIn (before : List (List Char)) (l : List Char) (after : List (List Char)) :
      Idle l → Edit (before ++ after) (before ++ l :: after)
  | takeOut (before : List (List Char)) (l : List Char) (after : List (List Char)) :
      Idle l → Edit (before ++ l :: after) (before ++ after)
  /-- Blanks put in at both ends of a line. -/
  | blanks (before : List (List Char)) (left l right : List Char) (after : List (List Char)) :
      (∀ c ∈ left, isBlank c = true) → (∀ c ∈ right, isBlank c = true) →
      Edit (before ++ l :: after) (before ++ (left ++ (l ++ right)) :: after)

theorem Idle.lineSays {l : List Char} (h : Idle l) : lineSays l = some [] := by
  unfold Document.lineSays
  by_cases hl : isComment l = true
  · rw [if_pos hl]
  · obtain ⟨text, hsays⟩ := h.resolve_left hl
    rw [if_neg hl, Line.statement?_eq_some_iff.mpr hsays]
    rfl

theorem lineSays_congr {l l' : List Char} (h : trim l = trim l') : lineSays l = lineSays l' := by
  unfold lineSays isComment
  rw [h]

theorem said_insert {l : List Char} (h : Idle l) (before after : List (List Char)) :
    said (before ++ l :: after) = said (before ++ after) := by
  rw [said_append, said_append, said, h.lineSays]
  simp

theorem Edit.said_eq {ls ls' : List (List Char)} (h : Edit ls ls') : said ls = said ls' := by
  cases h with
  | putIn before l after hl => exact (said_insert hl before after).symm
  | takeOut before l after hl => exact said_insert hl before after
  | blanks before left l right after hleft hright =>
    have htrim : trim (left ++ (l ++ right)) = trim l := by
      rw [Text.trim_blank_append hleft, Text.trim_append_blank hright]
    rw [said_append, said_append, said, said, lineSays_congr htrim]

/-- Any number of such changes, one after the other. -/
def Edits : List (List Char) → List (List Char) → Prop := Relation.ReflTransGen Edit

theorem Edits.said_eq {ls ls' : List (List Char)} (h : Edits ls ls') : said ls = said ls' := by
  induction h with
  | refl => rfl
  | tail _ hlast ih => exact ih.trans hlast.said_eq

/-! ## Carriage returns -/

/-- A carriage return put in before every line feed. -/
def withReturns (s : List Char) : List Char := s.flatMap fun c => if c = '\n' then ['\r', '\n'] else [c]

/-- Lines of which some have a carriage return more at the end. -/
def Returned (l l' : List Char) : Prop := l' = l ∨ l' = l ++ ['\r']

theorem Returned.trim_eq {l l' : List Char} (h : Returned l l') : trim l = trim l' := by
  have hblank : ∀ c ∈ ['\r'], Text.isBlank c = true := by
    intro c hc
    rw [List.mem_singleton.mp hc]
    rfl
  rcases h with rfl | rfl
  · rfl
  · exact (Text.trim_append_blank hblank).symm

theorem Returned.cons {l l' : List Char} (h : Returned l l') (c : Char) : Returned (c :: l) (c :: l') :=
  h.imp (congrArg (c :: ·)) (congrArg (c :: ·))

theorem cutLine_withReturns (s : List Char) :
    Returned (Text.cutLine s).1 (Text.cutLine (withReturns s)).1 ∧
      List.Forall₂ Returned (Text.cutLine s).2 (Text.cutLine (withReturns s)).2 := by
  induction s with
  | nil => exact ⟨.inl rfl, .nil⟩
  | cons c s ih =>
    obtain ⟨hfirst, hrest⟩ := ih
    by_cases hc : c = '\n'
    · subst hc
      exact ⟨.inr rfl, .cons hfirst hrest⟩
    · have hreturns : withReturns (c :: s) = c :: withReturns s := by
        rw [withReturns, List.flatMap_cons, if_neg hc]
        rfl
      rw [hreturns]
      simp only [Text.cutLine, if_neg hc]
      exact ⟨hfirst.cons c, hrest⟩

theorem lines_withReturns (s : List Char) : List.Forall₂ Returned (Text.lines s) (Text.lines (withReturns s)) :=
  .cons (cutLine_withReturns s).1 (cutLine_withReturns s).2

theorem said_of_forall₂ {ls ls' : List (List Char)} (h : List.Forall₂ Returned ls ls') : said ls = said ls' := by
  induction h with
  | nil => rfl
  | cons hl _ ih => rw [said, said, lineSays_congr hl.trim_eq, ih]

theorem hasLine_withReturns (text : String) :
    (∃ n l, HasLine (String.ofList (withReturns text.toList)) n l) ↔ ∃ n l, HasLine text n l := by
  obtain ⟨hto, hfrom⟩ := exists_of_forall₂ (lines_withReturns text.toList)
  rw [exists_hasLine_iff, exists_hasLine_iff, String.toList_ofList]
  constructor
  · intro h
    obtain ⟨l', hl', hsays⟩ := h
    obtain ⟨l, hl, hreturned⟩ := hfrom l' hl'
    exact ⟨l, hl, by rwa [isComment, hreturned.trim_eq]⟩
  · intro h
    obtain ⟨l, hl, hsays⟩ := h
    obtain ⟨l', hl', hreturned⟩ := hto l hl
    exact ⟨l', hl', by rwa [isComment, ← hreturned.trim_eq]⟩

theorem script_withReturns (text : String) : script (String.ofList (withReturns text.toList)) = script text := by
  refine script_congr ?_ (hasLine_withReturns text)
  rw [String.toList_ofList, said_of_forall₂ (lines_withReturns text.toList)]

end Document

/-! ## The picture of a script -/

namespace Typesetter

variable {α : Type} [Numeral α] (t : Typesetter α)

/-- The picture of a diagram. -/
def picture (d : Diagram) : String := draw t.style d (d.place t.style t.metrics)

theorem picture_unnumbered (d : Diagram) : t.picture d.unnumbered = t.picture d := by
  rw [picture, picture, draw_unnumbered, Diagram.place_unnumbered]

theorem svg_eq_picture (text : String) : (t.svg text).toOption =
    (Document.read text).toOption.bind fun ss => (Diagram.build ss).toOption.map t.picture := by
  unfold svg layout Diagram.read
  cases Document.read text with
  | error f => rfl
  | ok ss =>
    simp only [bind, Except.bind, Except.toOption, Option.bind_some]
    cases Diagram.build ss <;> rfl

theorem svg_eq_ok {text : String} {ss : List Numbered} {d : Diagram} (hread : Document.read text = .ok ss)
    (hbuild : Diagram.build ss = .ok d) : t.svg text = .ok (t.picture d) := by
  rw [svg, layout, Diagram.read, hread]
  show (Diagram.build ss >>= _) >>= _ = _
  rw [hbuild]
  rfl

/-- The drawing of a document is made from its script. -/
theorem svg_eq_script (text : String) : (t.svg text).toOption = (Document.script text).bind fun statements =>
    (Diagram.build (statements.map (Numbered.mk 0))).toOption.map t.picture := by
  rw [svg_eq_picture, Document.script]
  cases Document.read text with
  | error f => simp [Except.toOption]
  | ok ss =>
    have hok : (Except.ok ss : Except Failure (List Numbered)).toOption = some ss := rfl
    rw [hok, Option.bind_some, Option.map_some, Option.bind_some, ← Diagram.build_gist, Option.map_map]
    simp only [Function.comp_def, picture_unnumbered]

theorem svg_congr_script {a b : String} (h : Document.script a = Document.script b) :
    (t.svg a).toOption = (t.svg b).toOption := by
  rw [svg_eq_script, svg_eq_script, h]

/-- Documents of one gist are linked, laid out and drawn alike, or both not linked. Lines that
    add nothing may be put in and taken out and lines be padded with blanks, as long as a line
    that says something remains, and line feeds may have carriage returns before them: the
    drawing, or that there is none, stays. -/
theorem svg_of_gist (t : Typesetter α) :
    (∀ a b ss ts, Document.read a = .ok ss → Document.read b = .ok ts → gist ss = gist ts →
      ((∃ f, Diagram.build ss = .error f) ∧ ∃ f, Diagram.build ts = .error f) ∨
      ∃ d e, Diagram.build ss = .ok d ∧ Diagram.build ts = .ok e ∧ d.unnumbered = e.unnumbered ∧
        d.place t.style t.metrics = e.place t.style t.metrics ∧ ∃ svg, t.svg a = .ok svg ∧ t.svg b = .ok svg) ∧
    (∀ a b, Document.Edits (Text.lines a.toList) (Text.lines b.toList) →
      ((∃ n l, Document.HasLine a n l) ↔ ∃ n l, Document.HasLine b n l) →
      (t.svg a).toOption = (t.svg b).toOption) ∧
    ∀ text, (t.svg (String.ofList (Document.withReturns text.toList))).toOption = (t.svg text).toOption := by
  refine ⟨fun a b ss ts ha hb hgist => ?_, fun a b hedits hlines => ?_, fun text => ?_⟩
  · rcases Diagram.build_cases_of_gist hgist with hfail | ⟨d, e, hss, hts, hsame⟩
    · exact .inl hfail
    · have hplace : d.place t.style t.metrics = e.place t.style t.metrics := by
        rw [← Diagram.place_unnumbered, hsame, Diagram.place_unnumbered]
      have hpicture : t.picture d = t.picture e := by
        rw [← picture_unnumbered, hsame, picture_unnumbered]
      refine .inr ⟨d, e, hss, hts, hsame, hplace, t.picture d, t.svg_eq_ok ha hss, ?_⟩
      rw [hpicture]
      exact t.svg_eq_ok hb hts
  · exact t.svg_congr_script (Document.script_congr hedits.said_eq hlines)
  · exact t.svg_congr_script (Document.script_withReturns text)

/-- A comment, a blank line and an `else` more, and blanks around the message; then the first
    document with a comment put in. -/
theorem svg_of_gist_commented :
    ∃ t : Typesetter Float, t = default ∧
      (∃ svg, t.svg "alt one\na->+b: hi\nend" = .ok svg ∧
        t.svg "# first\r\nalt one\n\n\t a->+b: hi \nelse two\nend" = .ok svg) ∧
      (t.svg "alt one\na->+b: hi\nend").toOption = (t.svg "alt one\n# again\na->+b: hi\nend").toOption := by
  obtain ⟨hgist, hedits, -⟩ := svg_of_gist (default : Typesetter Float)
  have ha : Document.read "alt one\na->+b: hi\nend" = .ok [⟨1, .blockStart .alt "one"⟩,
      ⟨2, .message "a" ⟨.solid, some .start⟩ "b" "hi"⟩, ⟨3, .blockEnd⟩] := by decide +kernel
  have hb : Document.read "# first\r\nalt one\n\n\t a->+b: hi \nelse two\nend" = .ok [⟨2, .blockStart .alt "one"⟩,
      ⟨4, .message "a" ⟨.solid, some .start⟩ "b" "hi"⟩, ⟨5, .otherwise "two"⟩, ⟨6, .blockEnd⟩] := by decide +kernel
  refine ⟨_, rfl, ?_, hedits _ _ ?_ (iff_of_true ?_ ?_)⟩
  · rcases hgist _ _ _ _ ha hb rfl with ⟨⟨f, hf⟩, -⟩ | ⟨d, e, -, -, -, -, hsvg⟩
    · cases hf
    · exact hsvg
  · have hfirst : Text.lines "alt one\na->+b: hi\nend".toList =
        ["alt one".toList] ++ ["a->+b: hi".toList, "end".toList] := by decide +kernel
    have hsecond : Text.lines "alt one\n# again\na->+b: hi\nend".toList =
        ["alt one".toList] ++ "# again".toList :: ["a->+b: hi".toList, "end".toList] := by decide +kernel
    rw [hfirst, hsecond]
    exact .single (.putIn _ _ _ (.inl (by decide +kernel)))
  · exact (Document.read_eq_ok_iff.mp ha).1
  · exact Document.exists_hasLine_iff.mpr ⟨"end".toList, by decide +kernel, by decide +kernel⟩

end Typesetter

end SequenceDiagram
