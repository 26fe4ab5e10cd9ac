/-
  SequenceDiagram.Proofs.Markup.Lexer — markup taken apart again.

  The reader goes over a document character by character and knows no more of it than
  where it stands: between two tags, in a tag's name, in an attribute's name or between
  quotes. Outside tags everything up to the next `<` is content; between quotes
  everything up to the next `"` is value; in a tag only names, single spaces and the marks
  `=`, `/` and `>` are allowed, and anything else fails (`Lexer.step`). What it reads is a
  list of tags, each with the content that follows it.

  Written markup is read to the tags it was written from: each written piece takes the
  reader from one place to the next (`run_attributes`, `run_line`), because an escaped
  text has no character in it that would end its place early. So reading a document and
  replacing entities gives its elements (`tokens?_write`), whatever their texts and
  attribute values are.
-/

import Mathlib.Data.List.Induction
import SequenceDiagram.Markup.Element
import SequenceDiagram.Proofs.Markup.Escaping

namespace SequenceDiagram.Markup

inductive Tag where
  | opening (name : String) (attributes : List Attribute)
  | empty (name : String) (attributes : List Attribute)
  | closing (name : String)
  deriving DecidableEq, Repr

/-- A tag and the content up to the next. -/
structure Token where
  tag : Tag
  content : String
  deriving DecidableEq, Repr

/-! ## The reader -/

/-- Letters, digits and hyphens make names. -/
def isNameCharacter (c : Char) : Bool := c.isAlphanum || c == '-'

def isName (s : String) : Bool := !s.isEmpty && s.toList.all isNameCharacter

/-- Where the reader stands. -/
inductive Place where
  | start
  | content (tag : Tag) (text : List Char)
  | angle
  | closingName (name : List Char)
  | tagName (name : List Char)
  | part (name : String) (attributes : List Attribute)
  | space (name : String) (attributes : List Attribute)
  | key (name : String) (attributes : List Attribute) (key : List Char)
  | equals (name : String) (attributes : List Attribute) (key : String)
  | value (name : String) (attributes : List Attribute) (key : String) (value : List Char)
  | slash (name : String) (attributes : List Attribute)
  deriving DecidableEq, Repr

/-- The tokens read and the place behind them. -/
structure Lexer where
  tokens : List Token
  place : Place
  deriving DecidableEq, Repr

namespace Lexer

/-- After the name of a tag, or after an attribute. -/
def afterPart (name : String) (attributes : List Attribute) (c : Char) : Option Place :=
  if c = ' ' then some (.space name attributes)
  else if c = '/' then some (.slash name attributes)
  else if c = '>' then some (.content (.opening name attributes) [])
  else none

def step (l : Lexer) (c : Char) : Option Lexer :=
  match l.place with
  | .start => if c = '<' then some { l with place := .angle } else none
  | .content tag text =>
    if c = '<' then some ⟨l.tokens ++ [⟨tag, String.ofList text⟩], .angle⟩
    else some { l with place := .content tag (text ++ [c]) }
  | .angle =>
    if c = '/' then some { l with place := .closingName [] }
    else if isNameCharacter c then some { l with place := .tagName [c] }
    else none
  | .closingName name =>
    if isNameCharacter c then some { l with place := .closingName (name ++ [c]) }
    else if c = '>' then some { l with place := .content (.closing (String.ofList name)) [] }
    else none
  | .tagName name =>
    if isNameCharacter c then some { l with place := .tagName (name ++ [c]) }
    else (afterPart (String.ofList name) [] c).map fun place => { l with place }
  | .part name attributes => (afterPart name attributes c).map fun place => { l with place }
  | .space name attributes =>
    if isNameCharacter c then some { l with place := .key name attributes [c] } else none
  | .key name attributes key =>
    if isNameCharacter c then some { l with place := .key name attributes (key ++ [c]) }
    else if c = '=' then some { l with place := .equals name attributes (String.ofList key) }
    else none
  | .equals name attributes key =>
    if c = '"' then some { l with place := .value name attributes key [] } else none
  | .value name attributes key value =>
    if c = '"' then some { l with place := .part name (attributes ++ [(key, String.ofList value)]) }
    else some { l with place := .value name attributes key (value ++ [c]) }
  | .slash name attributes =>
    if c = '>' then some { l with place := .content (.empty name attributes) [] } else none

def run (l : Lexer) (s : List Char) : Option Lexer := s.foldlM step l

/-- Nothing is left open at the end of a document. -/
def finish (l : Lexer) : Option (List Token) :=
  match l.place with
  | .content tag text => some (l.tokens ++ [⟨tag, String.ofList text⟩])
  | _ => none

end Lexer

/-- The tags of a document as they are written, each with the content behind it. -/
def tokens? (s : String) : Option (List Token) := (Lexer.run ⟨[], .start⟩ s.toList).bind Lexer.finish

/-! ## Texts of a token -/

/-- Every attribute value and every content replaced. -/
def Tag.mapTexts (f : String → String) : Tag → Tag
  | .opening name attributes => .opening name (attributes.map fun a => (a.1, f a.2))
  | .empty name attributes => .empty name (attributes.map fun a => (a.1, f a.2))
  | .closing name => .closing name

def Token.mapTexts (f : String → String) (t : Token) : Token := ⟨t.tag.mapTexts f, f t.content⟩

/-- The tags of a document and the contents behind them, with all entities replaced. -/
def read? (s : String) : Option (List Token) := (tokens? s).map (·.map (Token.mapTexts unescape))

/-! ## What an element and a document are read as -/

/-- One empty tag, or the text between two tags; a line feed ends the line. -/
def Element.tokens (e : Element) : List Token :=
  match e.text with
  | none => [⟨.empty e.name e.attributes, "\n"⟩]
  | some text => [⟨.opening e.name e.attributes, text⟩, ⟨.closing e.name, "\n"⟩]

def Document.tokens (d : Document) : List Token :=
  ⟨.opening d.name d.attributes, "\n"⟩ :: d.elements.flatMap Element.tokens ++ [⟨.closing d.name, "\n"⟩]

/-- The names in a tag are names. -/
def Tag.Named : Tag → Prop
  | .opening name attributes | .empty name attributes => isName name ∧ ∀ a ∈ attributes, isName a.1
  | .closing name => isName name

structure Element.Named (e : Element) : Prop where
  name : isName e.name
  attributes : ∀ a ∈ e.attributes, isName a.1

structure Document.Named (d : Document) : Prop where
  name : isName d.name
  attributes : ∀ a ∈ d.attributes, isName a.1
  elements : ∀ e ∈ d.elements, e.Named

/-! ## A document is its tokens, written -/

def Tag.write : Tag → List Char
  | .opening name attributes => '<' :: name.toList ++ (writeAttributes attributes).toList ++ ['>']
  | .empty name attributes => '<' :: name.toList ++ (writeAttributes attributes).toList ++ ['/', '>']
  | .closing name => ['<', '/'] ++ name.toList ++ ['>']

def Token.write (t : Token) : List Char := t.tag.write ++ (escape t.content).toList

theorem toList_writeElement (e : Element) : (e.write ++ "\n").toList = e.tokens.flatMap Token.write := by
  obtain ⟨name, attributes, text⟩ := e
  cases text with
  | none =>
    simp only [Element.write, Element.tokens, Token.write, Tag.write, String.toList_append, List.flatMap_cons,
      List.flatMap_nil, List.append_nil, List.append_assoc]
    rfl
  | some text =>
    simp only [Element.write, Element.tokens, Token.write, Tag.write, String.toList_append, List.flatMap_cons,
      List.flatMap_nil, List.append_nil, List.append_assoc]
    rfl

theorem toList_writeDocument (d : Document) : d.write.toList = d.tokens.flatMap Token.write := by
  have helements : ((d.elements.map Element.write).map (· ++ "\n")).flatMap String.toList =
      d.elements.flatMap fun e => e.tokens.flatMap Token.write := by
    rw [List.map_map, List.flatMap_map]
    exact congrArg (d.elements.flatMap ·) (funext toList_writeElement)
  rw [Document.write, String.toList_join, List.map_append, List.map_append, List.flatMap_append, List.flatMap_append,
    helements, Document.tokens, List.flatMap_append, List.flatMap_cons, List.flatMap_assoc]
  simp only [Token.write, Tag.write, List.map_cons, List.map_nil, List.flatMap_cons, List.flatMap_nil, List.append_nil,
    String.toList_append, List.append_assoc]
  rfl

/-! ## Runs over pieces -/

namespace Lexer

variable {ts : List Token} {name : String} {as : List Attribute} {c : Char}

theorem run_cons (l : Lexer) (c : Char) (s : List Char) : l.run (c :: s) = (l.step c).bind fun m => m.run s :=
  List.foldlM_cons

/-- Characters that each extend a text at the place leave the reader there, behind them. -/
theorem run_extend (place : List Char → Place) {s : List Char}
    (h : ∀ c ∈ s, ∀ text, step ⟨ts, place text⟩ c = some ⟨ts, place (text ++ [c])⟩) (text rest : List Char) :
    run ⟨ts, place text⟩ (s ++ rest) = run ⟨ts, place (text ++ s)⟩ rest := by
  induction s generalizing text with
  | nil => simp
  | cons c s ih =>
    have hstep : step ⟨ts, place text⟩ c = some ⟨ts, place (text ++ [c])⟩ := h c (List.mem_cons_self ..) text
    rw [List.cons_append, run_cons, hstep, Option.bind_some, ih fun d hd => h d (List.mem_cons_of_mem _ hd),
      List.append_assoc]
    rfl

theorem nameCharacter_of_isName {s : String} (h : isName s) (hc : c ∈ s.toList) : isNameCharacter c = true := by
  simp only [isName, Bool.and_eq_true, List.all_eq_true] at h
  exact h.2 c hc

/-- A name begins with some character. -/
theorem exists_cons_of_isName {s : String} (h : isName s) : ∃ c rest, s.toList = c :: rest := by
  cases hs : s.toList with
  | nil =>
    have hempty : s = "" := String.toList_inj.mp hs
    rw [hempty] at h
    exact absurd h (by decide)
  | cons c rest => exact ⟨c, rest, rfl⟩

/-! ### Texts -/

theorem run_content (tag : Tag) (s : String) (rest : List Char) :
    run ⟨ts, .content tag []⟩ ((escape s).toList ++ rest) = run ⟨ts, .content tag (escape s).toList⟩ rest := by
  rw [run_extend (.content tag) ?_ [] rest, List.nil_append]
  intro c hc text
  have hplain : c ≠ '<' := by
    rintro rfl
    exact absurd (plain_of_mem_escape hc) (by decide)
  show (if c = '<' then _ else _) = _
  rw [if_neg hplain]

theorem run_value (key s : String) (rest : List Char) :
    run ⟨ts, .value name as key []⟩ ((escape s).toList ++ rest) =
      run ⟨ts, .value name as key (escape s).toList⟩ rest := by
  rw [run_extend (.value name as key) ?_ [] rest, List.nil_append]
  intro c hc text
  have hplain : c ≠ '"' := by
    rintro rfl
    exact absurd (plain_of_mem_escape hc) (by decide)
  show (if c = '"' then _ else _) = _
  rw [if_neg hplain]

/-! ### Names and attributes -/

/-- A name behind `<` is read up to the first character that is in no name. -/
theorem run_tagName (hname : isName name) (hc : isNameCharacter c = false) (rest : List Char) :
    run ⟨ts, .angle⟩ (name.toList ++ c :: rest) = run ⟨ts, .part name []⟩ (c :: rest) := by
  obtain ⟨first, others, hchars⟩ := exists_cons_of_isName hname
  have hall : ∀ d ∈ first :: others, isNameCharacter d = true := by
    intro d hd
    exact nameCharacter_of_isName hname (by rw [hchars]; exact hd)
  have hfirst : isNameCharacter first = true := hall first (List.mem_cons_self ..)
  have hslash : first ≠ '/' := by
    rintro rfl
    exact absurd hfirst (by decide)
  have hstart : step ⟨ts, .angle⟩ first = some ⟨ts, .tagName [first]⟩ := by
    show (if first = '/' then _ else if isNameCharacter first then _ else _) = _
    rw [if_neg hslash, if_pos hfirst]
  have hends : step ⟨ts, .tagName (first :: others)⟩ c = step ⟨ts, .part name []⟩ c := by
    show (if isNameCharacter c then _ else _) = _
    rw [hc, ← hchars, String.ofList_toList]
    rfl
  rw [hchars, List.cons_append, run_cons, hstart, Option.bind_some, run_extend .tagName ?_ [first]]
  · rw [run_cons, List.singleton_append, hends, ← run_cons]
  · intro d hd text
    show (if isNameCharacter d then _ else _) = _
    rw [if_pos (hall d (List.mem_cons_of_mem _ hd))]

/-- A name behind a space is read up to the sign of equality. -/
theorem run_key {key : String} (hkey : isName key) (rest : List Char) :
    run ⟨ts, .space name as⟩ (key.toList ++ '=' :: rest) = run ⟨ts, .equals name as key⟩ rest := by
  obtain ⟨first, others, hchars⟩ := exists_cons_of_isName hkey
  have hall : ∀ d ∈ first :: others, isNameCharacter d = true := by
    intro d hd
    exact nameCharacter_of_isName hkey (by rw [hchars]; exact hd)
  have hstart : step ⟨ts, .space name as⟩ first = some ⟨ts, .key name as [first]⟩ := by
    show (if isNameCharacter first then _ else _) = _
    rw [if_pos (hall first (List.mem_cons_self ..))]
  have hends : step ⟨ts, .key name as (first :: others)⟩ '=' = some ⟨ts, .equals name as key⟩ := by
    show some (Lexer.mk ts (.equals name as (String.ofList (first :: others)))) = _
    rw [← hchars, String.ofList_toList]
  rw [hchars, List.cons_append, run_cons, hstart, Option.bind_some, run_extend (.key name as) ?_ [first]]
  · rw [run_cons, List.singleton_append, hends, Option.bind_some]
  · intro d hd text
    show (if isNameCharacter d then _ else _) = _
    rw [if_pos (hall d (List.mem_cons_of_mem _ hd))]

theorem run_attribute {a : Attribute} (ha : isName a.1) (rest : List Char) :
    run ⟨ts, .part name as⟩ ((writeAttribute a).toList ++ rest) =
      run ⟨ts, .part name (as ++ [(a.1, escape a.2)])⟩ rest := by
  have hwritten : (writeAttribute a).toList ++ rest =
      ' ' :: (a.1.toList ++ '=' :: '"' :: ((escape a.2).toList ++ '"' :: rest)) := by
    simp only [writeAttribute, String.toList_append, List.append_assoc]
    rfl
  have hspace : step ⟨ts, .part name as⟩ ' ' = some ⟨ts, .space name as⟩ := rfl
  have hquote : step ⟨ts, .equals name as a.1⟩ '"' = some ⟨ts, .value name as a.1 []⟩ := rfl
  have hends : step ⟨ts, .value name as a.1 (escape a.2).toList⟩ '"' =
      some ⟨ts, .part name (as ++ [(a.1, escape a.2)])⟩ := by
    show some (Lexer.mk ts (.part name (as ++ [(a.1, String.ofList (escape a.2).toList)]))) = _
    rw [String.ofList_toList]
  rw [hwritten, run_cons, hspace, Option.bind_some, run_key ha, run_cons, hquote, Option.bind_some, run_value,
    run_cons, hends, Option.bind_some]

theorem run_attributes {bs : List Attribute} (hbs : ∀ b ∈ bs, isName b.1) (rest : List Char) :
    run ⟨ts, .part name as⟩ ((writeAttributes bs).toList ++ rest) =
      run ⟨ts, .part name (as ++ bs.map fun b => (b.1, escape b.2))⟩ rest := by
  induction bs generalizing as with
  | nil =>
    rw [List.map_nil, List.append_nil]
    rfl
  | cons b bs ih =>
    have hb : isName b.1 := hbs b (List.mem_cons_self ..)
    have hrest : ∀ b' ∈ bs, isName b'.1 := fun b' hb' => hbs b' (List.mem_cons_of_mem _ hb')
    have hwritten : writeAttributes (b :: bs) = writeAttribute b ++ writeAttributes bs := String.join_cons
    rw [hwritten, String.toList_append, List.append_assoc, run_attribute hb, ih hrest, List.append_assoc]
    rfl

/-- Behind `<`, a name and its attributes are read up to a slash or the end of the tag. -/
theorem run_tag (hname : isName name) (has : ∀ a ∈ as, isName a.1) (hc : c = '/' ∨ c = '>') (rest : List Char) :
    run ⟨ts, .angle⟩ (name.toList ++ ((writeAttributes as).toList ++ c :: rest)) =
      run ⟨ts, .part name (as.map fun a => (a.1, escape a.2))⟩ (c :: rest) := by
  have hmark : isNameCharacter c = false := by
    obtain rfl | rfl := hc <;> decide
  cases as with
  | nil => exact run_tagName hname hmark rest
  | cons a as =>
    have hwritten : writeAttributes (a :: as) =
        " " ++ (a.1 ++ "=\"" ++ escape a.2 ++ "\"" ++ writeAttributes as) := by
      rw [writeAttributes, List.map_cons, String.join_cons, writeAttribute]
      simp only [String.append_assoc, writeAttributes]
    have hspace : (writeAttributes (a :: as)).toList ++ c :: rest =
        ' ' :: ((a.1 ++ "=\"" ++ escape a.2 ++ "\"" ++ writeAttributes as).toList ++ c :: rest) := by
      rw [hwritten, String.toList_append]
      rfl
    rw [hspace, run_tagName hname (by decide), ← hspace, run_attributes has, List.nil_append]

/-! ### Tokens -/

/-- The reader behind some tokens: at the start, or in the last one's content. -/
def behind (ts : List Token) : Lexer :=
  match ts.getLast? with
  | none => ⟨[], .start⟩
  | some t => ⟨ts.dropLast, .content t.tag t.content.toList⟩

theorem behind_append (t : Token) : behind (ts ++ [t]) = ⟨ts, .content t.tag t.content.toList⟩ := by
  simp [behind]

theorem step_behind : step (behind ts) '<' = some ⟨ts, .angle⟩ := by
  induction ts using List.reverseRecOn with
  | nil => rfl
  | append_singleton ts t _ =>
    rw [behind_append]
    show some (Lexer.mk (ts ++ [⟨t.tag, String.ofList t.content.toList⟩]) .angle) = _
    rw [String.ofList_toList]

theorem finish_behind (h : ts ≠ []) : finish (behind ts) = some ts := by
  induction ts using List.reverseRecOn with
  | nil => exact absurd rfl h
  | append_singleton ts t _ =>
    rw [behind_append]
    show some (ts ++ [⟨t.tag, String.ofList t.content.toList⟩]) = _
    rw [String.ofList_toList]

/-- A written token is read as one, its texts as they are written. -/
theorem run_token {t : Token} (h : t.tag.Named) (rest : List Char) :
    run (behind ts) (t.write ++ rest) = run (behind (ts ++ [t.mapTexts escape])) rest := by
  obtain ⟨tag, content⟩ := t
  rw [behind_append, Token.write, List.append_assoc]
  cases tag with
  | opening name as =>
    have hends : step ⟨ts, .part name (as.map fun a => (a.1, escape a.2))⟩ '>' =
        some ⟨ts, .content (.opening name (as.map fun a => (a.1, escape a.2))) []⟩ := rfl
    simp only [Tag.write, List.cons_append, List.append_assoc, List.nil_append]
    rw [run_cons, step_behind, Option.bind_some, run_tag h.1 h.2 (.inr rfl), run_cons, hends, Option.bind_some,
      run_content]
    rfl
  | empty name as =>
    have hslash : step ⟨ts, .part name (as.map fun a => (a.1, escape a.2))⟩ '/' =
        some ⟨ts, .slash name (as.map fun a => (a.1, escape a.2))⟩ := rfl
    have hends : step ⟨ts, .slash name (as.map fun a => (a.1, escape a.2))⟩ '>' =
        some ⟨ts, .content (.empty name (as.map fun a => (a.1, escape a.2))) []⟩ := rfl
    simp only [Tag.write, List.cons_append, List.append_assoc, List.nil_append]
    rw [run_cons, step_behind, Option.bind_some, run_tag h.1 h.2 (.inl rfl), run_cons, hslash, Option.bind_some,
      run_cons, hends, Option.bind_some, run_content]
    rfl
  | closing name =>
    have hslash : step ⟨ts, .angle⟩ '/' = some ⟨ts, .closingName []⟩ := rfl
    have hends : step ⟨ts, .closingName name.toList⟩ '>' = some ⟨ts, .content (.closing name) []⟩ := by
      show some (Lexer.mk ts (.content (.closing (String.ofList name.toList)) [])) = _
      rw [String.ofList_toList]
    have hname : run ⟨ts, .closingName []⟩ (name.toList ++ '>' :: ((escape content).toList ++ rest)) =
        run ⟨ts, .closingName name.toList⟩ ('>' :: ((escape content).toList ++ rest)) := by
      rw [run_extend .closingName ?_ [] _, List.nil_append]
      intro c hc text
      show (if isNameCharacter c then _ else _) = _
      rw [if_pos (nameCharacter_of_isName h hc)]
    simp only [Tag.write, List.cons_append, List.append_assoc, List.nil_append]
    rw [run_cons, step_behind, Option.bind_some, run_cons, hslash, Option.bind_some, hname, run_cons, hends,
      Option.bind_some, run_content]
    rfl

theorem run_tokens {us : List Token} (h : ∀ t ∈ us, t.tag.Named) :
    run (behind ts) (us.flatMap Token.write) = some (behind (ts ++ us.map (Token.mapTexts escape))) := by
  induction us generalizing ts with
  | nil =>
    rw [List.map_nil, List.append_nil]
    rfl
  | cons t us ih =>
    rw [List.flatMap_cons, run_token (h t (List.mem_cons_self ..)), ih fun u hu => h u (List.mem_cons_of_mem _ hu),
      List.append_assoc]
    rfl

end Lexer

/-! ## Whole documents -/

variable {d : Document}

theorem Element.Named.tokens {e : Element} (h : e.Named) : ∀ t ∈ e.tokens, t.tag.Named := by
  obtain ⟨name, attributes, text⟩ := e
  intro t ht
  cases text with
  | none =>
    obtain rfl := List.mem_singleton.mp ht
    exact ⟨h.name, h.attributes⟩
  | some text =>
    obtain rfl | ht := List.mem_cons.mp ht
    · exact ⟨h.name, h.attributes⟩
    · obtain rfl := List.mem_singleton.mp ht
      exact h.name

theorem Document.Named.tokens (h : d.Named) : ∀ t ∈ d.tokens, t.tag.Named := by
  intro t ht
  simp only [Document.tokens, List.mem_append, List.mem_cons, List.mem_flatMap, List.not_mem_nil, or_false] at ht
  obtain (rfl | ⟨e, he, ht⟩) | rfl := ht
  · exact ⟨h.name, h.attributes⟩
  · exact (h.elements e he).tokens t ht
  · exact h.name

theorem Tag.unescape_escape (t : Tag) : (t.mapTexts escape).mapTexts unescape = t := by
  cases t <;> simp [Tag.mapTexts, Markup.unescape_escape, Function.comp_def]

theorem Token.unescape_escape (t : Token) : (t.mapTexts escape).mapTexts unescape = t := by
  rw [Token.mapTexts, Token.mapTexts, Tag.unescape_escape, Markup.unescape_escape]

/-- A written document is read as its own tokens, with every text escaped. -/
theorem tokens?_write (h : d.Named) : tokens? d.write = some (d.tokens.map (Token.mapTexts escape)) := by
  have hrun : Lexer.run ⟨[], .start⟩ d.write.toList = some (Lexer.behind (d.tokens.map (Token.mapTexts escape))) := by
    rw [toList_writeDocument]
    show Lexer.run (Lexer.behind []) _ = some (Lexer.behind ([] ++ _))
    exact Lexer.run_tokens h.tokens
  have hsome : d.tokens.map (Token.mapTexts escape) ≠ [] := by simp [Document.tokens]
  rw [tokens?, hrun, Option.bind_some, Lexer.finish_behind hsome]

theorem read?_write (h : d.Named) : read? d.write = some d.tokens := by
  rw [read?, tokens?_write h, Option.map_some, List.map_map]
  exact congrArg some (List.map_congr_left (g := id) (fun t _ => Token.unescape_escape t) |>.trans (List.map_id _))

end SequenceDiagram.Markup
