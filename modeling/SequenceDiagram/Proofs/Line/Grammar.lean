/-
  SequenceDiagram.Proofs.Line.Grammar — a line is accepted exactly when it has a form.

  Reading a line and writing a form are inverse: every form is read as the statement it
  says, and every accepted line is a form written out. A form is also unique, so a line
  has one reading, down to where each gap begins (`MessageForm.ext_chars`,
  `NoteForm.ext_chars`).

  Forms of different kinds exclude each other but for one pair: a message may begin with
  a keyword (`alt ->B: x`), and is then a message. `Says` writes this down, and
  `statement?_eq_some_iff` ties it to the reader.
-/

import SequenceDiagram.Proofs.Line.Reading

namespace SequenceDiagram.Line

open Text (isAlphanumeric isGap trim)

/-! ## Messages -/

theorem stops_arrow {b : Gap} {a : Arrow} {s : List Char} : Stops isAlphanumeric (b.chars ++ (a.token ++ s)) :=
  stops_gap_append b (fun _ => not_alphanumeric_of_gap) stops_token.2

theorem stops_afterArrow {b : Gap} {n : Name} {s : List Char} : Stops isMark (b.chars ++ (n.chars ++ s)) :=
  stops_gap_append b (fun _ => not_mark_of_gap) (stops_name_append n s fun _ => not_mark_of_alphanumeric)

theorem stops_name {n : Name} {s : List Char} : Stops isGap (n.chars ++ s) :=
  stops_name_append n s fun _ => not_gap_of_alphanumeric

theorem message?_chars (m : MessageForm) : message? m.chars = some m.statement := by
  have ht : colonText? (m.beforeColon.chars ++ ':' :: m.rest) = some (String.ofList (trim m.rest)) :=
    colonText?_eq_some_iff.mpr ⟨m.beforeColon, m.rest, rfl, rfl⟩
  simp only [message?, MessageForm.chars, Option.bind_eq_bind, Option.pure_def,
    name?_run m.source stops_arrow, Option.bind_some, skipGap_run m.beforeArrow stops_token.1,
    arrow?_run m.arrow stops_afterArrow, skipGap_run m.afterArrow stops_name,
    name?_run m.destination stops_colon, ht]
  rfl

theorem message?_spec {s : List Char} {st : Statement} (h : message? s = some st) :
    ∃ m : MessageForm, m.chars = s ∧ m.statement = st := by
  simp only [message?, Option.bind_eq_bind, Option.bind_eq_some_iff, Option.pure_def, Option.some.injEq] at h
  obtain ⟨⟨w, s₁⟩, hsource, ⟨a, s₂⟩, harrow, ⟨w', s₃⟩, hdestination, t, ht, rfl⟩ := h
  obtain ⟨source, rfl, rfl, -⟩ := name?_spec hsource
  obtain ⟨b₁, hb₁, -⟩ := skipGap_spec s₁
  obtain ⟨b₂, hb₂, -⟩ := skipGap_spec s₂
  obtain ⟨destination, rfl, hs₃, -⟩ := name?_spec hdestination
  obtain ⟨b₃, rest, rfl, rfl⟩ := colonText?_eq_some_iff.mp ht
  refine ⟨⟨source, b₁, a, b₂, destination, b₃, rest⟩, ?_, rfl⟩
  rw [MessageForm.chars, ← hs₃, ← hb₂, ← arrow?_spec harrow, ← hb₁]

/-- A line is a message in at most one way. -/
theorem MessageForm.ext_chars {m m' : MessageForm} (h : m.chars = m'.chars) : m = m' := by
  obtain ⟨hsource, h⟩ := name_inj stops_arrow stops_arrow h
  obtain ⟨hb₁, h⟩ := gap_inj stops_token.1 stops_token.1 h
  obtain ⟨harrow, h⟩ := token_inj stops_afterArrow stops_afterArrow h
  obtain ⟨hb₂, h⟩ := gap_inj stops_name stops_name h
  obtain ⟨hdestination, h⟩ := name_inj stops_colon stops_colon h
  obtain ⟨hb₃, h⟩ := gap_inj (stops_cons.mpr (by decide)) (stops_cons.mpr (by decide)) h
  exact MessageForm.ext hsource hb₁ harrow hb₂ hdestination hb₃ (List.cons.inj h).2

/-! ## Lists of names -/

theorem FurtherName.chars_append (f : FurtherName) (s : List Char) :
    f.chars ++ s = f.beforeComma.chars ++ ',' :: (f.afterComma.chars ++ (f.name.chars ++ s)) := by
  simp [FurtherName.chars]

theorem stops_further (fs : List FurtherName) {s : List Char} (hs : Stops isAlphanumeric s) :
    Stops isAlphanumeric (fs.flatMap FurtherName.chars ++ s) := by
  cases fs with
  | nil => exact hs
  | cons f fs =>
    rw [List.flatMap_cons, List.append_assoc, FurtherName.chars_append]
    exact stops_gap_append f.beforeComma (fun _ => not_alphanumeric_of_gap) (stops_cons.mpr (by decide))

theorem nextName?_run (f : FurtherName) {s : List Char} (hs : Stops isAlphanumeric s) :
    nextName? (f.chars ++ s) = some (f.name.chars, s) := by
  have hc : Stops isGap (',' :: (f.afterComma.chars ++ (f.name.chars ++ s))) := stops_cons.mpr (by decide)
  rw [FurtherName.chars_append]
  simp only [nextName?, skipGap_run f.beforeComma hc, skipGap_run f.afterComma stops_name, name?_run f.name hs]

theorem nextName?_spec {s w r : List Char} (h : nextName? s = some (w, r)) :
    ∃ f : FurtherName, f.name.chars = w ∧ s = f.chars ++ r := by
  obtain ⟨b, hb, -⟩ := skipGap_spec s
  unfold nextName? at h
  split at h
  · rename_i s₁ hs₁
    obtain ⟨b', hb', -⟩ := skipGap_spec s₁
    obtain ⟨n, rfl, hn, -⟩ := name?_spec h
    exact ⟨⟨b, b', n⟩, rfl, by rw [FurtherName.chars_append, ← hn, ← hb', ← hs₁, ← hb]⟩
  · cases h

/-- Before the colon a list of names is over. -/
theorem nextName?_colon (b : Gap) (s : List Char) : nextName? (b.chars ++ ':' :: s) = none := by
  have hc : Stops isGap (':' :: s) := stops_cons.mpr (by decide)
  simp [nextName?, skipGap_run b hc]

theorem moreNames_run (fs : List FurtherName) {s : List Char} (hs : Stops isAlphanumeric s) (hn : nextName? s = none) :
    moreNames (fs.flatMap FurtherName.chars ++ s) = (fs.map (·.name.chars), s) := by
  induction fs with
  | nil =>
    rw [List.flatMap_nil, List.nil_append, moreNames]
    split
    · rfl
    · rename_i h; rw [hn] at h; cases h
  | cons f fs ih =>
    have hf : nextName? ((f :: fs).flatMap FurtherName.chars ++ s) =
        some (f.name.chars, fs.flatMap FurtherName.chars ++ s) := by
      rw [List.flatMap_cons, List.append_assoc]
      exact nextName?_run f (stops_further fs hs)
    rw [moreNames]
    split
    · rename_i h; rw [hf] at h; cases h
    · rename_i h
      rw [hf] at h
      cases h
      rw [ih]
      rfl

theorem moreNames_spec (s : List Char) :
    ∃ fs : List FurtherName, s = fs.flatMap FurtherName.chars ++ (moreNames s).2 ∧
      (moreNames s).1 = fs.map (·.name.chars) := by
  fun_induction moreNames s with
  | case1 s h => exact ⟨[], rfl, rfl⟩
  | case2 s n r h ns t heq ih =>
    obtain ⟨f, rfl, rfl⟩ := nextName?_spec h
    obtain ⟨fs, hr, hns⟩ := ih
    rw [heq] at hr hns
    refine ⟨f :: fs, ?_, by rw [List.map_cons, ← hns]⟩
    rw [List.flatMap_cons, List.append_assoc, ← hr]

theorem further_inj {fs fs' : List FurtherName} {s s' : List Char} (hs : Stops isAlphanumeric s)
    (hs' : Stops isAlphanumeric s') (hn : nextName? s = none) (hn' : nextName? s' = none)
    (h : fs.flatMap FurtherName.chars ++ s = fs'.flatMap FurtherName.chars ++ s') : fs = fs' ∧ s = s' := by
  have hrest : s = s' := by
    have hr := moreNames_run fs hs hn
    rw [h, moreNames_run fs' hs' hn'] at hr
    exact (Prod.mk.inj hr).2.symm
  subst hrest
  refine ⟨?_, rfl⟩
  induction fs generalizing fs' with
  | nil =>
    cases fs' with
    | nil => rfl
    | cons f' fs' =>
      rw [List.flatMap_nil, List.nil_append, List.flatMap_cons, List.append_assoc] at h
      rw [h, nextName?_run f' (stops_further fs' hs)] at hn
      cases hn
  | cons f fs ih =>
    cases fs' with
    | nil =>
      rw [List.flatMap_nil, List.nil_append, List.flatMap_cons, List.append_assoc] at h
      rw [← h, nextName?_run f (stops_further fs hs)] at hn'
      cases hn'
    | cons f' fs' =>
      simp only [List.flatMap_cons, List.append_assoc, List.cons_append, FurtherName.chars_append] at h
      obtain ⟨hb, h⟩ := gap_inj (stops_cons.mpr (by decide)) (stops_cons.mpr (by decide)) h
      obtain ⟨hb', h⟩ := gap_inj stops_name stops_name (List.cons.inj h).2
      obtain ⟨hname, h⟩ := name_inj (stops_further fs hs) (stops_further fs' hs) h
      rw [FurtherName.ext hb hb' hname, ih h]

theorem names?_run (l : NameList) {s : List Char} (hs : Stops isAlphanumeric s) (hn : nextName? s = none) :
    names? (l.chars ++ s) = some (l.names, s) := by
  simp only [names?, NameList.chars, List.append_assoc, name?_run l.first (stops_further _ hs), moreNames_run _ hs hn,
    Option.bind_eq_bind, Option.bind_some, Option.pure_def, NameList.names, List.map_cons, List.map_map]
  rfl

theorem names?_spec {s r : List Char} {ns : List String} (h : names? s = some (ns, r)) :
    ∃ l : NameList, l.names = ns ∧ s = l.chars ++ r := by
  simp only [names?, Option.bind_eq_bind, Option.bind_eq_some_iff, Option.pure_def, Option.some.injEq,
    Prod.mk.injEq] at h
  obtain ⟨⟨w, s₁⟩, hfirst, rfl, rfl⟩ := h
  obtain ⟨n, rfl, rfl, -⟩ := name?_spec hfirst
  obtain ⟨fs, hs₁, hfs⟩ := moreNames_spec s₁
  refine ⟨⟨n, fs⟩, ?_, ?_⟩
  · simp [NameList.names, hfs]
  · rw [NameList.chars, List.append_assoc, ← hs₁]

theorem NameList.length_names (l : NameList) : l.names.length = l.further.length + 1 := by
  simp [NameList.names]

/-! ## Notes -/

theorem Place.stops {q : Char → Bool} (p : Place) {s : List Char} (hq : ∀ d, q d = true → d.toLower = d)
    (ho : q 'o' = false) (hr : q 'r' = false) (hl : q 'l' = false) : Stops q (p.chars ++ s) := by
  rcases p with word | ⟨word, space, of⟩ | ⟨word, space, of⟩
  · exact stops_word word rfl hq ho
  · rw [Place.chars, List.append_assoc]
    exact stops_word word rfl hq hr
  · rw [Place.chars, List.append_assoc]
    exact stops_word word rfl hq hl

theorem stops_place {p : Place} {s : List Char} : Stops isGap (p.chars ++ s) :=
  p.stops (fun _ => toLower_of_gap) (by decide) (by decide) (by decide)

theorem stops_of (w : Word "of") {s : List Char} : Stops isGap (w.chars ++ s) :=
  stops_word w rfl (fun _ => toLower_of_gap) (by decide)

/-- A keyword that neither begins nor continues the one that stands there is not read. -/
theorem keyword?_eq_none {k k' : String} (w : Word k) (s : List Char)
    (hk : ¬ k.toList <+: k'.toList ∧ ¬ k'.toList <+: k.toList) : keyword? k'.toList (w.chars ++ s) = none := by
  cases h : keyword? k'.toList (w.chars ++ s) with
  | none => rfl
  | some r =>
    obtain ⟨w', hw'⟩ := keyword?_eq_some_iff.mp h
    exact ((word_begins_word hw').elim hk.1 hk.2).elim

theorem side?_run (p : Place) (s : List Char) : side? (p.chars ++ s) = some (p.side, s) := by
  rcases p with word | ⟨word, space, of⟩ | ⟨word, space, of⟩
  · simp only [side?, Place.chars, keyword?_run word s]
    rfl
  · have hover : keyword? "over".toList (word.chars ++ (space.chars ++ (of.chars ++ s))) = none :=
      keyword?_eq_none word _ (by decide)
    simp only [side?, Place.chars, List.append_assoc, hover, keyword?_run word, gap?_run space (stops_of of),
      Option.bind_eq_bind, Option.bind_some, keyword?_run of]
    rfl
  · have hover : keyword? "over".toList (word.chars ++ (space.chars ++ (of.chars ++ s))) = none :=
      keyword?_eq_none word _ (by decide)
    have hright : keyword? "right".toList (word.chars ++ (space.chars ++ (of.chars ++ s))) = none :=
      keyword?_eq_none word _ (by decide)
    simp only [side?, Place.chars, List.append_assoc, hover, hright, keyword?_run word, gap?_run space (stops_of of),
      Option.bind_eq_bind, Option.bind_some, keyword?_run of]
    rfl

theorem side?_spec {s r : List Char} {side : Side} (h : side? s = some (side, r)) :
    ∃ p : Place, p.side = side ∧ s = p.chars ++ r := by
  unfold side? at h
  split at h
  · rename_i t ht
    cases h
    obtain ⟨word, rfl⟩ := keyword?_eq_some_iff.mp ht
    exact ⟨.over word, rfl, rfl⟩
  · split at h
    · rename_i t ht
      obtain ⟨word, rfl⟩ := keyword?_eq_some_iff.mp ht
      simp only [Option.bind_eq_bind, Option.bind_eq_some_iff, Option.pure_def, Option.some.injEq, Prod.mk.injEq] at h
      obtain ⟨s₁, hgap, s₂, hof, rfl, rfl⟩ := h
      obtain ⟨space, rfl, -⟩ := gap?_spec hgap
      obtain ⟨of, rfl⟩ := keyword?_eq_some_iff.mp hof
      exact ⟨.right word space of, rfl, by simp [Place.chars]⟩
    · simp only [Option.bind_eq_bind, Option.bind_eq_some_iff, Option.pure_def, Option.some.injEq, Prod.mk.injEq] at h
      obtain ⟨s₁, ht, s₂, hgap, s₃, hof, rfl, rfl⟩ := h
      obtain ⟨word, rfl⟩ := keyword?_eq_some_iff.mp ht
      obtain ⟨space, rfl, -⟩ := gap?_spec hgap
      obtain ⟨of, rfl⟩ := keyword?_eq_some_iff.mp hof
      exact ⟨.left word space of, rfl, by simp [Place.chars]⟩

/-- What `right of` and `left of` have in common. -/
theorem word_of_inj {k : String} {w w' : Word k} {b b' : Space} {o o' : Word "of"}
    (h : w.chars ++ (b.chars ++ o.chars) = w'.chars ++ (b'.chars ++ o'.chars)) : w = w' ∧ b = b' ∧ o = o' := by
  have hstops : ∀ v : Word "of", Stops isGap v.chars := fun v => by simpa using stops_of v (s := [])
  obtain ⟨hword, h⟩ := word_inj h
  obtain ⟨hspace, h⟩ := space_inj (hstops o) (hstops o') h
  exact ⟨hword, hspace, Word.ext h⟩

theorem place_inj {p p' : Place} {s s' : List Char} (h : p.chars ++ s = p'.chars ++ s') : p = p' ∧ s = s' := by
  have hr := side?_run p s
  rw [h, side?_run p' s'] at hr
  simp only [Option.some.injEq, Prod.mk.injEq] at hr
  obtain ⟨hside, rfl⟩ := hr
  have hchars : p.chars = p'.chars := List.append_cancel_right h
  refine ⟨?_, rfl⟩
  cases p <;> cases p' <;> cases hside
  case over.over => rw [Word.ext hchars]
  case right.right => obtain ⟨rfl, rfl, rfl⟩ := word_of_inj hchars; rfl
  case left.left => obtain ⟨rfl, rfl, rfl⟩ := word_of_inj hchars; rfl

theorem note?_chars (n : NoteForm) : note? n.chars = some n.statement := by
  have ht : colonText? (n.beforeColon.chars ++ ':' :: n.rest) = some (String.ofList (trim n.rest)) :=
    colonText?_eq_some_iff.mpr ⟨n.beforeColon, n.rest, rfl, rfl⟩
  have hsingle : ¬ (n.place.side ≠ .over ∧ n.names.names.length ≠ 1) := by
    intro h
    obtain ⟨hside, hlength⟩ := h
    rw [NameList.length_names, n.single hside] at hlength
    exact hlength rfl
  have hnames : Stops isGap (n.names.chars ++ (n.beforeColon.chars ++ ':' :: n.rest)) := by
    rw [NameList.chars, List.append_assoc]; exact stops_name
  simp only [note?, NoteForm.chars, Option.bind_eq_bind, Option.bind_some, Option.pure_def, keyword?_run n.note,
    gap?_run n.afterNote stops_place, side?_run, gap?_run n.afterPlace hnames,
    names?_run n.names stops_colon (nextName?_colon ..), if_neg hsingle, ht]
  rfl

theorem note?_spec {s : List Char} {st : Statement} (h : note? s = some st) :
    ∃ n : NoteForm, n.chars = s ∧ n.statement = st := by
  simp only [note?, Option.bind_eq_bind, Option.bind_eq_some_iff, Option.pure_def] at h
  obtain ⟨s₁, hnote, s₂, hgap, ⟨side, s₃⟩, hside, s₄, hgap', ⟨names, s₅⟩, hnames, h⟩ := h
  obtain ⟨note, rfl⟩ := keyword?_eq_some_iff.mp hnote
  obtain ⟨b, rfl, -⟩ := gap?_spec hgap
  obtain ⟨place, rfl, rfl⟩ := side?_spec hside
  obtain ⟨b', rfl, -⟩ := gap?_spec hgap'
  obtain ⟨l, rfl, rfl⟩ := names?_spec hnames
  split at h
  · simp at h
  · rename_i hsingle
    simp only [Option.bind_eq_some_iff, Option.some.injEq] at h
    obtain ⟨t, ht, rfl⟩ := h
    obtain ⟨b'', rest, rfl, rfl⟩ := colonText?_eq_some_iff.mp ht
    refine ⟨⟨note, b, place, b', l, b'', rest, fun hside => ?_⟩, rfl, rfl⟩
    have hlength : l.names.length = 1 := Decidable.byContradiction fun hne => hsingle ⟨hside, hne⟩
    rw [NameList.length_names] at hlength
    exact List.eq_nil_of_length_eq_zero (by omega)

/-- A line is a note in at most one way. -/
theorem NoteForm.ext_chars {n n' : NoteForm} (h : n.chars = n'.chars) : n = n' := by
  simp only [NoteForm.chars, NameList.chars, List.append_assoc] at h
  obtain ⟨hnote, h⟩ := word_inj h
  obtain ⟨hb, h⟩ := space_inj stops_place stops_place h
  obtain ⟨hplace, h⟩ := place_inj h
  obtain ⟨hb', h⟩ := space_inj stops_name stops_name h
  obtain ⟨hfirst, h⟩ := name_inj (stops_further _ stops_colon) (stops_further _ stops_colon) h
  obtain ⟨hfurther, h⟩ := further_inj stops_colon stops_colon (nextName?_colon ..) (nextName?_colon ..) h
  obtain ⟨hb'', h⟩ := gap_inj (stops_cons.mpr (by decide)) (stops_cons.mpr (by decide)) h
  exact NoteForm.ext hnote hb hplace hb' (NameList.ext hfirst hfurther) hb'' (List.cons.inj h).2

/-! ## Keywords -/

theorem keywordForm_iff {keyword : String} {s : List Char} {t : String} :
    (keyword? keyword.toList s).bind keywordText? = some t ↔ ∃ k : KeywordForm keyword, k.chars = s ∧ k.text = t := by
  rw [Option.bind_eq_some_iff]
  constructor
  · intro h
    obtain ⟨r, hr, ht⟩ := h
    obtain ⟨word, rfl⟩ := keyword?_eq_some_iff.mp hr
    obtain ⟨gap, rest, hapart, rfl, rfl⟩ := keywordText?_eq_some_iff.mp ht
    exact ⟨⟨word, gap, rest, hapart⟩, rfl, rfl⟩
  · intro h
    obtain ⟨k, rfl, rfl⟩ := h
    exact ⟨_, keyword?_run k.word _, keywordText?_eq_some_iff.mpr ⟨k.gap, k.rest, k.apart, rfl, rfl⟩⟩

theorem blockStart?_eq_some_iff {kind : BlockKind} {s : List Char} {st : Statement} :
    blockStart? kind s = some st ↔ ∃ k : KeywordForm kind.keyword, k.chars = s ∧ .blockStart kind k.text = st := by
  have h : blockStart? kind s = ((keyword? kind.keyword.toList s).bind keywordText?).map (.blockStart kind) := by
    cases hr : keyword? kind.keyword.toList s with
    | none => simp [blockStart?, hr]
    | some r => cases ht : keywordText? r <;> simp [blockStart?, hr, ht]
  simp only [h, Option.map_eq_some_iff, keywordForm_iff]
  exact ⟨fun ⟨_, ⟨k, hk, ht⟩, hst⟩ => ⟨k, hk, by rw [ht, hst]⟩, fun ⟨k, hk, hst⟩ => ⟨_, ⟨k, hk, rfl⟩, hst⟩⟩

theorem otherwise?_eq_some_iff {s : List Char} {st : Statement} :
    otherwise? s = some st ↔ ∃ k : KeywordForm "else", k.chars = s ∧ .otherwise k.text = st := by
  have h : otherwise? s = ((keyword? "else".toList s).bind keywordText?).map .otherwise := by
    cases hr : keyword? "else".toList s with
    | none => simp only [otherwise?, hr]; rfl
    | some r => cases ht : keywordText? r <;> (simp only [otherwise?, hr]; simp [ht])
  simp only [h, Option.map_eq_some_iff, keywordForm_iff]
  exact ⟨fun ⟨_, ⟨k, hk, ht⟩, hst⟩ => ⟨k, hk, by rw [ht, hst]⟩, fun ⟨k, hk, hst⟩ => ⟨_, ⟨k, hk, rfl⟩, hst⟩⟩

theorem blockEnd?_eq_some_iff {s : List Char} {st : Statement} :
    blockEnd? s = some st ↔ (∃ w : Word "end", w.chars = s) ∧ .blockEnd = st := by
  have h : keyword? "end".toList s = some [] ↔ ∃ w : Word "end", w.chars = s := by
    rw [keyword?_eq_some_iff]
    exact exists_congr fun w => by rw [List.append_nil, eq_comm]
  rw [blockEnd?, ← h]
  split <;> simp_all

/-! ## A line as a whole -/

/-- What a line says: the statement of its form, where a message comes first. -/
inductive Says (s : List Char) : Statement → Prop
  | message (m : MessageForm) : m.chars = s → Says s m.statement
  | note (n : NoteForm) : n.chars = s → Says s n.statement
  | blockStart (kind : BlockKind) (k : KeywordForm kind.keyword) : k.chars = s → (∀ m : MessageForm, m.chars ≠ s) →
      Says s (.blockStart kind k.text)
  | otherwise (k : KeywordForm "else") : k.chars = s → (∀ m : MessageForm, m.chars ≠ s) → Says s (.otherwise k.text)
  | blockEnd (w : Word "end") : w.chars = s → Says s .blockEnd

theorem message?_eq_none_iff {s : List Char} : message? s = none ↔ ∀ m : MessageForm, m.chars ≠ s := by
  constructor
  · intro h m hm
    obtain rfl := hm
    rw [message?_chars] at h
    cases h
  · intro h
    cases hm : message? s with
    | none => rfl
    | some st =>
      obtain ⟨m, hs, -⟩ := message?_spec hm
      exact absurd hs (h m)

theorem note?_eq_none {s : List Char} (h : keyword? "note".toList s = none) : note? s = none := by
  simp only [note?, h]
  rfl

theorem blockStart?_eq_none {kind : BlockKind} {s : List Char} (h : keyword? kind.keyword.toList s = none) :
    blockStart? kind s = none := by
  simp [blockStart?, h]

theorem otherwise?_eq_none {s : List Char} (h : keyword? "else".toList s = none) : otherwise? s = none := by
  simp only [otherwise?, h]
  rfl

theorem alphanumeric_of_toLower {c : Char} (h : isAlphanumeric c.toLower = true) : isAlphanumeric c = true := by
  have hcapital : ∀ n : Fin 91, 65 ≤ n.val → Text.inRanges n.val Text.alphanumericRanges = true := by decide
  unfold Char.toLower at h
  split at h
  · rename_i hc
    exact hcapital ⟨c.toNat, Nat.lt_succ_of_le hc.2⟩ hc.1
  · exact h

/-- A keyword is a name too. -/
def Word.name {keyword : String} (w : Word keyword) (hne : keyword.toList ≠ [])
    (h : keyword.toList.all isAlphanumeric = true) : Name where
  chars := w.chars
  ne_nil := fun hw => hne (by rw [← w.lower, hw]; rfl)
  isAlphanumeric := fun c hc =>
    alphanumeric_of_toLower (List.all_eq_true.mp h _ (by rw [← w.lower]; exact List.mem_map_of_mem hc))

/-- A line is no message when another word than an arrow follows its first word. -/
theorem message?_word_space {keyword : String} (w : Word keyword) (b : Space) {s : List Char}
    (hne : keyword.toList ≠ []) (hw : keyword.toList.all isAlphanumeric = true) (hgap : Stops isGap s)
    (hsign : Stops (· == '-') s) : message? (w.chars ++ (b.chars ++ s)) = none := by
  have hname : name? (w.chars ++ (b.chars ++ s)) = some (w.chars, b.chars ++ s) :=
    name?_run (w.name hne hw) (stops_space_append b s fun _ => not_alphanumeric_of_gap)
  have hskip : skipGap (b.chars ++ s) = s := skipGap_run b.gap hgap
  simp only [message?, hname, hskip, arrow?_eq_none hsign, Option.bind_eq_bind, Option.bind_some, Option.bind_none]

theorem message?_note (n : NoteForm) : message? n.chars = none :=
  message?_word_space n.note n.afterNote (by decide) (by decide) stops_place
    (n.place.stops (fun d hd => by rw [eq_of_beq hd]; decide) (by decide) (by decide) (by decide))

theorem message?_blockEnd (w : Word "end") : message? w.chars = none := by
  have hname := name?_run (w.name (by decide) (by decide)) (s := []) (by simp [Stops])
  simp only [Word.name, List.append_nil] at hname
  simp only [message?, hname, Option.bind_eq_bind, Option.bind_some]
  rfl

/-- The reader accepts exactly what has a form, as the statement of that form. -/
theorem statement?_eq_some_iff {s : List Char} {st : Statement} : statement? s = some st ↔ Says s st := by
  simp only [statement?, Option.orElse_eq_orElse, Option.orElse_eq_or, Option.or_eq_some_iff]
  constructor
  · intro hor
    rcases hor with h | ⟨hm, h | ⟨-, h | ⟨-, h | ⟨-, h | ⟨-, h⟩⟩⟩⟩⟩
    · obtain ⟨m, hs, rfl⟩ := message?_spec h
      exact .message m hs
    · obtain ⟨n, hs, rfl⟩ := note?_spec h
      exact .note n hs
    · obtain ⟨k, hs, rfl⟩ := blockStart?_eq_some_iff.mp h
      exact .blockStart .alt k hs (message?_eq_none_iff.mp hm)
    · obtain ⟨k, hs, rfl⟩ := blockStart?_eq_some_iff.mp h
      exact .blockStart .loop k hs (message?_eq_none_iff.mp hm)
    · obtain ⟨k, hs, rfl⟩ := otherwise?_eq_some_iff.mp h
      exact .otherwise k hs (message?_eq_none_iff.mp hm)
    · obtain ⟨⟨w, hs⟩, rfl⟩ := blockEnd?_eq_some_iff.mp h
      exact .blockEnd w hs
  · intro hor
    rcases hor with ⟨m, rfl⟩ | ⟨n, rfl⟩ | ⟨kind, k, rfl, hm⟩ | ⟨k, rfl, hm⟩ | ⟨w, rfl⟩
    · exact .inl (message?_chars m)
    · exact .inr ⟨message?_note n, .inl (note?_chars n)⟩
    · have hm := message?_eq_none_iff.mpr hm
      have hb : blockStart? kind k.chars = some (.blockStart kind k.text) := blockStart?_eq_some_iff.mpr ⟨k, rfl, rfl⟩
      cases kind with
      | alt =>
        have hn : note? k.chars = none := note?_eq_none (keyword?_eq_none k.word _ (by decide))
        exact .inr ⟨hm, .inr ⟨hn, .inl hb⟩⟩
      | loop =>
        have hn : note? k.chars = none := note?_eq_none (keyword?_eq_none k.word _ (by decide))
        have ha : blockStart? .alt k.chars = none := blockStart?_eq_none (keyword?_eq_none k.word _ (by decide))
        exact .inr ⟨hm, .inr ⟨hn, .inr ⟨ha, .inl hb⟩⟩⟩
    · have hm := message?_eq_none_iff.mpr hm
      have hn : note? k.chars = none := note?_eq_none (keyword?_eq_none k.word _ (by decide))
      have hb (kind : BlockKind) : blockStart? kind k.chars = none :=
        blockStart?_eq_none (keyword?_eq_none k.word _ (by cases kind <;> decide))
      have ho : otherwise? k.chars = some (.otherwise k.text) := otherwise?_eq_some_iff.mpr ⟨k, rfl, rfl⟩
      exact .inr ⟨hm, .inr ⟨hn, .inr ⟨hb .alt, .inr ⟨hb .loop, .inl ho⟩⟩⟩⟩
    · have hnone (keyword : String) (hk : ¬ "end".toList <+: keyword.toList ∧ ¬ keyword.toList <+: "end".toList) :
          keyword? keyword.toList w.chars = none := by
        simpa using keyword?_eq_none w [] hk
      have hn : note? w.chars = none := note?_eq_none (hnone "note" (by decide))
      have hb (kind : BlockKind) : blockStart? kind w.chars = none :=
        blockStart?_eq_none (hnone kind.keyword (by cases kind <;> decide))
      have ho : otherwise? w.chars = none := otherwise?_eq_none (hnone "else" (by decide))
      have he : blockEnd? w.chars = some .blockEnd := blockEnd?_eq_some_iff.mpr ⟨⟨w, rfl⟩, rfl⟩
      exact .inr ⟨message?_blockEnd w, .inr ⟨hn, .inr ⟨hb .alt, .inr ⟨hb .loop, .inr ⟨ho, he⟩⟩⟩⟩⟩

theorem not_says_nil (st : Statement) : ¬ Says [] st := by
  have h : statement? [] = none := by decide
  rw [← statement?_eq_some_iff, h]
  nofun

theorem says_message_iff {s : List Char} {source : String} {arrow : Arrow} {destination text : String} :
    Says s (.message source arrow destination text) ↔
      ∃ m : MessageForm, m.chars = s ∧ m.statement = .message source arrow destination text := by
  constructor
  · intro h
    generalize hst : Statement.message source arrow destination text = st at h
    cases h with
    | message m hs => exact ⟨m, hs, rfl⟩
    | _ => cases hst
  · intro hform
    obtain ⟨m, hs, hst⟩ := hform
    exact hst ▸ .message m hs

theorem says_note_iff {s : List Char} {side : Side} {names : List String} {text : String} :
    Says s (.note side names text) ↔ ∃ n : NoteForm, n.chars = s ∧ n.statement = .note side names text := by
  constructor
  · intro h
    generalize hst : Statement.note side names text = st at h
    cases h with
    | note n hs => exact ⟨n, hs, rfl⟩
    | _ => cases hst
  · intro hform
    obtain ⟨n, hs, hst⟩ := hform
    exact hst ▸ .note n hs

theorem says_blockStart_iff {s : List Char} {kind : BlockKind} {text : String} :
    Says s (.blockStart kind text) ↔
      (∀ m : MessageForm, m.chars ≠ s) ∧ ∃ k : KeywordForm kind.keyword, k.chars = s ∧ k.text = text := by
  constructor
  · intro h
    generalize hst : Statement.blockStart kind text = st at h
    cases h with
    | blockStart kind k hs hm => cases hst; exact ⟨hm, k, hs, rfl⟩
    | _ => cases hst
  · intro hform
    obtain ⟨hm, k, hs, rfl⟩ := hform
    exact .blockStart kind k hs hm

theorem says_otherwise_iff {s : List Char} {text : String} :
    Says s (.otherwise text) ↔
      (∀ m : MessageForm, m.chars ≠ s) ∧ ∃ k : KeywordForm "else", k.chars = s ∧ k.text = text := by
  constructor
  · intro h
    generalize hst : Statement.otherwise text = st at h
    cases h with
    | otherwise k hs hm => cases hst; exact ⟨hm, k, hs, rfl⟩
    | _ => cases hst
  · intro hform
    obtain ⟨hm, k, hs, rfl⟩ := hform
    exact .otherwise k hs hm

theorem says_blockEnd_iff {s : List Char} : Says s .blockEnd ↔ ∃ w : Word "end", w.chars = s := by
  constructor
  · intro h
    generalize hst : Statement.blockEnd = st at h
    cases h with
    | blockEnd w hs => exact ⟨w, hs⟩
    | _ => cases hst
  · intro hform
    obtain ⟨w, hs⟩ := hform
    exact .blockEnd w hs

end Line

/-! ## Reading -/

namespace Statement

open Line
open Text (trim)

theorem read_eq_ok_iff {line : Nat} {text : String} {st : Statement} :
    read line text = .ok st ↔ Says (trim text.toList) st := by
  unfold read
  split
  · rename_i ht
    simp only [ht, not_says_nil, reduceCtorEq]
  · rw [← statement?_eq_some_iff]
    split <;> simp_all

theorem read_eq_error_iff {line : Nat} {text : String} {f : Failure} :
    read line text = .error f ↔
      trim text.toList = [] ∧ f = .emptyInput ∨
      trim text.toList ≠ [] ∧ (∀ st, ¬ Says (trim text.toList) st) ∧
        f = .unrecognizedLine line (String.ofList (trim text.toList)) := by
  unfold read
  split
  · rename_i ht
    simp only [ht, true_and, ne_eq, not_true_eq_false, false_and, or_false, Except.error.injEq, eq_comm]
  · rename_i ht
    simp only [← statement?_eq_some_iff]
    split
    · rename_i st hst
      simp only [hst, reduceCtorEq, false_iff, not_or, not_and]
      exact ⟨fun h => absurd h ht, fun _ h => absurd rfl (h st)⟩
    · rename_i hst
      simp only [hst, reduceCtorEq, not_false_eq_true, implies_true, true_and, Except.error.injEq]
      exact ⟨fun h => .inr ⟨ht, h.symm⟩, fun h => h.elim (fun h => absurd h.1 ht) fun h => h.2.symm⟩

/-- A line is accepted exactly when, trimmed, it is a form of the grammar written out:
    a message or a note in one way only, a keyword only where no message stands. Its
    statement is the one the form says. Every other line fails, a blank one as an empty
    document and the rest with the number given and the trimmed text. -/
theorem read_iff_written (line : Nat) (text : String) :
    let t := trim text.toList
    (t = [] → read line text = .error .emptyInput) ∧
    (∀ source arrow destination body, read line text = .ok (.message source arrow destination body) ↔
      ∃ m : MessageForm, m.chars = t ∧ m.statement = .message source arrow destination body) ∧
    (∀ m m' : MessageForm, m.chars = t → m'.chars = t → m = m') ∧
    (∀ side names body, read line text = .ok (.note side names body) ↔
      ∃ n : NoteForm, n.chars = t ∧ n.statement = .note side names body) ∧
    (∀ n n' : NoteForm, n.chars = t → n'.chars = t → n = n') ∧
    (∀ kind body, read line text = .ok (.blockStart kind body) ↔
      (∀ m : MessageForm, m.chars ≠ t) ∧ ∃ k : KeywordForm kind.keyword, k.chars = t ∧ k.text = body) ∧
    (∀ body, read line text = .ok (.otherwise body) ↔
      (∀ m : MessageForm, m.chars ≠ t) ∧ ∃ k : KeywordForm "else", k.chars = t ∧ k.text = body) ∧
    (read line text = .ok .blockEnd ↔ ∃ w : Word "end", w.chars = t) ∧
    (∀ f, read line text = .error f ↔
      t = [] ∧ f = .emptyInput ∨
      t ≠ [] ∧ (∀ st, ¬ Says t st) ∧ f = .unrecognizedLine line (String.ofList t)) := by
  intro t
  refine ⟨fun ht => read_eq_error_iff.mpr (.inl ⟨ht, rfl⟩), fun _ _ _ _ => ?_, fun m m' h h' => ?_, fun _ _ _ => ?_,
    fun n n' h h' => ?_, fun _ _ => ?_, fun _ => ?_, ?_, fun f => read_eq_error_iff⟩
  · rw [read_eq_ok_iff, says_message_iff]
  · exact MessageForm.ext_chars (h.trans h'.symm)
  · rw [read_eq_ok_iff, says_note_iff]
  · exact NoteForm.ext_chars (h.trans h'.symm)
  · rw [read_eq_ok_iff, says_blockStart_iff]
  · rw [read_eq_ok_iff, says_otherwise_iff]
  · rw [read_eq_ok_iff, says_blockEnd_iff]

end Statement

end SequenceDiagram
