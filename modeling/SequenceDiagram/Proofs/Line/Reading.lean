/-
  SequenceDiagram.Proofs.Line.Reading — what each reader of a line takes.

  A reader is known by two facts. What it takes, put in front of the rest it gives, is
  what was ahead of it, and has the shape of its piece (`_spec`). And it takes a piece
  of that shape whole when the rest cannot be read as more of it (`_run`). The first
  says that nothing but the grammar is accepted, the second that all of it is. Since a
  reader is a function, the second also makes the piece unique (`_inj`).
-/

import SequenceDiagram.Proofs.Line.Form

namespace SequenceDiagram.Line

open Text (isAlphanumeric isGap isBlank trim)

/-! ## Where a run stops -/

/-- The text does not begin with a character of the class. -/
def Stops (p : Char → Bool) (s : List Char) : Prop := ∀ c ∈ s.head?, p c = false

theorem stops_cons {p : Char → Bool} {c : Char} {s : List Char} : Stops p (c :: s) ↔ p c = false := by
  simp [Stops]

theorem stops_append {p : Char → Bool} {w s : List Char} (h : ∀ c ∈ w, p c = false) (hs : Stops p s) :
    Stops p (w ++ s) := by
  cases w with
  | nil => exact hs
  | cons c w => exact stops_cons.mpr (h c List.mem_cons_self)

theorem stops_dropWhile (p : Char → Bool) (s : List Char) : Stops p (s.dropWhile p) := by
  intro c hc
  have h := List.head?_dropWhile_not p s
  rw [Option.mem_def.mp hc] at h
  exact h

theorem forall_mem_takeWhile (p : Char → Bool) (s : List Char) : ∀ c ∈ s.takeWhile p, p c = true :=
  List.all_eq_true.mp List.all_takeWhile

theorem takeWhile_run {p : Char → Bool} {w s : List Char} (hw : ∀ c ∈ w, p c = true) (hs : Stops p s) :
    (w ++ s).takeWhile p = w := by
  rw [List.takeWhile_append_of_pos hw]
  cases s with
  | nil => simp
  | cons c s => rw [List.takeWhile_cons, stops_cons.mp hs]; simp

theorem dropWhile_run {p : Char → Bool} {w s : List Char} (hw : ∀ c ∈ w, p c = true) (hs : Stops p s) :
    (w ++ s).dropWhile p = s := by
  rw [List.dropWhile_append_of_pos hw]
  cases s with
  | nil => rfl
  | cons c s => rw [List.dropWhile_cons, stops_cons.mp hs]; simp

/-! ## Gaps -/

theorem not_alphanumeric_of_gap {c : Char} (h : isGap c = true) : isAlphanumeric c = false := by
  simp only [isGap, Bool.or_eq_true, beq_iff_eq] at h
  rcases h with rfl | rfl <;> decide

theorem blank_of_gap {c : Char} (h : isGap c = true) : isBlank c = true := by
  simp only [isGap, Bool.or_eq_true, beq_iff_eq] at h
  rcases h with rfl | rfl <;> decide

theorem skipGap_run (b : Gap) {s : List Char} (hs : Stops isGap s) : skipGap (b.chars ++ s) = s :=
  dropWhile_run b.isGap hs

/-- Whatever is skipped is a gap, and the rest does not begin with more of it. -/
theorem skipGap_spec (s : List Char) : ∃ b : Gap, s = b.chars ++ skipGap s ∧ Stops isGap (skipGap s) :=
  ⟨⟨s.takeWhile isGap, forall_mem_takeWhile isGap s⟩, List.takeWhile_append_dropWhile.symm, stops_dropWhile isGap s⟩

theorem gap_inj {b b' : Gap} {s s' : List Char} (hs : Stops isGap s) (hs' : Stops isGap s')
    (h : b.chars ++ s = b'.chars ++ s') : b = b' ∧ s = s' := by
  have hr : s = s' := by rw [← skipGap_run b hs, h, skipGap_run b' hs']
  subst hr
  exact ⟨Gap.ext (List.append_cancel_right h), rfl⟩

theorem gap?_run (b : Space) {s : List Char} (hs : Stops isGap s) : gap? (b.chars ++ s) = some s := by
  obtain ⟨_ | ⟨c, b⟩, hne, hb⟩ := b
  · exact absurd rfl hne
  · rw [List.cons_append, gap?, if_pos (hb c List.mem_cons_self)]
    exact congrArg some (skipGap_run ⟨b, fun d hd => hb d (List.mem_cons_of_mem _ hd)⟩ hs)

theorem gap?_spec {s r : List Char} (h : gap? s = some r) : ∃ b : Space, s = b.chars ++ r ∧ Stops isGap r := by
  cases s with
  | nil => cases h
  | cons c s =>
    simp only [gap?] at h
    split at h
    · rename_i hc
      cases h
      obtain ⟨b, hs, hr⟩ := skipGap_spec s
      refine ⟨⟨c :: b.chars, List.cons_ne_nil _ _, fun d hd => ?_⟩, by rw [List.cons_append, ← hs], hr⟩
      rcases List.mem_cons.mp hd with rfl | hd
      · exact hc
      · exact b.isGap d hd
    · cases h

theorem space_inj {b b' : Space} {s s' : List Char} (hs : Stops isGap s) (hs' : Stops isGap s')
    (h : b.chars ++ s = b'.chars ++ s') : b = b' ∧ s = s' := by
  have hr : some s = some s' := by rw [← gap?_run b hs, h, gap?_run b' hs']
  cases hr
  exact ⟨Space.ext (List.append_cancel_right h), rfl⟩

/-! ## Names -/

theorem name?_run (n : Name) {s : List Char} (hs : Stops isAlphanumeric s) :
    name? (n.chars ++ s) = some (n.chars, s) := by
  unfold name?
  rw [takeWhile_run n.isAlphanumeric hs, dropWhile_run n.isAlphanumeric hs]
  obtain ⟨_ | ⟨c, n⟩, hne, -⟩ := n
  · exact absurd rfl hne
  · rfl

theorem name?_spec {s w r : List Char} (h : name? s = some (w, r)) :
    ∃ n : Name, n.chars = w ∧ s = n.chars ++ r ∧ Stops isAlphanumeric r := by
  unfold name? at h
  split at h
  · cases h
  · rename_i hne
    cases h
    exact ⟨⟨_, hne, forall_mem_takeWhile _ s⟩, rfl, List.takeWhile_append_dropWhile.symm, stops_dropWhile _ s⟩

theorem name_inj {n n' : Name} {s s' : List Char} (hs : Stops isAlphanumeric s) (hs' : Stops isAlphanumeric s')
    (h : n.chars ++ s = n'.chars ++ s') : n = n' ∧ s = s' := by
  have hr := name?_run n hs
  rw [h, name?_run n' hs'] at hr
  simp only [Option.some.injEq, Prod.mk.injEq] at hr
  exact ⟨Name.ext hr.1.symm, hr.2.symm⟩

/-! ## Keywords -/

theorem keyword?_eq_some_iff_map {k s r : List Char} :
    keyword? k s = some r ↔ ∃ w, w.map Char.toLower = k ∧ s = w ++ r := by
  induction k generalizing s with
  | nil =>
    simp only [keyword?, Option.some.injEq, List.map_eq_nil_iff]
    exact ⟨fun h => ⟨[], rfl, h⟩, fun ⟨w, hw, h⟩ => by rw [h, hw]; rfl⟩
  | cons k ks ih =>
    cases s with
    | nil =>
      simp only [keyword?, reduceCtorEq, false_iff]
      intro hform
      obtain ⟨w, hw, h⟩ := hform
      rw [(List.append_eq_nil_iff.mp h.symm).1] at hw
      cases hw
    | cons c s =>
      simp only [keyword?]
      constructor
      · intro h
        split at h
        · rename_i hc
          obtain ⟨w, hw, hs⟩ := ih.mp h
          exact ⟨c :: w, by rw [List.map_cons, hc, hw], by rw [hs]; rfl⟩
        · cases h
      · intro hform
        obtain ⟨w, hw, h⟩ := hform
        cases w with
        | nil => cases hw
        | cons d w =>
          simp only [List.map_cons, List.cons.injEq, List.cons_append] at hw h
          rw [h.1, if_pos hw.1]
          exact ih.mpr ⟨w, hw.2, h.2⟩

/-- A keyword is read exactly where some mixture of its cases stands. -/
theorem keyword?_eq_some_iff {k : String} {s r : List Char} :
    keyword? k.toList s = some r ↔ ∃ w : Word k, s = w.chars ++ r := by
  rw [keyword?_eq_some_iff_map]
  exact ⟨fun ⟨w, hw, h⟩ => ⟨⟨w, hw⟩, h⟩, fun ⟨w, h⟩ => ⟨w.chars, w.lower, h⟩⟩

theorem keyword?_run {k : String} (w : Word k) (s : List Char) : keyword? k.toList (w.chars ++ s) = some s :=
  keyword?_eq_some_iff.mpr ⟨w, rfl⟩

theorem word_inj {k : String} {w w' : Word k} {s s' : List Char} (h : w.chars ++ s = w'.chars ++ s') :
    w = w' ∧ s = s' := by
  have hr : some s = some s' := by rw [← keyword?_run w s, h, keyword?_run w' s']
  cases hr
  exact ⟨Word.ext (List.append_cancel_right h), rfl⟩

/-- Two keywords stand at the front of one text only when one begins the other. -/
theorem word_begins_word {k k' : String} {w : Word k} {w' : Word k'} {s s' : List Char}
    (h : w.chars ++ s = w'.chars ++ s') : k.toList <+: k'.toList ∨ k'.toList <+: k.toList := by
  have h1 : w.chars <+: w.chars ++ s := List.prefix_append _ _
  have h2 : w'.chars <+: w.chars ++ s := h ▸ List.prefix_append _ _
  have hor := List.prefix_or_prefix_of_prefix h1 h2
  rw [← w.lower, ← w'.lower]
  exact hor.imp (·.map _) (·.map _)

/-! ## Arrows -/

/-- What would make a longer arrow of a shorter one. -/
def isMark (c : Char) : Bool := c == '+' || c == '-'

theorem arrow?_run (a : Arrow) {s : List Char} (hs : Stops isMark s) : arrow? (a.token ++ s) = some (a, s) := by
  obtain ⟨style, mark⟩ := a
  cases s with
  | nil => rcases style with _ | _ <;> rcases mark with _ | _ | _ <;> rfl
  | cons c s =>
    have hc : c ≠ '+' ∧ c ≠ '-' := by simpa [isMark] using stops_cons.mp hs
    rcases style with _ | _ <;> rcases mark with _ | _ | _ <;> simp [Arrow.token, arrow?, hc.1, hc.2]

theorem arrow?_spec {s r : List Char} {a : Arrow} (h : arrow? s = some (a, r)) : s = a.token ++ r := by
  unfold arrow? at h
  split at h <;> cases h <;> rfl

theorem arrow?_eq_none {s : List Char} (h : Stops (· == '-') s) : arrow? s = none := by
  unfold arrow?
  split <;> simp_all [Stops]

theorem token_inj {a a' : Arrow} {s s' : List Char} (hs : Stops isMark s) (hs' : Stops isMark s')
    (h : a.token ++ s = a'.token ++ s') : a = a' ∧ s = s' := by
  have hr := arrow?_run a hs
  rw [h, arrow?_run a' hs'] at hr
  simp only [Option.some.injEq, Prod.mk.injEq] at hr
  exact ⟨hr.1.symm, hr.2.symm⟩

/-! ## What follows a piece -/

theorem stops_gap_append {p : Char → Bool} (b : Gap) {s : List Char} (hp : ∀ c, isGap c = true → p c = false)
    (hs : Stops p s) : Stops p (b.chars ++ s) :=
  stops_append (fun c hc => hp c (b.isGap c hc)) hs

theorem stops_space_append {p : Char → Bool} (b : Space) (s : List Char) (hp : ∀ c, isGap c = true → p c = false) :
    Stops p (b.chars ++ s) := by
  obtain ⟨_ | ⟨c, b⟩, hne, hb⟩ := b
  · exact absurd rfl hne
  · exact stops_cons.mpr (hp c (hb c List.mem_cons_self))

theorem stops_name_append {p : Char → Bool} (n : Name) (s : List Char)
    (hp : ∀ c, isAlphanumeric c = true → p c = false) : Stops p (n.chars ++ s) := by
  obtain ⟨_ | ⟨c, n⟩, hne, hn⟩ := n
  · exact absurd rfl hne
  · exact stops_cons.mpr (hp c (hn c List.mem_cons_self))

theorem not_gap_of_alphanumeric {c : Char} (h : isAlphanumeric c = true) : isGap c = false := by
  cases hg : isGap c with
  | false => rfl
  | true => rw [not_alphanumeric_of_gap hg] at h; cases h

theorem not_mark_of_alphanumeric {c : Char} (h : isAlphanumeric c = true) : isMark c = false := by
  cases hm : isMark c with
  | false => rfl
  | true =>
    simp only [isMark, Bool.or_eq_true, beq_iff_eq] at hm
    rcases hm with rfl | rfl <;> revert h <;> decide

theorem not_mark_of_gap {c : Char} (h : isGap c = true) : isMark c = false := by
  simp only [isGap, Bool.or_eq_true, beq_iff_eq] at h
  rcases h with rfl | rfl <;> decide

theorem stops_token {a : Arrow} {s : List Char} : Stops isGap (a.token ++ s) ∧ Stops isAlphanumeric (a.token ++ s) := by
  obtain ⟨style, mark⟩ := a
  cases style <;> exact ⟨stops_cons.mpr (by decide), stops_cons.mpr (by decide)⟩

theorem stops_colon {b : Gap} {s : List Char} : Stops isAlphanumeric (b.chars ++ ':' :: s) :=
  stops_gap_append b (fun _ => not_alphanumeric_of_gap) (stops_cons.mpr (by decide))

/-- A keyword begins with one of the two cases of its first letter, which is no gap and
    no sign. -/
theorem stops_word {k : String} {p : Char → Bool} (w : Word k) {s : List Char} {c : Char} {t : List Char}
    (hk : k.toList = c :: t) (hp : ∀ d, p d = true → d.toLower = d) (hc : p c = false) : Stops p (w.chars ++ s) := by
  obtain ⟨_ | ⟨d, w⟩, hw⟩ := w
  · rw [hk] at hw; cases hw
  · refine stops_cons.mpr ?_
    rw [hk, List.map_cons] at hw
    cases hd : p d with
    | false => rfl
    | true => rw [← hp d hd, (List.cons.inj hw).1, hc] at hd; cases hd

theorem toLower_of_gap {c : Char} (h : isGap c = true) : c.toLower = c := by
  simp only [isGap, Bool.or_eq_true, beq_iff_eq] at h
  rcases h with rfl | rfl <;> decide

/-! ## Texts -/

theorem trim_gap_append {b s : List Char} (hb : ∀ c ∈ b, isGap c = true) : trim (b ++ s) = trim s := by
  unfold trim
  rw [List.dropWhile_append_of_pos fun c hc => blank_of_gap (hb c hc)]

theorem colonText?_eq_some_iff {s : List Char} {t : String} :
    colonText? s = some t ↔ ∃ (b : Gap) (r : List Char), s = b.chars ++ ':' :: r ∧ t = String.ofList (trim r) := by
  constructor
  · intro h
    obtain ⟨b, hs, -⟩ := skipGap_spec s
    unfold colonText? at h
    split at h
    · rename_i r hr
      cases h
      exact ⟨b, r, by rw [← hr]; exact hs, rfl⟩
    · cases h
  · intro hform
    obtain ⟨b, r, rfl, rfl⟩ := hform
    have hc : Stops isGap (':' :: r) := stops_cons.mpr (by decide)
    simp only [colonText?, skipGap_run b hc]

theorem keywordText?_eq_some_iff {s : List Char} {t : String} :
    keywordText? s = some t ↔
      ∃ (b : Gap) (r : List Char), (r ≠ [] → b.chars ≠ []) ∧ s = b.chars ++ r ∧ t = String.ofList (trim r) := by
  cases s with
  | nil =>
    simp only [keywordText?, Option.some.injEq]
    constructor
    · intro heq
      obtain rfl := heq
      exact ⟨⟨[], by simp⟩, [], by simp, rfl, rfl⟩
    · intro hform
      obtain ⟨b, r, -, hs, rfl⟩ := hform
      rw [(List.append_eq_nil_iff.mp hs.symm).2]
      rfl
  | cons c s =>
    simp only [keywordText?]
    constructor
    · intro h
      split at h
      · rename_i hc
        cases h
        exact ⟨⟨[c], by simpa using hc⟩, s, by simp, rfl, rfl⟩
      · cases h
    · intro hform
      obtain ⟨⟨b, hb⟩, r, hne, hs, rfl⟩ := hform
      cases b with
      | nil =>
        have hr : c :: s = r := hs
        subst hr
        exact absurd rfl (hne (List.cons_ne_nil _ _))
      | cons d b =>
        obtain ⟨rfl, hr⟩ := List.cons.inj hs
        have ht : trim s = trim r := by
          rw [show s = b ++ r from hr]
          exact trim_gap_append fun d hd => hb d (List.mem_cons_of_mem _ hd)
        rw [if_pos (hb c List.mem_cons_self), ht]

end SequenceDiagram.Line
