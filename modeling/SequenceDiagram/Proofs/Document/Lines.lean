/-
  SequenceDiagram.Proofs.Document.Lines — what reading a document comes to.

  The lines of a document are the pieces between its line feeds, numbered from one. A
  line says something when, trimmed, it is not empty and does not begin with `#`
  (`HasLine`). Reading a document takes the statements of just these lines, in order and
  each with its number (`Reads`), or fails at the first of them that is rejected
  (`FirstRejected`), whatever the others say, or fails because there are none.
-/

import Mathlib.Data.List.Forall2
import SequenceDiagram.Statement.Document
import SequenceDiagram.Proofs.Line.Grammar

namespace SequenceDiagram

open Text (trim)

namespace Document

/-- A line of a document that says something, and its number. -/
structure HasLine (text : String) (n : Nat) (l : List Char) : Prop where
  pos : 0 < n
  stands : (text.toList.splitOn '\n')[n - 1]? = some l
  nonempty : trim l ≠ []
  plain : (trim l).head? ≠ some '#'

/-- The first of the lines that say something which is no statement. -/
structure FirstRejected (text : String) (n : Nat) (l : List Char) : Prop where
  line : HasLine text n l
  rejected : ∀ st, Statement.read n (String.ofList l) ≠ .ok st
  earlier : ∀ m k, HasLine text m k → m < n → ∃ st, Statement.read m (String.ofList k) = .ok st

/-- The statements of a document: of every line that says something, and of no other. -/
structure Reads (text : String) (ss : List Numbered) : Prop where
  accepted : ∀ n l, HasLine text n l → ∃ st, Statement.read n (String.ofList l) = .ok st
  mem_iff : ∀ s, s ∈ ss ↔ ∃ l, HasLine text s.line l ∧ Statement.read s.line (String.ofList l) = .ok s.statement
  ordered : ss.Pairwise (·.line < ·.line)

variable {text : String} {n : Nat} {l : List Char} {ss : List Numbered} {f : Failure}

/-- A document has one list of statements at most. -/
theorem Reads.unique {ss' : List Numbered} (h : Reads text ss) (h' : Reads text ss') : ss = ss' := by
  have hnodup : ∀ {rs : List Numbered}, rs.Pairwise (·.line < ·.line) → rs.Nodup := fun hrs =>
    hrs.imp fun hlt heq => by rw [heq] at hlt; exact Nat.lt_irrefl _ hlt
  have hperm : ss.Perm ss' := (List.perm_ext_iff_of_nodup (hnodup h.ordered) (hnodup h'.ordered)).mpr fun s => by
    rw [h.mem_iff, h'.mem_iff]
  exact hperm.eq_of_pairwise (fun s t _ _ hst hts => absurd hst (Nat.lt_asymm hts)) h.ordered h'.ordered

/-! ## The lines -/

theorem lines_eq_splitOn (s : List Char) : Text.lines s = s.splitOn '\n' := by
  induction s with
  | nil => rfl
  | cons c s ih =>
    rw [List.splitOn_cons_eq_if_modifyHead, ← ih]
    simp only [Text.lines, Text.cutLine, beq_iff_eq]
    split <;> rfl

theorem isComment_eq_false_iff : isComment l = false ↔ trim l ≠ [] ∧ (trim l).head? ≠ some '#' := by
  unfold isComment
  cases trim l with
  | nil => simp
  | cons c s => simp

theorem mem_numberedLines : (n, l) ∈ numberedLines text.toList ↔ HasLine text n l := by
  rw [numberedLines, lines_eq_splitOn, List.mem_filter, List.mem_iff_getElem?]
  simp only [List.getElem?_mapIdx, Option.map_eq_some_iff, Prod.mk.injEq, Bool.not_eq_true', isComment_eq_false_iff]
  constructor
  · intro h
    obtain ⟨⟨i, _, hi, rfl, rfl⟩, hne, hplain⟩ := h
    exact ⟨Nat.succ_pos i, hi, hne, hplain⟩
  · intro h
    obtain ⟨hpos, hstands, hne, hplain⟩ := h
    exact ⟨⟨n - 1, l, hstands, by omega, rfl⟩, hne, hplain⟩

theorem numberedLines_ordered (s : List Char) : (numberedLines s).Pairwise (·.1 < ·.1) := by
  refine List.Pairwise.filter _ (List.pairwise_iff_getElem.mpr fun i j hi hj hij => ?_)
  rw [List.getElem_mapIdx, List.getElem_mapIdx]
  exact Nat.succ_lt_succ hij

theorem readLine_eq_ok_iff {s : Numbered} :
    readLine (n, l) = .ok s ↔ s.line = n ∧ Statement.read n (String.ofList l) = .ok s.statement := by
  obtain ⟨line, statement⟩ := s
  unfold readLine
  cases h : Statement.read n (String.ofList l) with
  | error f => simp [bind, Except.bind]
  | ok st => simp [bind, Except.bind, pure, Except.pure, eq_comm]

/-- A line that says something fails with its number and its trimmed text. -/
theorem HasLine.readLine_eq_error_iff (h : HasLine text n l) : readLine (n, l) = .error f ↔
    (∀ st, Statement.read n (String.ofList l) ≠ .ok st) ∧ f = .unrecognizedLine n (String.ofList (trim l)) := by
  have hread : readLine (n, l) = .error f ↔ Statement.read n (String.ofList l) = .error f := by
    unfold readLine
    cases Statement.read n (String.ofList l) <;> simp [bind, Except.bind, pure, Except.pure]
  have hrejected : (∀ st, Statement.read n (String.ofList l) ≠ .ok st) ↔ ∀ st, ¬ Line.Says (trim l) st :=
    forall_congr' fun st => by rw [Ne, Statement.read_eq_ok_iff, String.toList_ofList]
  rw [hread, hrejected, Statement.read_eq_error_iff, String.toList_ofList]
  simp [h.nonempty]

/-! ## All lines, or the first that is rejected -/

section Traversal

variable {ε α β : Type} {g : α → Except ε β} {xs : List α} {ys : List β} {e : ε}

theorem mapM_ok (h : xs.mapM g = .ok ys) : List.Forall₂ (fun x y => g x = .ok y) xs ys := by
  induction xs generalizing ys with
  | nil =>
    cases h
    exact .nil
  | cons x xs ih =>
    rw [List.mapM_cons] at h
    cases hx : g x with
    | error e => rw [hx] at h; cases h
    | ok y =>
      cases hxs : xs.mapM g with
      | error e => rw [hx, hxs] at h; cases h
      | ok ys' =>
        rw [hx, hxs] at h
        cases h
        exact .cons hx (ih hxs)

theorem mapM_error (h : xs.mapM g = .error e) :
    ∃ before x after, xs = before ++ x :: after ∧ (∀ a ∈ before, ∃ b, g a = .ok b) ∧ g x = .error e := by
  induction xs with
  | nil => cases h
  | cons x xs ih =>
    rw [List.mapM_cons] at h
    cases hx : g x with
    | error e' =>
      rw [hx] at h
      cases h
      exact ⟨[], x, xs, rfl, nofun, hx⟩
    | ok y =>
      cases hxs : xs.mapM g with
      | ok ys' => rw [hx, hxs] at h; cases h
      | error e' =>
        rw [hx, hxs] at h
        cases h
        obtain ⟨before, x', after, rfl, hbefore, hx'⟩ := ih hxs
        exact ⟨x :: before, x', after, rfl, List.forall_mem_cons.mpr ⟨⟨y, hx⟩, hbefore⟩, hx'⟩

theorem exists_of_forall₂ {R : α → β → Prop} (h : List.Forall₂ R xs ys) :
    (∀ x ∈ xs, ∃ y ∈ ys, R x y) ∧ ∀ y ∈ ys, ∃ x ∈ xs, R x y := by
  induction h with
  | nil => exact ⟨nofun, nofun⟩
  | cons hxy _ ih =>
    refine ⟨List.forall_mem_cons.mpr ⟨⟨_, List.mem_cons_self, hxy⟩, fun x hx => ?_⟩,
      List.forall_mem_cons.mpr ⟨⟨_, List.mem_cons_self, hxy⟩, fun y hy => ?_⟩⟩
    · obtain ⟨y, hy, hR⟩ := ih.1 x hx
      exact ⟨y, List.mem_cons_of_mem _ hy, hR⟩
    · obtain ⟨x, hx, hR⟩ := ih.2 y hy
      exact ⟨x, List.mem_cons_of_mem _ hx, hR⟩

end Traversal

theorem reads_of_mapM (h : (numberedLines text.toList).mapM readLine = .ok ss) : Reads text ss := by
  have hall := mapM_ok h
  obtain ⟨hto, hfrom⟩ := exists_of_forall₂ hall
  refine ⟨fun n l hl => ?_, fun s => ⟨fun hs => ?_, fun ⟨l, hl, hread⟩ => ?_⟩, ?_⟩
  · obtain ⟨s, -, hs⟩ := hto _ (mem_numberedLines.mpr hl)
    exact ⟨s.statement, (readLine_eq_ok_iff.mp hs).2⟩
  · obtain ⟨⟨n, l⟩, hl, hread⟩ := hfrom s hs
    obtain ⟨rfl, hread⟩ := readLine_eq_ok_iff.mp hread
    exact ⟨l, mem_numberedLines.mp hl, hread⟩
  · obtain ⟨t, ht, hread'⟩ := hto _ (mem_numberedLines.mpr hl)
    have hs : readLine (s.line, l) = .ok s := readLine_eq_ok_iff.mpr ⟨rfl, hread⟩
    exact Except.ok.inj (hs.symm.trans hread') ▸ ht
  · have hlines : (numberedLines text.toList).map (·.1) = ss.map (·.line) := by
      refine List.forall₂_eq_eq_eq ▸ ?_
      rw [List.forall₂_map_left_iff, List.forall₂_map_right_iff]
      exact hall.imp fun _ _ h => (readLine_eq_ok_iff.mp h).1.symm
    exact List.pairwise_map.mp (hlines ▸ List.pairwise_map.mpr (numberedLines_ordered _))

theorem firstRejected_of_mapM (h : (numberedLines text.toList).mapM readLine = .error f) :
    ∃ n l, FirstRejected text n l ∧ f = .unrecognizedLine n (String.ofList (trim l)) := by
  obtain ⟨before, ⟨n, l⟩, after, hsplit, hbefore, hread⟩ := mapM_error h
  have hline : HasLine text n l := mem_numberedLines.mp (hsplit ▸ by simp)
  obtain ⟨hrejected, rfl⟩ := hline.readLine_eq_error_iff.mp hread
  refine ⟨n, l, ⟨hline, hrejected, fun m k hk hlt => ?_⟩, rfl⟩
  -- a line with a smaller number stands before
  have hmem := mem_numberedLines.mpr hk
  have hordered := numberedLines_ordered text.toList
  rw [hsplit] at hmem hordered
  have hafter := (List.pairwise_cons.mp (List.pairwise_append.mp hordered).2.1).1
  rcases List.mem_append.mp hmem with hmem | hmem
  · obtain ⟨s, hs⟩ := hbefore _ hmem
    exact ⟨s.statement, (readLine_eq_ok_iff.mp hs).2⟩
  · rcases List.mem_cons.mp hmem with heq | hmem
    · cases heq
      exact absurd hlt (Nat.lt_irrefl _)
    · exact absurd hlt (Nat.lt_asymm (hafter _ hmem))

/-! ## The outcome -/

theorem read_eq_mapM (h : ∃ n l, HasLine text n l) : read text = (numberedLines text.toList).mapM readLine := by
  obtain ⟨n, l, hl⟩ := h
  have hmem := mem_numberedLines.mpr hl
  unfold read
  split
  · rename_i hnil
    rw [hnil] at hmem
    cases hmem
  · rfl

theorem read_eq_emptyInput (h : ∀ n l, ¬ HasLine text n l) : read text = .error .emptyInput := by
  have hnil : numberedLines text.toList = [] :=
    List.eq_nil_iff_forall_not_mem.mpr fun ⟨n, l⟩ hl => h n l (mem_numberedLines.mp hl)
  rw [read, hnil]

/-- A document is read when it says something and all of it is accepted. -/
theorem read_eq_ok_iff : read text = .ok ss ↔ (∃ n l, HasLine text n l) ∧ Reads text ss := by
  by_cases hlines : ∃ n l, HasLine text n l
  · rw [read_eq_mapM hlines]
    refine ⟨fun h => ⟨hlines, reads_of_mapM h⟩, fun ⟨_, h⟩ => ?_⟩
    cases hm : (numberedLines text.toList).mapM readLine with
    | ok ss' => rw [h.unique (reads_of_mapM hm)]
    | error f =>
      obtain ⟨n, l, hfirst, -⟩ := firstRejected_of_mapM hm
      obtain ⟨st, hst⟩ := h.accepted n l hfirst.line
      exact absurd hst (hfirst.rejected st)
  · rw [read_eq_emptyInput fun n l hl => hlines ⟨n, l, hl⟩]
    simp [hlines]

theorem FirstRejected.unique {m : Nat} {k : List Char} (h : FirstRejected text n l) (h' : FirstRejected text m k) :
    n = m ∧ l = k := by
  rcases Nat.lt_trichotomy n m with hlt | rfl | hlt
  · obtain ⟨st, hst⟩ := h'.earlier n l h.line hlt
    exact absurd hst (h.rejected st)
  · exact ⟨rfl, Option.some.inj (h.line.stands.symm.trans h'.line.stands)⟩
  · obtain ⟨st, hst⟩ := h.earlier m k h'.line hlt
    exact absurd hst (h'.rejected st)

/-- Reading fails when nothing is said, and else at the first line that is rejected. -/
theorem read_eq_error_iff : read text = .error f ↔
    (∀ n l, ¬ HasLine text n l) ∧ f = .emptyInput ∨
    ∃ n l, FirstRejected text n l ∧ f = .unrecognizedLine n (String.ofList (trim l)) := by
  constructor
  · intro h
    by_cases hlines : ∃ n l, HasLine text n l
    · exact .inr (firstRejected_of_mapM (read_eq_mapM hlines ▸ h))
    · have hnone : ∀ n l, ¬ HasLine text n l := fun n l hl => hlines ⟨n, l, hl⟩
      rw [read_eq_emptyInput hnone] at h
      exact .inl ⟨hnone, (Except.error.inj h).symm⟩
  · intro hor
    rcases hor with ⟨hnone, rfl⟩ | ⟨n, l, hfirst, rfl⟩
    · exact read_eq_emptyInput hnone
    · have hlines : ∃ n l, HasLine text n l := ⟨n, l, hfirst.line⟩
      rw [read_eq_mapM hlines]
      cases hm : (numberedLines text.toList).mapM readLine with
      | ok ss =>
        obtain ⟨st, hst⟩ := (reads_of_mapM hm).accepted n l hfirst.line
        exact absurd hst (hfirst.rejected st)
      | error f =>
        obtain ⟨m, k, hfirst', rfl⟩ := firstRejected_of_mapM hm
        obtain ⟨rfl, rfl⟩ := hfirst.unique hfirst'
        rfl

end Document

end SequenceDiagram
