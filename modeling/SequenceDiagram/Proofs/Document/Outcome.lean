/-
  SequenceDiagram.Proofs.Document.Outcome — what a document comes to.

  A document is read to its end before anything is linked. Linking fails at the first
  `end` with which more blocks are ended than started (`EndsTooMany`); the blocks open at
  any time are the difference, so this is the `end` that finds none open. A mark that
  ends no activation, a block without its `end` and an `else` are no failures. Every
  linked diagram has a layout and a drawing.
-/

import SequenceDiagram.Typesetter
import SequenceDiagram.Proofs.Diagram.Linking
import SequenceDiagram.Proofs.Document.Lines

namespace SequenceDiagram

open SequenceDiagram.Bracket (before before_append before_append_succ before_of_length_le)

/-! ## Too many ends -/

/-- The run of brackets that the block markers of a document are. -/
def markers (ss : List Numbered) : List (Option Bracket) := ss.map (·.statement.bracket?)

/-- More blocks are ended than started by the first `k` statements. -/
def Overclosed (ss : List Numbered) (k : Nat) : Prop :=
  before .opening (markers ss) k < before .closing (markers ss) k

/-- The line of the first `end` with which more blocks are ended than started. -/
def EndsTooMany (ss : List Numbered) (line : Nat) : Prop :=
  ∃ k s, ss[k]? = some s ∧ s.statement = .blockEnd ∧ s.line = line ∧
    Overclosed ss (k + 1) ∧ ∀ m ≤ k, ¬ Overclosed ss m

variable {ss : List Numbered} {s : Numbered} {k : Nat}

theorem length_markers : (markers ss).length = ss.length := List.length_map _

theorem markers_append : markers (ss ++ [s]) = markers ss ++ [s.statement.bracket?] := by
  rw [markers, List.map_append]
  rfl

theorem before_markers_succ (b : Bracket) : before b (markers (ss ++ [s])) (ss.length + 1) =
    before b (markers ss) ss.length + if s.statement.bracket? = some b then 1 else 0 := by
  rw [markers_append, ← length_markers, before_append_succ]

theorem overclosed_append (h : k ≤ ss.length) : Overclosed (ss ++ [s]) k ↔ Overclosed ss k := by
  rw [← length_markers] at h
  rw [Overclosed, Overclosed, markers_append, before_append h, before_append h]

theorem overclosed_of_length_le (h : ss.length ≤ k) : Overclosed ss k ↔ Overclosed ss ss.length := by
  rw [← length_markers] at h ⊢
  rw [Overclosed, Overclosed, before_of_length_le h, before_of_length_le h]

theorem EndsTooMany.append {line : Nat} (h : EndsTooMany ss line) : EndsTooMany (ss ++ [s]) line := by
  obtain ⟨k, t, ht, hend, hline, hover, hleast⟩ := h
  have hk := (List.getElem?_eq_some_iff.mp ht).1
  refine ⟨k, t, by rwa [List.getElem?_append_left hk], hend, hline, (overclosed_append hk).mpr hover, fun m hm => ?_⟩
  rw [overclosed_append (by omega)]
  exact hleast m hm

namespace Draft

/-- The blocks open are those started and not ended, and never were fewer started than ended. -/
structure Balanced (ss : List Numbered) (d : Draft) : Prop where
  size : d.openBlocks.size + before .closing (markers ss) ss.length = before .opening (markers ss) ss.length
  never : ∀ k, ¬ Overclosed ss k

variable {d e : Draft} {f : Failure}

theorem size_add (h : d.add s = .ok e) :
    e.openBlocks.size + (if s.statement.bracket? = some .closing then 1 else 0) =
      d.openBlocks.size + if s.statement.bracket? = some .opening then 1 else 0 := by
  rcases add_cases h with ⟨text, hs, rfl⟩ | ⟨g, action, hs, -, rfl, -⟩ | ⟨kind, text, hs, rfl⟩ |
    ⟨b, rest, hs, hpop, rfl⟩
  · rw [hs]; rfl
  · rw [hs]; rfl
  · rw [hs]; rfl
  · rw [hs, Stack.size, Stack.size, Stack.topFirst_of_pop? hpop]; rfl

theorem balanced_empty : Balanced [] empty where
  size := rfl
  never k := by
    rw [overclosed_of_length_le (Nat.zero_le k)]
    exact Nat.lt_irrefl 0

theorem Balanced.add (h : Balanced ss d) (hs : d.add s = .ok e) : Balanced (ss ++ [s]) e := by
  have hsize : e.openBlocks.size + before .closing (markers (ss ++ [s])) (ss.length + 1) =
      before .opening (markers (ss ++ [s])) (ss.length + 1) := by
    have hold := h.size
    have hnew := size_add hs
    rw [before_markers_succ, before_markers_succ]
    omega
  have hlength : (ss ++ [s]).length = ss.length + 1 := List.length_append
  refine ⟨hlength ▸ hsize, fun k => ?_⟩
  rcases Nat.lt_or_ge ss.length k with hk | hk
  · rw [overclosed_of_length_le (by omega), hlength, Overclosed]
    omega
  · rw [overclosed_append hk]
    exact h.never k

theorem balanced_of_run (h : ss.foldlM Draft.add empty = .ok d) : Balanced ss d :=
  run_induction balanced_empty (fun _ _ _ _ h => h.add) h

/-- A run that fails does so at the first `end` too many. -/
theorem endsTooMany_of_run (h : ss.foldlM Draft.add empty = .error f) :
    ∃ line, f = .unmatchedEnd line ∧ EndsTooMany ss line := by
  induction ss using List.reverseRecOn with
  | nil => cases h
  | append_singleton ss s ih =>
    rw [run_append] at h
    cases hd : ss.foldlM Draft.add empty with
    | error f' =>
      obtain rfl : f' = f := by rw [hd] at h; exact Except.error.inj h
      obtain ⟨line, rfl, hends⟩ := ih hd
      exact ⟨line, rfl, hends.append⟩
    | ok d =>
      have hadd : d.add s = .error f := by rwa [hd] at h
      obtain ⟨hs, hpop, rfl⟩ := add_eq_error_iff.mp hadd
      have hbalanced := balanced_of_run hd
      refine ⟨s.line, rfl, ss.length, s, List.getElem?_concat_length, hs, rfl, ?_, fun m hm => ?_⟩
      · have hempty : d.openBlocks.size = 0 := by
          have hnil : d.openBlocks.topFirst = [] := List.reverse_eq_nil_iff.mp (Stack.pop?_eq_none_iff.mp hpop)
          rw [Stack.size, hnil]
          rfl
        have hsize := hbalanced.size
        rw [Overclosed, before_markers_succ, before_markers_succ, hs, Statement.bracket?, if_neg (by simp),
          if_pos rfl]
        omega
      · rw [overclosed_append hm]
        exact hbalanced.never m

end Draft

theorem EndsTooMany.unique {line line' : Nat} (h : EndsTooMany ss line) (h' : EndsTooMany ss line') : line = line' := by
  obtain ⟨k, s, hs, -, rfl, hover, hleast⟩ := h
  obtain ⟨k', s', hs', -, rfl, hover', hleast'⟩ := h'
  have hk : k = k' := by
    rcases Nat.lt_trichotomy k k' with hlt | heq | hlt
    · exact absurd hover (hleast' _ hlt)
    · exact heq
    · exact absurd hover' (hleast _ hlt)
  rw [hk, hs'] at hs
  rw [Option.some.inj hs]

/-! ## Linking -/

namespace Diagram

theorem build_eq_error_iff {f : Failure} :
    build ss = .error f ↔ ∃ line, f = .unmatchedEnd line ∧ EndsTooMany ss line := by
  have hbuild : build ss = .error f ↔ ss.foldlM Draft.add .empty = .error f := by
    unfold build
    cases ss.foldlM Draft.add .empty <;> simp [bind, Except.bind, pure, Except.pure]
  rw [hbuild]
  refine ⟨Draft.endsTooMany_of_run, fun ⟨line, hf, hends⟩ => ?_⟩
  cases hrun : ss.foldlM Draft.add .empty with
  | ok d =>
    obtain ⟨k, -, -, -, -, hover, -⟩ := hends
    exact absurd hover ((Draft.balanced_of_run hrun).never _)
  | error f' =>
    obtain ⟨line', rfl, hends'⟩ := Draft.endsTooMany_of_run hrun
    rw [hf, hends.unique hends']

theorem exists_build_iff : (∃ d, build ss = .ok d) ↔ ∀ k, ¬ Overclosed ss k := by
  constructor
  · intro hbuilt
    obtain ⟨d, h⟩ := hbuilt
    obtain ⟨e, he, -⟩ := build_eq_ok_iff.mp h
    exact (Draft.balanced_of_run he).never
  · intro hnever
    cases h : build ss with
    | ok d => exact ⟨d, rfl⟩
    | error f =>
      obtain ⟨line, -, k, -, -, -, -, hover, -⟩ := build_eq_error_iff.mp h
      exact absurd hover (hnever _)

end Diagram

/-! ## The outcome -/

namespace Typesetter

open Document (HasLine FirstRejected Reads)

variable {α : Type} [Numeral α] {t : Typesetter α} {text : String} {f : Failure}

/-- Only reading and linking fail. -/
theorem svg_eq_error_iff : t.svg text = .error f ↔
    Document.read text = .error f ∨ ∃ ss, Document.read text = .ok ss ∧ Diagram.build ss = .error f := by
  unfold svg layout Diagram.read
  cases Document.read text with
  | error f' => simp [bind, Except.bind]
  | ok ss =>
    simp only [bind, Except.bind, reduceCtorEq, false_or, Except.ok.injEq, exists_eq_left']
    cases Diagram.build ss <;> simp [pure, Except.pure]

theorem exists_svg_iff : (∃ svg, t.svg text = .ok svg) ↔
    ∃ ss, Document.read text = .ok ss ∧ ∃ d, Diagram.build ss = .ok d := by
  unfold svg layout Diagram.read
  cases Document.read text with
  | error f' => simp [bind, Except.bind]
  | ok ss =>
    simp only [bind, Except.bind, Except.ok.injEq, exists_eq_left']
    cases Diagram.build ss <;> simp [pure, Except.pure]

/-- The outcome of every document under every style and metrics. It fails as empty when
    no line says anything; at the first line that is rejected, whatever stands before it;
    when every line is accepted, at the first `end` too many; and else it is drawn. No
    other failure comes up, and both ends of a message are registered when it is linked. -/
theorem svg_outcome (t : Typesetter α) (text : String) :
    (t.svg text = .error .emptyInput ↔ ∀ n l, ¬ HasLine text n l) ∧
    (∀ n said, t.svg text = .error (.unrecognizedLine n said) ↔
      ∃ l, FirstRejected text n l ∧ said = String.ofList (Text.trim l)) ∧
    (∀ n, t.svg text = .error (.unmatchedEnd n) ↔ ∃ ss, Reads text ss ∧ EndsTooMany ss n) ∧
    ((∃ svg, t.svg text = .ok svg) ↔
      (∃ n l, HasLine text n l) ∧ ∃ ss, Reads text ss ∧ ∀ k, ¬ Overclosed ss k) ∧
    t.svg text ≠ .error .malformedDrawing ∧ t.svg text ≠ .error .oversizedImage ∧
    (∀ (d : Diagram) (source destination : String),
      let s := d.register source
      let r := s.1.register destination
      r.1.actors[s.2]?.isSome ∧ r.1.actors[r.2]?.isSome) := by
  refine ⟨?_, fun n said => ?_, fun n => ?_, ?_, ?_, ?_, fun d source destination => ⟨?_, ?_⟩⟩
  · simp [svg_eq_error_iff, Document.read_eq_error_iff, Diagram.build_eq_error_iff]
  · simp only [svg_eq_error_iff, Document.read_eq_error_iff, Diagram.build_eq_error_iff]
    constructor
    · intro h
      rcases h with (⟨-, hf⟩ | ⟨m, l, hfirst, hf⟩) | ⟨ss, _, line, hf, _⟩
      · cases hf
      · cases hf
        exact ⟨l, hfirst, rfl⟩
      · cases hf
    · intro h
      obtain ⟨l, hfirst, rfl⟩ := h
      exact .inl (.inr ⟨n, l, hfirst, rfl⟩)
  · simp only [svg_eq_error_iff, Document.read_eq_error_iff, Document.read_eq_ok_iff, Diagram.build_eq_error_iff]
    constructor
    · intro h
      rcases h with (⟨-, hf⟩ | ⟨m, l, -, hf⟩) | ⟨ss, ⟨-, hreads⟩, line, hf, hends⟩
      · cases hf
      · cases hf
      · cases hf
        exact ⟨ss, hreads, hends⟩
    · intro h
      obtain ⟨ss, hreads, hends⟩ := h
      -- the `end` stands on a line that says something
      obtain ⟨k, s, hs, -⟩ := id hends
      obtain ⟨l, hl, -⟩ := (hreads.mem_iff s).mp (List.mem_of_getElem? hs)
      exact .inr ⟨ss, ⟨⟨s.line, l, hl⟩, hreads⟩, n, rfl, hends⟩
  · simp only [exists_svg_iff, Document.read_eq_ok_iff, Diagram.exists_build_iff]
    exact ⟨fun ⟨ss, ⟨hlines, hreads⟩, hnever⟩ => ⟨hlines, ss, hreads, hnever⟩,
      fun ⟨hlines, ss, hreads, hnever⟩ => ⟨ss, ⟨hlines, hreads⟩, hnever⟩⟩
  · simp [svg_eq_error_iff, Document.read_eq_error_iff, Diagram.build_eq_error_iff]
  · simp [svg_eq_error_iff, Document.read_eq_error_iff, Diagram.build_eq_error_iff]
  · exact Diagram.isSome_actor (getElem?_of_extends (Diagram.register_extends_names _ _) (d.names_register source))
  · exact Diagram.isSome_actor (Diagram.names_register _ destination)

end Typesetter

end SequenceDiagram
