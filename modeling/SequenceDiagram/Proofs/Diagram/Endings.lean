/-
  SequenceDiagram.Proofs.Diagram.Endings — one block for every `end`, in their order.

  The blocks of a linked diagram stand in the order of the `end` statements, one for
  each. The block of an `end` has the kind and the text of the statement its bracket
  closes, counting all statements of the document (`listed_of_build`). A block start that
  is never closed has no block. While statements are added the open blocks are those of
  the openings not yet closed, innermost first, so the next `end` lists the right one.
-/

import SequenceDiagram.Proofs.Document.Outcome

namespace SequenceDiagram

open SequenceDiagram.Bracket (Closes unclosed)

/-- The positions of the `end` statements. -/
def ends (ss : List Numbered) : List Nat := ss.findIdxs fun s => s.statement == .blockEnd

/-- Statement `i` starts a block. -/
def StartsBlock (ss : List Numbered) (i : Nat) (kind : BlockKind) (text : String) : Prop :=
  ∃ line, ss[i]? = some ⟨line, .blockStart kind text⟩

/-- The `end` at `j` closes a block of a kind and text. -/
def EndsBlock (ss : List Numbered) (j : Nat) (kind : BlockKind) (text : String) : Prop :=
  ∃ i, Closes (markers ss) i j ∧ StartsBlock ss i kind text

variable {ss : List Numbered} {s : Numbered} {i j : Nat} {kind : BlockKind} {text : String}

theorem StartsBlock.append (h : StartsBlock ss i kind text) : StartsBlock (ss ++ [s]) i kind text :=
  h.imp fun _ => getElem?_of_extends (List.prefix_append ..)

theorem EndsBlock.append (h : EndsBlock ss j kind text) : EndsBlock (ss ++ [s]) j kind text := by
  obtain ⟨i, hcloses, hopens⟩ := h
  refine ⟨i, ?_, hopens.append⟩
  rw [markers_append]
  exact Bracket.closes_append_singleton.mpr (.inl hcloses)

theorem ends_append : ends (ss ++ [s]) = ends ss ++ if s.statement = .blockEnd then [ss.length] else [] := by
  rw [ends, List.findIdxs_append, List.findIdxs_singleton, Nat.zero_add]
  by_cases hs : s.statement = .blockEnd
  · rw [if_pos hs, if_pos (beq_iff_eq.mpr hs)]
    rfl
  · rw [if_neg hs, if_neg (by simpa using hs)]
    rfl

/-! ## While statements are added -/

namespace Draft

structure Listed (ss : List Numbered) (d : Draft) : Prop where
  opened : List.Forall₂ (fun i b => StartsBlock ss i b.kind b.text) (unclosed (markers ss)) d.openBlocks.topFirst
  blocks : List.Forall₂ (fun j b => EndsBlock ss j b.kind b.text) (ends ss) d.diagram.blocks

variable {d e : Draft}

/-- A statement that is no marker neither opens nor ends a block. -/
theorem Listed.add_unmarked (h : Listed ss d) (hs : s.statement.bracket? = none)
    (hopen : e.openBlocks = d.openBlocks) (hblocks : e.diagram.blocks = d.diagram.blocks) : Listed (ss ++ [s]) e where
  opened := by
    rw [markers_append, hs, Bracket.unclosed_append, hopen]
    exact h.opened.imp fun _ _ => StartsBlock.append
  blocks := by
    have hend : s.statement ≠ .blockEnd := by
      intro hend
      rw [hend] at hs
      cases hs
    rw [ends_append, if_neg hend, List.append_nil, hblocks]
    exact h.blocks.imp fun _ _ => EndsBlock.append

theorem Listed.add (h : Listed ss d) (hs : d.add s = .ok e) : Listed (ss ++ [s]) e := by
  rcases add_cases hs with ⟨text, ho, rfl⟩ | ⟨g, action, hb, -, rfl, -, -, -, hblocks⟩ | ⟨kind, text, ho, rfl⟩ |
    ⟨b, rest, ho, hpop, rfl⟩
  · exact h.add_unmarked (by rw [ho]; rfl) rfl rfl
  · exact h.add_unmarked hb rfl hblocks
  · have hend : s.statement ≠ .blockEnd := by
      rw [ho]
      nofun
    have hstarts : StartsBlock (ss ++ [s]) (markers ss).length kind text := by
      refine ⟨s.line, ?_⟩
      rw [length_markers, List.getElem?_concat_length, ← ho]
    constructor
    · rw [markers_append, ho, Bracket.unclosed_append]
      exact .cons hstarts (h.opened.imp fun _ _ => StartsBlock.append)
    · rw [ends_append, if_neg hend, List.append_nil]
      exact h.blocks.imp fun _ _ => EndsBlock.append
  · have hopened := h.opened
    rw [Stack.topFirst_of_pop? hpop] at hopened
    generalize hunclosed : unclosed (markers ss) = positions at hopened
    cases hopened with
    | cons hstarts hrest =>
      rename_i i positions
      have hcloses : Closes (markers (ss ++ [s])) i ss.length := by
        rw [markers_append, ho, ← length_markers]
        exact Bracket.closes_append_singleton.mpr (.inr ⟨rfl, rfl, by rw [hunclosed]; rfl⟩)
      constructor
      · rw [markers_append, ho, Bracket.unclosed_append, hunclosed]
        exact hrest.imp fun _ _ => StartsBlock.append
      · rw [ends_append, if_pos ho]
        exact List.rel_append (h.blocks.imp fun _ _ => EndsBlock.append) (.cons ⟨i, hcloses, hstarts.append⟩ .nil)

theorem listed_of_run (h : ss.foldlM Draft.add empty = .ok d) : Listed ss d :=
  run_induction (P := Listed) ⟨.nil, .nil⟩ (fun _ _ _ _ h => h.add) h

end Draft

theorem Diagram.listed_of_build {d : Diagram} (h : build ss = .ok d) :
    List.Forall₂ (fun j b => EndsBlock ss j b.kind b.text) (ends ss) d.blocks := by
  obtain ⟨e, he, rfl⟩ := build_eq_ok_iff.mp h
  exact (Draft.listed_of_run he).blocks

end SequenceDiagram
