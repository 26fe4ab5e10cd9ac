/-
  SequenceDiagram.Proofs.Checked.Pipeline — no document makes a step fail.

  The three stages put together. Linking the statements of any document, running phases
  in any order and any number of times from the diagram that was never placed, and
  drawing what they leave: with every position, range, difference and assertion checked,
  each stage has the result it has unchecked (`pipeline_checked`). What this rests on is
  part of the statement, that every position stored in a linked diagram is there
  (`Diagram.Indexed`).
-/

import SequenceDiagram.Proofs.Checked.Building
import SequenceDiagram.Proofs.Checked.Drawing

namespace SequenceDiagram

theorem Document.pipeline_checked {α : Type} [Scalar α] {text : String} {ss : List Numbered}
    (h : Document.read text = .ok ss) :
    Checked.build ss = some (Diagram.build ss) ∧
    ∀ d, Diagram.build ss = .ok d → d.Indexed ∧
      ∀ (style : Style α) (m : TextMetrics α) (phases : List Phase),
        ∃ p, Checked.runAll style m d (.unplaced d) phases = some p ∧
          p = Layout.runAll style m d (.unplaced d) phases ∧
          Checked.scene style d p = some (Drawing.scene style d p) := by
  refine ⟨Checked.build_eq (read_singleSided h), fun d hd => ?_⟩
  have hindexed := Diagram.indexed_of_build hd
  refine ⟨hindexed, fun style m phases => ?_⟩
  have hfits : (Placement.unplaced d : Placement α).Fits d := .unplaced d
  exact ⟨_, Checked.runAll_eq style m hindexed hfits phases, rfl, Checked.scene_eq style hindexed (hfits.runAll phases)⟩

/-- Marks too many, a message to oneself, a side note and a block with a label, with frames
    and bars asked for before anything is placed. -/
theorem Document.pipeline_checked_out_of_order :
    ∃ text ss d, text = "a->-b: early\nb->+b: again\nnote left of c: beside\nloop twice\nb->-a: back\nend" ∧
      Document.read text = .ok ss ∧ Diagram.build ss = .ok d ∧ Checked.build ss = some (.ok d) ∧ d.Indexed ∧
      Checked.runAll Style.default TextMetrics.estimated d (.unplaced d) [.frameBlocks, .placeBars, .placeEvents] =
        some (Layout.runAll Style.default (TextMetrics.estimated (α := Float)) d (.unplaced d)
          [.frameBlocks, .placeBars, .placeEvents]) := by
  have hread : Document.read "a->-b: early\nb->+b: again\nnote left of c: beside\nloop twice\nb->-a: back\nend" = .ok
      [⟨1, .message "a" ⟨.solid, some .finish⟩ "b" "early"⟩, ⟨2, .message "b" ⟨.solid, some .start⟩ "b" "again"⟩,
       ⟨3, .note .left ["c"] "beside"⟩, ⟨4, .blockStart .loop "twice"⟩,
       ⟨5, .message "b" ⟨.solid, some .finish⟩ "a" "back"⟩, ⟨6, .blockEnd⟩] := by
    decide +kernel
  obtain ⟨hbuild, hall⟩ := pipeline_checked (α := Float) hread
  obtain ⟨hindexed, hruns⟩ := hall _ rfl
  obtain ⟨p, hp, rfl, -⟩ := hruns .default .estimated [.frameBlocks, .placeBars, .placeEvents]
  exact ⟨_, _, _, rfl, hread, rfl, hbuild, hindexed, hp⟩

end SequenceDiagram
