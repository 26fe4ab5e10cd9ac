/-
  SequenceDiagram.Proofs.Diagram.Unnumbered — linking does not look at line numbers.

  What a document says is its statements but `else`, without the lines they stand on
  (`gist`). A diagram or a draft without its lines is what linking the same statements
  without lines gives: names, marks and blocks go by positions among the events, and an
  `else` takes none (`Draft.add_unnumbered`, `Draft.run_unnumbered`). So two documents of
  one gist are linked alike (`Diagram.build_cases_of_gist`): both fail, or both give one
  diagram but for the lines of its events.
-/

import SequenceDiagram.Proofs.Diagram.Linking

namespace SequenceDiagram

/-- The statements but `else`, without their lines. -/
def gist (ss : List Numbered) : List Statement := (ss.map (·.statement)).filter (!·.isOtherwise)

def Event.unnumbered (e : Event) : Event := { e with line := 0 }

def Diagram.unnumbered (d : Diagram) : Diagram := { d with events := d.events.map Event.unnumbered }

def Draft.unnumbered (d : Draft) : Draft := { d with diagram := d.diagram.unnumbered }

theorem gist_cons (s : Numbered) (ss : List Numbered) :
    gist (s :: ss) = if s.statement.isOtherwise then gist ss else s.statement :: gist ss := by
  unfold gist
  rw [List.map_cons, List.filter_cons]
  cases s.statement.isOtherwise <;> rfl

/-! ## Steps on a diagram -/

namespace Diagram

variable (d : Diagram)

@[simp] theorem length_events_unnumbered : d.unnumbered.events.length = d.events.length := List.length_map _

theorem register_unnumbered (name : String) :
    d.unnumbered.register name = ((d.register name).1.unnumbered, (d.register name).2) := by
  have hid : d.unnumbered.actorId? name = d.actorId? name := rfl
  unfold register
  rw [hid]
  cases d.actorId? name <;> rfl

theorem registerAll_unnumbered (names : List String) :
    d.unnumbered.registerAll names = ((d.registerAll names).1.unnumbered, (d.registerAll names).2) := by
  induction names generalizing d with
  | nil => rfl
  | cons name names ih => simp only [registerAll, register_unnumbered, ih]

theorem addEvent_unnumbered (line : Nat) (action : Action) :
    (d.addEvent line action).unnumbered = d.unnumbered.addEvent 0 action := by
  simp [addEvent, unnumbered, Event.unnumbered]

theorem startActivation_unnumbered (actor : Nat) :
    d.unnumbered.startActivation actor = ((d.startActivation actor).1.unnumbered, (d.startActivation actor).2) := by
  simp [startActivation, unnumbered]

theorem finishActivation_unnumbered (actor : Nat) :
    d.unnumbered.finishActivation actor = ((d.finishActivation actor).1.unnumbered, (d.finishActivation actor).2) := by
  have hactors : d.unnumbered.actors = d.actors := rfl
  unfold finishActivation
  rw [hactors, length_events_unnumbered]
  cases (d.actors[actor]?).bind (·.opened.pop?) <;> rfl

theorem applyMark_unnumbered (source destination : Nat) (mark : Option Mark) :
    d.unnumbered.applyMark source destination mark =
      ((d.applyMark source destination mark).1.unnumbered, (d.applyMark source destination mark).2) := by
  rcases mark with _ | _ | _
  · rfl
  · exact d.startActivation_unnumbered destination
  · exact d.finishActivation_unnumbered source

end Diagram

/-! ## Steps and runs of a draft -/

namespace Draft

/-- A statement does to a draft without lines what it does to the draft, and fails where it fails. -/
theorem add_unnumbered (d : Draft) (s : Numbered) :
    (d.unnumbered.add ⟨0, s.statement⟩).toOption = (d.add s).toOption.map unnumbered := by
  obtain ⟨line, statement⟩ := s
  cases statement with
  | message source arrow destination text =>
    simp only [add_message, unnumbered, Diagram.register_unnumbered, Diagram.applyMark_unnumbered, Except.toOption,
      Option.map_some, Diagram.addEvent_unnumbered]
  | note side names text =>
    simp only [add_note, unnumbered, Diagram.registerAll_unnumbered, Except.toOption, Option.map_some,
      Diagram.addEvent_unnumbered]
  | blockStart kind text =>
    simp only [add, unnumbered, Except.toOption, Option.map_some, Diagram.addEvent_unnumbered,
      Diagram.length_events_unnumbered]
  | otherwise text => rfl
  | blockEnd =>
    have hopen : d.unnumbered.openBlocks = d.openBlocks := rfl
    simp only [add, hopen]
    cases d.openBlocks.pop? with
    | none => rfl
    | some top =>
      simp only [unnumbered, Except.toOption, Option.map_some, Diagram.length_events_unnumbered,
        ← Diagram.addEvent_unnumbered _ line]
      rfl

theorem run_unnumbered (d : Draft) (ss : List Numbered) :
    (((gist ss).map (Numbered.mk 0)).foldlM add d.unnumbered).toOption = (ss.foldlM add d).toOption.map unnumbered := by
  induction ss generalizing d with
  | nil => rfl
  | cons s ss ih =>
    rw [gist_cons, List.foldlM_cons]
    by_cases helse : s.statement.isOtherwise = true
    · have hadd : d.add s = .ok d := by
        obtain ⟨line, statement⟩ := s
        cases statement with
        | otherwise text => rfl
        | _ => cases helse
      rw [if_pos helse, hadd]
      exact ih d
    · rw [if_neg helse, List.map_cons, List.foldlM_cons]
      have hstep := d.add_unnumbered s
      cases hadd : d.add s with
      | error f =>
        rw [hadd] at hstep
        cases herased : d.unnumbered.add ⟨0, s.statement⟩ with
        | error f' => rfl
        | ok e => rw [herased] at hstep; cases hstep
      | ok e =>
        rw [hadd] at hstep
        cases herased : d.unnumbered.add ⟨0, s.statement⟩ with
        | error f' => rw [herased] at hstep; cases hstep
        | ok e' =>
          rw [herased] at hstep
          obtain rfl : e' = e.unnumbered := Option.some.inj hstep
          exact ih e

end Draft

/-- The diagram of some statements is, but for the lines of its events, that of their gist. -/
theorem Diagram.build_gist (ss : List Numbered) :
    (build ss).toOption.map unnumbered = (build ((gist ss).map (Numbered.mk 0))).toOption := by
  have hrun := Draft.run_unnumbered .empty ss
  have hempty : Draft.empty.unnumbered = Draft.empty := rfl
  have hbuild : ∀ rs, (build rs).toOption = (rs.foldlM Draft.add .empty).toOption.map (·.diagram) := by
    intro rs
    unfold build
    cases rs.foldlM Draft.add .empty <;> rfl
  rw [hempty] at hrun
  rw [hbuild, hbuild, hrun, Option.map_map, Option.map_map]
  rfl

/-- Statements of one gist are both not linked, or linked to diagrams that differ in lines only. -/
theorem Diagram.build_cases_of_gist {ss ts : List Numbered} (h : gist ss = gist ts) :
    ((∃ f, build ss = .error f) ∧ ∃ f, build ts = .error f) ∨
    ∃ d e, build ss = .ok d ∧ build ts = .ok e ∧ d.unnumbered = e.unnumbered := by
  have hsame : (build ss).toOption.map unnumbered = (build ts).toOption.map unnumbered := by
    rw [build_gist, build_gist, h]
  cases hss : build ss with
  | error f =>
    rw [hss] at hsame
    cases hts : build ts with
    | error f' => exact .inl ⟨⟨f, rfl⟩, f', rfl⟩
    | ok e => rw [hts] at hsame; cases hsame
  | ok d =>
    rw [hss] at hsame
    cases hts : build ts with
    | error f' => rw [hts] at hsame; cases hsame
    | ok e =>
      rw [hts] at hsame
      exact .inr ⟨d, e, rfl, rfl, Option.some.inj hsame⟩

end SequenceDiagram
