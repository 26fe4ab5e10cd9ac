/-
  SequenceDiagram.Proofs.Document.Joining — one text below another.

  Two texts with a line feed between them have the lines of the upper one and then those
  of the lower one, which stand further down by as many lines as the upper one has
  (`numberedLines_append`). A line is read alike wherever it stands: all that changes is
  the number in its statement or in its failure (`readLine_lowered`).

  So reading the whole text follows from reading its two parts (`read_composes`). A line
  rejected in the upper part comes first, then one rejected in the lower part. When none
  is, the whole has the statements of both, and says nothing only if neither part does.
-/

import SequenceDiagram.Proofs.Document.Lines

namespace SequenceDiagram

/-! ## Further down -/

def Numbered.lowered (k : Nat) (s : Numbered) : Numbered := { s with line := s.line + k }

def Failure.lowered (k : Nat) : Failure → Failure
  | .unrecognizedLine line text => .unrecognizedLine (line + k) text
  | .unmatchedEnd line => .unmatchedEnd (line + k)
  | f => f

namespace Document

/-- Reading came upon a line that is no statement. -/
def Rejected (r : Except Failure (List Numbered)) : Prop := ∃ n said, r = .error (.unrecognizedLine n said)

/-- The statements read, none when reading failed. -/
def statements (r : Except Failure (List Numbered)) : List Numbered := r.toOption.getD []

/-- What reading a text comes to when it is made of two, the lower one beginning `k` lines
    below the upper. -/
structure Joined (k : Nat) (upper lower whole : Except Failure (List Numbered)) : Prop where
  rejectedAbove : ∀ n said, upper = .error (.unrecognizedLine n said) → whole = .error (.unrecognizedLine n said)
  rejectedBelow : ¬ Rejected upper → ∀ n said, lower = .error (.unrecognizedLine n said) →
    whole = .error (.unrecognizedLine (n + k) said)
  empty : whole = .error .emptyInput ↔ upper = .error .emptyInput ∧ lower = .error .emptyInput
  accepted : ¬ Rejected upper → ¬ Rejected lower → ¬ (upper = .error .emptyInput ∧ lower = .error .emptyInput) →
    whole = .ok (statements upper ++ (statements lower).map (Numbered.lowered k))

/-! ## The lines of two texts -/

theorem lines_append (a b : List Char) : Text.lines (a ++ '\n' :: b) = Text.lines a ++ Text.lines b := by
  rw [lines_eq_splitOn, lines_eq_splitOn, lines_eq_splitOn, List.splitOn_append_cons_self]

theorem length_lines (s : List Char) : (Text.lines s).length = 1 + s.count '\n' := by
  induction s with
  | nil => rfl
  | cons c s ih =>
    have hrest : (Text.cutLine s).2.length + 1 = 1 + s.count '\n' := ih
    by_cases hc : c = '\n'
    · subst hc
      rw [List.count_cons_self, ← Nat.add_assoc, ← hrest]
      rfl
    · rw [List.count_cons_of_ne hc, ← hrest]
      simp only [Text.lines, Text.cutLine, if_neg hc, List.length_cons]

/-- The lines of the lower text keep their order and what they say. -/
theorem numberedLines_append (a b : List Char) : numberedLines (a ++ '\n' :: b) =
    numberedLines a ++ (numberedLines b).map (Prod.map (· + (1 + a.count '\n')) id) := by
  have hnumbers : (Text.lines b).mapIdx (fun i l => (i + (1 + a.count '\n') + 1, l)) =
      ((Text.lines b).mapIdx fun i l => (i + 1, l)).map (Prod.map (· + (1 + a.count '\n')) id) := by
    refine List.ext_getElem? fun i => ?_
    rw [List.getElem?_map, List.getElem?_mapIdx, List.getElem?_mapIdx, Option.map_map]
    refine congrArg (Option.map · _) (funext fun l => Prod.ext ?_ rfl)
    exact Nat.add_right_comm ..
  unfold numberedLines
  rw [lines_append, List.mapIdx_append, List.filter_append, length_lines, hnumbers, List.filter_map]
  rfl

/-! ## Lines read further down -/

theorem statement_read_lowered (k n : Nat) (s : String) :
    Statement.read (n + k) s = (Statement.read n s).mapError (Failure.lowered k) := by
  unfold Statement.read
  split
  · rfl
  · split <;> rfl

theorem readLine_lowered (k n : Nat) (l : List Char) :
    readLine (n + k, l) = ((readLine (n, l)).map (Numbered.lowered k)).mapError (Failure.lowered k) := by
  unfold readLine
  rw [statement_read_lowered]
  cases Statement.read n (String.ofList l) <;> rfl

theorem mapM_readLine_lowered (k : Nat) (ls : List (Nat × List Char)) :
    (ls.map (Prod.map (· + k) id)).mapM readLine =
      ((ls.mapM readLine).map (List.map (Numbered.lowered k))).mapError (Failure.lowered k) := by
  induction ls with
  | nil => rfl
  | cons line ls ih =>
    obtain ⟨n, l⟩ := line
    rw [List.map_cons, List.mapM_cons, List.mapM_cons, ih, Prod.map_apply, id_eq, readLine_lowered]
    cases readLine (n, l) with
    | error f => rfl
    | ok s => cases ls.mapM readLine <;> rfl

/-- Reading two texts, one below the other, in terms of reading the lines of each. -/
theorem mapM_readLine_append (a b : List Char) : (numberedLines (a ++ '\n' :: b)).mapM readLine = (do
    let ss ← (numberedLines a).mapM readLine
    let ts ← (((numberedLines b).mapM readLine).map (List.map (Numbered.lowered (1 + a.count '\n')))).mapError
      (Failure.lowered (1 + a.count '\n'))
    return ss ++ ts) := by
  rw [numberedLines_append, List.mapM_append, mapM_readLine_lowered]

/-! ## The outcome of both -/

variable {text : String} {f : Failure}

theorem read_eq_of_ne_nil (h : numberedLines text.toList ≠ []) :
    read text = (numberedLines text.toList).mapM readLine := by
  obtain ⟨⟨n, l⟩, hmem⟩ := List.exists_mem_of_ne_nil _ h
  exact read_eq_mapM ⟨n, l, mem_numberedLines.mp hmem⟩

theorem read_of_mapM_error (h : (numberedLines text.toList).mapM readLine = .error f) : read text = .error f := by
  rw [read_eq_of_ne_nil, h]
  intro hnil
  rw [hnil] at h
  cases h

theorem read_eq_emptyInput_iff : read text = .error .emptyInput ↔ numberedLines text.toList = [] := by
  constructor
  · intro h
    by_contra hne
    rw [read_eq_of_ne_nil hne] at h
    obtain ⟨n, l, -, hf⟩ := firstRejected_of_mapM h
    cases hf
  · intro hnil
    rw [read, hnil]

theorem mapM_of_rejected {n : Nat} {said : String} (h : read text = .error (.unrecognizedLine n said)) :
    (numberedLines text.toList).mapM readLine = .error (.unrecognizedLine n said) := by
  rw [← h, read_eq_of_ne_nil]
  intro hnil
  rw [read_eq_emptyInput_iff.mpr hnil] at h
  cases h

/-- Unless a line is rejected, the lines that say something have the statements. -/
theorem mapM_of_not_rejected (h : ¬ Rejected (read text)) :
    (numberedLines text.toList).mapM readLine = .ok (statements (read text)) := by
  by_cases hnil : numberedLines text.toList = []
  · rw [read_eq_emptyInput_iff.mpr hnil, hnil]
    rfl
  · cases hm : (numberedLines text.toList).mapM readLine with
    | ok ss =>
      rw [read_eq_of_ne_nil hnil, hm]
      rfl
    | error f =>
      obtain ⟨n, l, -, rfl⟩ := firstRejected_of_mapM hm
      exact absurd ⟨n, _, read_of_mapM_error hm⟩ h

theorem joined_read (a b : String) :
    Joined (1 + a.toList.count '\n') (read a) (read b) (read (a ++ "\n" ++ b)) := by
  have hchars : (a ++ "\n" ++ b).toList = a.toList ++ '\n' :: b.toList := by
    rw [String.toList_append, String.toList_append, List.append_assoc]
    rfl
  have hwhole := mapM_readLine_append a.toList b.toList
  rw [← hchars] at hwhole
  have hempty : read (a ++ "\n" ++ b) = .error .emptyInput ↔
      read a = .error .emptyInput ∧ read b = .error .emptyInput := by
    rw [read_eq_emptyInput_iff, read_eq_emptyInput_iff, read_eq_emptyInput_iff, hchars, numberedLines_append,
      List.append_eq_nil_iff, List.map_eq_nil_iff]
  refine ⟨fun n said ha => ?_, fun ha n said hb => ?_, hempty, fun ha hb hsome => ?_⟩
  · rw [mapM_of_rejected ha] at hwhole
    exact read_of_mapM_error hwhole
  · rw [mapM_of_not_rejected ha, mapM_of_rejected hb] at hwhole
    exact read_of_mapM_error hwhole
  · rw [mapM_of_not_rejected ha, mapM_of_not_rejected hb] at hwhole
    rw [read_eq_of_ne_nil fun hnil => hsome (hempty.mp (read_eq_emptyInput_iff.mpr hnil))]
    exact hwhole

/-- Reading composes. Of two texts one below the other it gives what the parts give, the lower
    one further down; and statements come in the order of their lines, each what the line of
    its number says. -/
theorem read_composes :
    (∀ a b : String, Joined (1 + a.toList.count '\n') (read a) (read b) (read (a ++ "\n" ++ b))) ∧
    ∀ text ss, read text = .ok ss → ss.Pairwise (·.line < ·.line) ∧
      ∀ s ∈ ss, ∃ l, HasLine text s.line l ∧ Statement.read s.line (String.ofList l) = .ok s.statement := by
  refine ⟨joined_read, fun text ss h => ?_⟩
  obtain ⟨-, hreads⟩ := read_eq_ok_iff.mp h
  exact ⟨hreads.ordered, fun s hs => (hreads.mem_iff s).mp hs⟩

/-- A comment and an empty last line above; below, an `end`, and then a line that is rejected. -/
theorem read_composes_rejected_below : ∃ a b c : String, a = "# above\nx->y: one\n" ∧ b = "\tend" ∧ c = "end\nno such" ∧
    read (a ++ "\n" ++ b) = .ok [⟨2, .message "x" ⟨.solid, none⟩ "y" "one"⟩, ⟨4, .blockEnd⟩] ∧
    read (a ++ "\n" ++ c) = .error (.unrecognizedLine 5 "no such") ∧
    ∃ l, HasLine b 1 l ∧ Statement.read 1 (String.ofList l) = .ok .blockEnd := by
  have ha : read "# above\nx->y: one\n" = .ok [⟨2, .message "x" ⟨.solid, none⟩ "y" "one"⟩] := by decide +kernel
  have hb : read "\tend" = .ok [⟨1, .blockEnd⟩] := by decide +kernel
  have hc : read "end\nno such" = .error (.unrecognizedLine 2 "no such") := by decide +kernel
  have hok : ∀ {r : Except Failure (List Numbered)} {ss}, r = .ok ss → ¬ Rejected r := by
    rintro r ss rfl ⟨n, said, h⟩
    cases h
  obtain ⟨hjoined, hlines⟩ := read_composes
  refine ⟨_, _, _, rfl, rfl, rfl, ?_, (hjoined _ _).rejectedBelow (hok ha) 2 _ hc,
    (hlines _ _ hb).2 ⟨1, .blockEnd⟩ (List.mem_singleton_self _)⟩
  rw [(hjoined _ _).accepted (hok ha) (hok hb) (by rw [ha]; exact fun h => nomatch h.1), ha, hb]
  rfl

end Document

end SequenceDiagram
