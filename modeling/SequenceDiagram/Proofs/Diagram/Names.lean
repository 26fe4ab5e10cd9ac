/-
  SequenceDiagram.Proofs.Diagram.Names — actors in the order they are first mentioned.

  A message mentions its sender and then its receiver, a note its names as written. The
  actors of a linked diagram are the distinct names of its statements, each where it is
  mentioned first (`names_of_build`), a name is looked up to the one actor that has it
  (`resolves_of_build`), and every actor that an event refers to is one of them
  (`resolved_of_build`).
-/

import SequenceDiagram.Proofs.Diagram.Linking

namespace SequenceDiagram

/-- The names a statement mentions, in order. -/
def Statement.mentioned : Statement → List String
  | .message source _ destination _ => [source, destination]
  | .note _ names _ => names
  | _ => []

def mentioned (ss : List Numbered) : List String := ss.flatMap (·.statement.mentioned)

theorem eraseDups_append_singleton (names : List String) (name : String) :
    (names ++ [name]).eraseDups = if name ∈ names then names.eraseDups else names.eraseDups ++ [name] := by
  rw [List.eraseDups_append]
  split
  · rename_i h
    simp [List.removeAll, h]
  · rename_i h
    simp [List.removeAll, h, List.eraseDups_cons]

theorem nodup_eraseDups (names : List String) : names.eraseDups.Nodup := by
  induction names using List.reverseRecOn with
  | nil => exact List.nodup_nil
  | append_singleton names name ih =>
    rw [eraseDups_append_singleton]
    by_cases h : name ∈ names
    · rw [if_pos h]
      exact ih
    · have hnew : name ∉ names.eraseDups := fun hmem => h (List.mem_eraseDups.mp hmem)
      rw [if_neg h]
      exact List.nodup_append.mpr ⟨ih, List.pairwise_singleton .., fun other hmem last hlast heq =>
        hnew (List.mem_singleton.mp hlast ▸ heq ▸ hmem)⟩

namespace Diagram

variable {d : Diagram} {seen : List String}

theorem actorId?_eq_none_iff {name : String} : d.actorId? name = none ↔ name ∉ d.names := by
  unfold actorId? names
  rw [List.findIdx?_eq_none_iff]
  simp only [beq_eq_false_iff_ne, List.mem_map, not_exists, not_and]

theorem actorId?_eq_findIdx?_names (d : Diagram) (name : String) : d.actorId? name = d.names.findIdx? (· == name) := by
  rw [names, List.findIdx?_map]
  rfl

theorem actorId?_append (d : Diagram) (a : Actor) (name : String) :
    actorId? { d with actors := d.actors ++ [a] } name =
      (d.actorId? name).or (if a.name = name then some d.actors.length else none) := by
  unfold actorId?
  rw [List.findIdx?_append]
  by_cases hname : a.name = name <;> simp [hname, List.findIdx?_cons]

/-- The actor found by a name is the one that has it, where no two have the same. -/
theorem actorId?_eq_some_iff (hd : d.names.Nodup) {name : String} {i : Nat} :
    d.actorId? name = some i ↔ d.names[i]? = some name := by
  have hnamed : ∀ {k}, d.actorId? name = some k → d.names[k]? = some name := by
    intro k hk
    obtain ⟨hlt, hname, -⟩ := List.findIdx?_eq_some_iff_getElem.mp hk
    rw [names, List.getElem?_map, List.getElem?_eq_getElem hlt]
    exact congrArg some (beq_iff_eq.mp hname)
  refine ⟨hnamed, fun h => ?_⟩
  obtain ⟨hlt, -⟩ := List.getElem?_eq_some_iff.mp h
  cases hk : d.actorId? name with
  | none => exact absurd (List.mem_of_getElem? h) (actorId?_eq_none_iff.mp hk)
  | some k => rw [(List.getElem?_inj hlt hd).mp (h.trans (hnamed hk).symm)]

/-- A name that is registered is added when it is not there yet. -/
theorem names_register_of_seen (h : d.names = seen.eraseDups) (name : String) :
    (d.register name).1.names = (seen ++ [name]).eraseDups := by
  rw [eraseDups_append_singleton, ← h]
  unfold register
  cases hid : d.actorId? name with
  | some id =>
    have hmem : name ∈ d.names := by
      by_contra hnot
      rw [actorId?_eq_none_iff.mpr hnot] at hid
      cases hid
    rw [if_pos (List.mem_eraseDups.mp (h ▸ hmem))]
  | none =>
    have hnot : name ∉ seen := fun hmem => actorId?_eq_none_iff.mp hid (h ▸ List.mem_eraseDups.mpr hmem)
    rw [if_neg hnot]
    exact List.map_append

theorem names_registerAll_of_seen (h : d.names = seen.eraseDups) (names : List String) :
    (d.registerAll names).1.names = (seen ++ names).eraseDups := by
  induction names generalizing d seen with
  | nil =>
    rw [List.append_nil]
    exact h
  | cons name names ih =>
    rw [← List.singleton_append, ← List.append_assoc]
    exact ih (names_register_of_seen h name)

end Diagram

theorem Draft.names_of_add {d e : Draft} {s : Numbered} {seen : List String} (h : d.diagram.names = seen.eraseDups)
    (hs : d.add s = .ok e) : e.diagram.names = (seen ++ s.statement.mentioned).eraseDups := by
  obtain ⟨line, statement⟩ := s
  cases statement with
  | message source arrow destination text =>
    cases hs
    have hboth := Diagram.names_register_of_seen (Diagram.names_register_of_seen h source) destination
    rw [List.append_assoc] at hboth
    exact (Diagram.applyMark_names ..).trans hboth
  | note side names text =>
    cases hs
    exact Diagram.names_registerAll_of_seen h names
  | blockStart kind text =>
    cases hs
    exact h.trans (congrArg _ (List.append_nil _).symm)
  | otherwise text =>
    cases hs
    exact h.trans (congrArg _ (List.append_nil _).symm)
  | blockEnd =>
    simp only [add] at hs
    split at hs
    · cases hs
    · cases hs
      exact h.trans (congrArg _ (List.append_nil _).symm)

/-- The actors are the distinct names of the statements, by first mention. -/
theorem Diagram.names_of_build {ss : List Numbered} {d : Diagram} (h : build ss = .ok d) :
    d.names = (mentioned ss).eraseDups := by
  obtain ⟨e, he, rfl⟩ := build_eq_ok_iff.mp h
  refine Draft.run_induction (P := fun ss e => e.diagram.names = (mentioned ss).eraseDups) rfl
    (fun ss d s e ih hs => ?_) he
  rw [mentioned, List.flatMap_append, List.flatMap_singleton]
  exact Draft.names_of_add ih hs

/-- Names stand for the actors they were first mentioned as, wherever they stand. -/
structure Diagram.Resolves (ss : List Numbered) (d : Diagram) : Prop where
  names : d.names = (mentioned ss).eraseDups
  found : ∀ name i, d.actorId? name = some i ↔ d.names[i]? = some name
  missed : ∀ name, d.actorId? name = none ↔ name ∉ mentioned ss
  events : List.Forall₂ (Tells d.names) (ss.filter (!·.statement.isOtherwise)) d.events

theorem Diagram.resolves_of_build {ss : List Numbered} {d : Diagram} (h : build ss = .ok d) : d.Resolves ss := by
  have hnames := names_of_build h
  have hdistinct : d.names.Nodup := hnames ▸ nodup_eraseDups _
  obtain ⟨e, he, rfl⟩ := build_eq_ok_iff.mp h
  refine ⟨hnames, fun name i => actorId?_eq_some_iff hdistinct, fun name => ?_, Draft.tells_of_run he⟩
  rw [actorId?_eq_none_iff, hnames, List.mem_eraseDups]

/-! ## Actors that events refer to -/

theorem Tells.referenced_lt {names : List String} {s : Numbered} {e : Event} {a : Nat} (h : Tells names s e)
    (ha : a ∈ e.action.referenced) : a < names.length := by
  cases h with
  | message line arrow i j text activation hi hj =>
    simp only [Action.referenced, Action.source?, Action.destination?, Action.noteActors, Option.toList_some,
      List.append_nil, List.singleton_append, List.mem_cons, List.not_mem_nil, or_false] at ha
    rcases ha with rfl | rfl
    · exact (List.getElem?_eq_some_iff.mp hi).1
    · exact (List.getElem?_eq_some_iff.mp hj).1
  | note line side ids text hids =>
    have hmem : a ∈ ids := by
      simp only [Action.referenced, Action.source?, Action.destination?, Action.noteActors, Option.toList_none,
        List.append_nil, List.mem_append, Option.mem_toList] at ha
      rcases ha with ha | ha
      · exact List.mem_of_head? ha
      · exact ha
    have hname : names[a]? ∈ ids.map (names[·]?) := List.mem_map_of_mem hmem
    rw [hids] at hname
    obtain ⟨name, -, hname⟩ := List.mem_map.mp hname
    exact (List.getElem?_eq_some_iff.mp hname.symm).1
  | blockStart line kind text => cases ha
  | blockEnd line => cases ha

/-- Every actor that an event refers to is there. -/
def Diagram.Resolved (d : Diagram) : Prop := ∀ e ∈ d.events, ∀ a ∈ e.action.referenced, a < d.actors.length

theorem Diagram.resolved_of_build {ss : List Numbered} {d : Diagram} (h : build ss = .ok d) : d.Resolved := by
  obtain ⟨draft, hrun, rfl⟩ := build_eq_ok_iff.mp h
  intro e he a ha
  obtain ⟨i, hi, rfl⟩ := List.getElem_of_mem he
  have htells := Draft.tells_of_run hrun
  have hnames : draft.diagram.names.length = draft.diagram.actors.length := List.length_map _
  rw [← hnames]
  exact (htells.get (htells.length_eq ▸ hi) hi).referenced_lt ha

end SequenceDiagram
