/-
  SequenceDiagram.Proofs.Stored.Naming — every name resolved, wherever it stands.

  The index and the actors are grown together while an event is put together, so that
  between any two lookups each is the other's inverse. For the records of statements that
  can be linked (`Faithful`): the actors are the distinct names by first mention and have
  their positions for numbers, the index finds the position of each of them and nothing
  else, and the events are the statements but `else`, one for one, with every name turned
  into the number the index has for it in the end (`Recorded`).

  Numbers never change once given, so it does not matter that an event was put together
  when the index was smaller: an event tells its statement over the names of all actors,
  and no two actors share a name (`Diagram.Resolves`, `recorded_of_tells`).
-/

import SequenceDiagram.Proofs.Stored.Builder

namespace SequenceDiagram.Stored

/-- A statement as an event, with its names as the index has them. A note's first actor is
    its source, and a block marker refers to no actor. -/
inductive Recorded (r : Records) : Numbered → EventRecord → Prop
  | message (id line : Nat) (arrow : Arrow) {source destination : String} {i j : Nat} (text : String)
      (activation : Option Nat) : r.actorId? source = some i → r.actorId? destination = some j →
      Recorded r ⟨line, .message source arrow destination text⟩
        ⟨id, .message arrow, line, some i, some j, [], text, activation⟩
  | note (id line : Nat) (side : Side) {names : List String} {ids : List Nat} (text : String) :
      ids.map some = names.map r.actorId? →
      Recorded r ⟨line, .note side names text⟩ ⟨id, .note side, line, ids.head?, none, ids, text, none⟩
  | blockStart (id line : Nat) (kind : BlockKind) (text : String) :
      Recorded r ⟨line, .blockStart kind text⟩ ⟨id, .blockStart kind, line, none, none, [], text, none⟩
  | blockEnd (id line : Nat) :
      Recorded r ⟨line, .blockEnd⟩ ⟨id, .blockEnd, line, none, none, [], "", none⟩

/-- The records of some statements have every name where it belongs. -/
structure Faithful (ss : List Numbered) (r : Records) : Prop where
  names : r.actors.map (·.name) = (mentioned ss).eraseDups
  actorIds : ∀ (i : Nat) a, r.actors[i]? = some a → a.id = i
  found : ∀ name i, r.actorId? name = some i ↔ ∃ a, r.actors[i]? = some a ∧ a.name = name
  missed : ∀ name, r.actorId? name = none ↔ name ∉ mentioned ss
  events : List.Forall₂ (Recorded r) (ss.filter (!·.statement.isOtherwise)) r.events
  eventIds : ∀ (i : Nat) e, r.events[i]? = some e → e.id = i

/-! ## From what is linked -/

namespace Records.Reflects

variable {r : Records} {d : Diagram}

theorem names (h : r.Reflects d) : r.actors.map (·.name) = d.names := by
  apply List.ext_getElem?
  intro i
  rw [List.getElem?_map, h.actor, Diagram.names, List.getElem?_map]
  cases d.actors[i]? <;> rfl

variable {ss : List Numbered}

theorem found_all (h : r.Reflects d) (hd : d.Resolves ss) {ids : List Nat} {names : List String}
    (hids : ids.map (d.names[·]?) = names.map some) : ids.map some = names.map r.actorId? := by
  induction ids generalizing names with
  | nil =>
    cases names with
    | nil => rfl
    | cons => cases hids
  | cons id ids ih =>
    cases names with
    | nil => cases hids
    | cons name names =>
      obtain ⟨hid, hrest⟩ := List.cons.inj hids
      rw [List.map_cons, List.map_cons, ih hrest, h.index, (hd.found name id).mpr hid]

theorem recorded_of_tells (h : r.Reflects d) (hd : d.Resolves ss) {s : Numbered} {e : Event} (hs : Tells d.names s e)
    (i : Nat) : Recorded r s (eventRecord i e) := by
  have hfound : ∀ {name : String} {k : Nat}, d.names[k]? = some name → r.actorId? name = some k := by
    intro name k hk
    rw [h.index]
    exact (hd.found name k).mpr hk
  cases hs with
  | message line arrow j k text activation hj hk => exact .message i line arrow text activation (hfound hj) (hfound hk)
  | note line side ids text hids => exact .note i line side text (h.found_all hd hids)
  | blockStart line kind text => exact .blockStart i line kind text
  | blockEnd line => exact .blockEnd i line

theorem faithful (h : r.Reflects d) (hd : d.Resolves ss) : Faithful ss r := by
  constructor
  case names => rw [h.names, hd.names]
  case actorIds =>
    intro i a ha
    rw [h.actor] at ha
    obtain ⟨x, -, rfl⟩ := Option.map_eq_some_iff.mp ha
    rfl
  case found =>
    intro name i
    rw [h.index, hd.found, ← h.names, List.getElem?_map, Option.map_eq_some_iff]
  case missed =>
    intro name
    rw [h.index, hd.missed]
  case events =>
    have hlength := hd.events.length_eq
    rw [h.events, List.forall₂_iff_get]
    refine ⟨hlength.trans List.length_mapIdx.symm, fun i hi hj => ?_⟩
    have hrecorded := h.recorded_of_tells hd (hd.events.get hi (hlength ▸ hi)) i
    simpa using hrecorded
  case eventIds =>
    intro i e he
    rw [h.events, List.getElem?_mapIdx] at he
    obtain ⟨x, -, rfl⟩ := Option.map_eq_some_iff.mp he
    rfl

end Records.Reflects

/-- Statements that can be linked resolve every name, in the diagram and in its records. -/
theorem faithful_of_build {ss : List Numbered} {d : Diagram} (h : Diagram.build ss = .ok d) :
    d.Resolves ss ∧ ∃ r, build ss = .ok r ∧ r.Reflects d ∧ Faithful ss r := by
  have hd := Diagram.resolves_of_build h
  obtain ⟨r, hr, hreflects⟩ := build_of_ok h
  exact ⟨hd, r, hr, hreflects, hreflects.faithful hd⟩

/-- A note that names one actor twice, and an `else` that takes no number. -/
theorem faithful_repeated :
    ∃ ss, ss = [⟨1, .message "b" ⟨.solid, some .start⟩ "a" "out"⟩, ⟨2, .otherwise "or"⟩,
      ⟨3, .note .over ["c", "a", "c"] "both"⟩, ⟨4, .blockStart .alt "d"⟩, ⟨5, .blockEnd⟩] ∧
    ∃ d r, Diagram.build ss = .ok d ∧ build ss = .ok r ∧ Faithful ss r ∧
      r.actors = [⟨0, "b", ⟨[]⟩, []⟩, ⟨1, "a", ⟨[0]⟩, [0]⟩, ⟨2, "c", ⟨[]⟩, []⟩] ∧
      r.actorId? "a" = some 1 ∧ r.actorId? "d" = none ∧
      r.events = [⟨0, .message ⟨.solid, some .start⟩, 1, some 0, some 1, [], "out", some 0⟩,
        ⟨1, .note .over, 3, some 2, none, [2, 1, 2], "both", none⟩,
        ⟨2, .blockStart .alt, 4, none, none, [], "d", none⟩, ⟨3, .blockEnd, 5, none, none, [], "", none⟩] := by
  let linked : Diagram :=
    ⟨[⟨"b", ⟨[]⟩, []⟩, ⟨"a", ⟨[0]⟩, [0]⟩, ⟨"c", ⟨[]⟩, []⟩],
     [⟨1, .message ⟨.solid, some .start⟩ 0 1 "out" (some 0)⟩, ⟨3, .note .over [2, 1, 2] "both"⟩,
      ⟨4, .blockStart .alt "d"⟩, ⟨5, .blockEnd⟩],
     [⟨1, 0, none, none⟩], [⟨.alt, "d", 2, 3⟩]⟩
  have hlinked : Diagram.build [⟨1, .message "b" ⟨.solid, some .start⟩ "a" "out"⟩, ⟨2, .otherwise "or"⟩,
      ⟨3, .note .over ["c", "a", "c"] "both"⟩, ⟨4, .blockStart .alt "d"⟩, ⟨5, .blockEnd⟩] = .ok linked := rfl
  obtain ⟨-, r, hr, hreflects, hfaithful⟩ := faithful_of_build hlinked
  refine ⟨_, rfl, linked, r, hlinked, hr, hfaithful, hreflects.actors, ?_, ?_, hreflects.events⟩
  · rw [hreflects.index]
    rfl
  · rw [hreflects.index]
    rfl

end SequenceDiagram.Stored
