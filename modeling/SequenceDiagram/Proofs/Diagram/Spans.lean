/-
  SequenceDiagram.Proofs.Diagram.Spans — what marks keep true of the activations.

  The numbers of the activations follow their starts, so what an actor has open at any
  time is a list in order of starting (`openBefore`), whose last one is the innermost.

  The invariant (`Diagram.Spanned`) ties three things to the run of brackets that the
  marks are for each actor: the openings are the starts of its activations, the closing
  of an opening is the end of its activation, and the openings not closed yet are the
  starts of what is on its stack. So the opening an end mark closes is the top of the
  stack (`head?_unclosed`), and starting and ending keep the invariant.
-/

import Mathlib.Data.List.Sort
import SequenceDiagram.Proofs.Diagram.Marking

namespace SequenceDiagram

open SequenceDiagram.Bracket (Closes unclosed)

namespace Diagram

/-- The activations an actor has open just before an event. -/
def openBefore (d : Diagram) (actor event : Nat) : List Nat :=
  d.activations.findIdxs fun x => x.actor == actor && decide (x.start < event) && x.finish.all (decide <| event ≤ ·)

/-- The activations of an actor that never end. -/
def openOf (d : Diagram) (actor : Nat) : List Nat :=
  d.activations.findIdxs fun x => x.actor == actor && x.finish.isNone

def activationsOf (d : Diagram) (actor : Nat) : List Nat := d.activations.findIdxs (·.actor == actor)

/-- Where an activation starts. -/
def startOf (d : Diagram) (k : Nat) : Nat := (d.activations[k]?).elim 0 (·.start)

end Diagram

section Numbering

variable {α : Type} {xs : List α} {x y : α} {p q : α → Bool} {i k : Nat} {f : α → α}

theorem mem_findIdxs : k ∈ xs.findIdxs p ↔ ∃ x, xs[k]? = some x ∧ p x = true := by
  simp only [List.mem_findIdxs_iff_exists_getElem_pos, List.getElem?_eq_some_iff]
  exact ⟨fun ⟨hk, hp⟩ => ⟨_, ⟨hk, rfl⟩, hp⟩, fun ⟨x, ⟨hk, hx⟩, hp⟩ => ⟨hk, hx ▸ hp⟩⟩

theorem getElem?_append_singleton_iff : (xs ++ [x])[i]? = some y ↔ xs[i]? = some y ∨ i = xs.length ∧ x = y := by
  rw [List.getElem?_append]
  split
  · rename_i hi
    exact ⟨.inl, fun h => h.resolve_right fun ⟨heq, _⟩ => by omega⟩
  · rename_i hi
    rw [List.getElem?_singleton, List.getElem?_eq_none (by omega : xs.length ≤ i)]
    split <;> simp <;> omega

theorem getElem?_modify_iff : (xs.modify i f)[k]? = some y ↔ ∃ x, xs[k]? = some x ∧ (if i = k then f x else x) = y := by
  rw [List.getElem?_modify]
  exact Option.map_eq_some_iff

theorem findIdxs_congr (h : ∀ x ∈ xs, p x = q x) : xs.findIdxs p = xs.findIdxs q := by
  refine List.pairwise_findIdxs.eq_of_mem_iff List.pairwise_findIdxs fun k => ?_
  simp only [mem_findIdxs]
  exact exists_congr fun x => and_congr_right fun hx => by rw [h x (List.mem_of_getElem? hx)]

theorem findIdxs_modify (h : ∀ x, xs[i]? = some x → p (f x) = p x) : (xs.modify i f).findIdxs p = xs.findIdxs p := by
  refine List.pairwise_findIdxs.eq_of_mem_iff List.pairwise_findIdxs fun k => ?_
  simp only [mem_findIdxs, getElem?_modify_iff]
  constructor
  · intro hk
    obtain ⟨_, ⟨x, hx, rfl⟩, hp⟩ := hk
    refine ⟨x, hx, ?_⟩
    split at hp
    · rename_i heq
      rwa [h x (heq ▸ hx)] at hp
    · exact hp
  · intro hk
    obtain ⟨x, hx, hp⟩ := hk
    refine ⟨_, ⟨x, hx, rfl⟩, ?_⟩
    split
    · rename_i heq
      rwa [h x (heq ▸ hx)]
    · exact hp

/-- Where the last number loses the property, the others stay. -/
theorem findIdxs_modify_last {rest : List Nat} (h : xs.findIdxs p = rest ++ [i]) (hf : ∀ x, p (f x) = false) :
    (xs.modify i f).findIdxs p = rest := by
  have hordered : (rest ++ [i]).Pairwise (· < ·) := h ▸ List.pairwise_findIdxs
  have hbelow : ∀ k ∈ rest, k < i := fun k hk => (List.pairwise_append.mp hordered).2.2 k hk i List.mem_cons_self
  refine List.pairwise_findIdxs.eq_of_mem_iff (List.pairwise_append.mp hordered).1 fun k => ?_
  have hmem : k ∈ xs.findIdxs p ↔ k ∈ rest ∨ k = i := by rw [h, List.mem_append, List.mem_singleton]
  rw [mem_findIdxs] at hmem
  simp only [mem_findIdxs, getElem?_modify_iff]
  constructor
  · intro hk
    obtain ⟨_, ⟨x, hx, rfl⟩, hp⟩ := hk
    split at hp
    · rw [hf] at hp
      cases hp
    · rename_i hne
      exact (hmem.mp ⟨x, hx, hp⟩).resolve_right (Ne.symm hne)
  · intro hk
    obtain ⟨x, hx, hp⟩ := hmem.mpr (.inl hk)
    have hlt := hbelow k hk
    exact ⟨_, ⟨x, hx, rfl⟩, by rwa [if_neg (by omega)]⟩

end Numbering

/-! ## The invariant -/

/-- What holds of the activations of a diagram after every step. -/
structure Diagram.Spanned (d : Diagram) : Prop where
  ordered : d.activations.Pairwise (·.start < ·.start)
  started : ∀ a i : Nat, (d.roles a)[i]? = some (some .opening) ↔
    ∃ (k : Nat) (x : Activation), d.activations[k]? = some x ∧ x.actor = a ∧ x.start = i
  finish : ∀ (k : Nat) x, d.activations[k]? = some x → ∀ j, x.finish = some j ↔ Closes (d.roles x.actor) x.start j
  parent : ∀ (k : Nat) x, d.activations[k]? = some x → x.parent = (d.openBefore x.actor x.start).getLast?
  marked : ∀ (i : Nat) e, d.events[i]? = some e → ∀ k, e.action.activation? = some k ↔
    ∃ x, d.activations[k]? = some x ∧ (x.start = i ∨ x.finish = some i)
  ended : ∀ (i : Nat) e a, d.events[i]? = some e → e.action.role a = some .closing →
    e.action.activation? = (d.openBefore a i).getLast?
  stack : ∀ a, d.stackOf a = d.openOf a
  owned : ∀ a, d.ownedBy a = d.activationsOf a

namespace Diagram.Spanned

variable {d g : Diagram} {a i j k : Nat} {x y : Activation}

theorem empty : Spanned Diagram.empty where
  ordered := .nil
  started a i := by simp [roles, Diagram.empty]
  finish := nofun
  parent := nofun
  marked := nofun
  ended := nofun
  stack a := rfl
  owned a := rfl

theorem startOf_of_getElem? (hx : d.activations[k]? = some x) : d.startOf k = x.start := by
  rw [startOf, hx]
  rfl

theorem length_roles (d : Diagram) (a : Nat) : (d.roles a).length = d.events.length := List.length_map _

theorem start_lt (h : Spanned d) (hx : d.activations[k]? = some x) : x.start < d.events.length := by
  have hopen := (h.started x.actor x.start).mpr ⟨k, x, hx, rfl, rfl⟩
  exact length_roles d x.actor ▸ (List.getElem?_eq_some_iff.mp hopen).1

theorem finish_lt (h : Spanned d) (hx : d.activations[k]? = some x) (hj : x.finish = some j) :
    j < d.events.length :=
  length_roles d x.actor ▸ ((h.finish k x hx j).mp hj).lt_length

theorem start_lt_start (h : Spanned d) {k' : Nat} (hx : d.activations[k]? = some x)
    (hy : d.activations[k']? = some y) (hlt : k < k') : x.start < y.start := by
  obtain ⟨hk, rfl⟩ := List.getElem?_eq_some_iff.mp hx
  obtain ⟨hk', rfl⟩ := List.getElem?_eq_some_iff.mp hy
  exact List.pairwise_iff_getElem.mp h.ordered k k' hk hk' hlt

theorem start_inj (h : Spanned d) {k' : Nat} (hx : d.activations[k]? = some x) (hy : d.activations[k']? = some y)
    (heq : x.start = y.start) : k = k' := by
  rcases Nat.lt_trichotomy k k' with hlt | heq' | hlt
  · have := h.start_lt_start hx hy hlt; omega
  · exact heq'
  · have := h.start_lt_start hy hx hlt; omega

theorem mem_stack (h : Spanned d) :
    k ∈ d.stackOf a ↔ ∃ x, d.activations[k]? = some x ∧ x.actor = a ∧ x.finish = none := by
  rw [h.stack, openOf, mem_findIdxs]
  simp

/-- Before the next event an actor has open what never ended so far. -/
theorem openBefore_length (h : Spanned d) (a : Nat) : d.openBefore a d.events.length = d.stackOf a := by
  rw [h.stack]
  refine findIdxs_congr fun x hx => ?_
  obtain ⟨k, hk⟩ := List.mem_iff_getElem?.mp hx
  have hstart := h.start_lt hk
  cases hj : x.finish with
  | none => simp [hstart]
  | some j =>
    have := h.finish_lt hk hj
    simp [hstart]
    omega

/-! ## What is open is what is not closed -/

theorem mem_unclosed (h : Spanned d) : i ∈ unclosed (d.roles a) ↔
    ∃ (k : Nat) (x : Activation), d.activations[k]? = some x ∧ x.actor = a ∧ x.start = i ∧ x.finish = none := by
  rw [Bracket.mem_unclosed_iff, h.started]
  constructor
  · intro hspan
    obtain ⟨⟨k, x, hx, rfl, rfl⟩, hno⟩ := hspan
    refine ⟨k, x, hx, rfl, rfl, Option.eq_none_iff_forall_ne_some.mpr fun j hj => ?_⟩
    exact hno j ((h.finish k x hx j).mp hj)
  · intro hspan
    obtain ⟨k, x, hx, rfl, rfl, hnone⟩ := hspan
    refine ⟨⟨k, x, hx, rfl, rfl⟩, fun j hj => ?_⟩
    rw [(h.finish k x hx j).mpr hj] at hnone
    cases hnone

/-- The openings not closed are the starts of what is open, the innermost first. -/
theorem unclosed_eq (h : Spanned d) (a : Nat) : unclosed (d.roles a) = ((d.stackOf a).map d.startOf).reverse := by
  have hascending : ((d.stackOf a).map d.startOf).Pairwise (· < ·) := by
    have hstack : (d.stackOf a).Pairwise (· < ·) := by rw [h.stack]; exact List.pairwise_findIdxs
    refine List.pairwise_map.mpr (hstack.imp_of_mem fun {k k'} hk hk' hlt => ?_)
    obtain ⟨x, hx, -⟩ := h.mem_stack.mp hk
    obtain ⟨y, hy, -⟩ := h.mem_stack.mp hk'
    rw [startOf_of_getElem? hx, startOf_of_getElem? hy]
    exact h.start_lt_start hx hy hlt
  refine (Bracket.tracks_unclosed _).descending.eq_of_mem_iff (List.pairwise_reverse.mpr hascending) fun i => ?_
  rw [h.mem_unclosed, List.mem_reverse, List.mem_map]
  constructor
  · intro hspan
    obtain ⟨k, x, hx, hactor, rfl, hnone⟩ := hspan
    exact ⟨k, h.mem_stack.mpr ⟨x, hx, hactor, hnone⟩, startOf_of_getElem? hx⟩
  · intro hspan
    obtain ⟨k, hk, rfl⟩ := hspan
    obtain ⟨x, hx, hactor, hnone⟩ := h.mem_stack.mp hk
    exact ⟨k, x, hx, hactor, (startOf_of_getElem? hx).symm, hnone⟩

theorem unclosed_nil (h : Spanned d) (hstack : d.stackOf a = []) : unclosed (d.roles a) = [] := by
  rw [h.unclosed_eq, hstack]
  rfl

/-- The opening to be closed next is the start of the last activation open. -/
theorem head?_unclosed (h : Spanned d) {id : Nat} {rest : List Nat} (hstack : d.stackOf a = rest ++ [id]) :
    ∃ x, d.activations[id]? = some x ∧ x.actor = a ∧ x.finish = none ∧
      (unclosed (d.roles a)).head? = some x.start := by
  obtain ⟨x, hx, hactor, hnone⟩ := h.mem_stack.mp (hstack ▸ List.mem_append_right rest List.mem_cons_self)
  refine ⟨x, hx, hactor, hnone, ?_⟩
  rw [h.unclosed_eq, hstack, List.head?_reverse, List.map_append, List.map_singleton, List.getLast?_concat,
    startOf_of_getElem? hx]

/-! ## One more event -/

section Event

variable {event : Event}

theorem roles_append (he : g.events = d.events ++ [event]) (a : Nat) :
    g.roles a = d.roles a ++ [event.action.role a] := by
  rw [roles, he, List.map_append]
  rfl

theorem closes_append (he : g.events = d.events ++ [event]) : Closes (g.roles a) i j ↔
    Closes (d.roles a) i j ∨
      j = d.events.length ∧ event.action.role a = some .closing ∧ (unclosed (d.roles a)).head? = some i := by
  rw [roles_append he, Bracket.closes_append_singleton, length_roles]

theorem started_append (h : Spanned d) (he : g.events = d.events ++ [event])
    (hstarts : ∀ a i : Nat, (∃ (k : Nat) (x : Activation), g.activations[k]? = some x ∧ x.actor = a ∧ x.start = i) ↔
      (∃ (k : Nat) (x : Activation), d.activations[k]? = some x ∧ x.actor = a ∧ x.start = i) ∨
        i = d.events.length ∧ event.action.role a = some .opening) (a i : Nat) :
    (g.roles a)[i]? = some (some .opening) ↔
      ∃ (k : Nat) (x : Activation), g.activations[k]? = some x ∧ x.actor = a ∧ x.start = i := by
  rw [roles_append he, getElem?_append_singleton_iff, h.started, hstarts, length_roles]

theorem marked_append (h : Spanned d) (he : g.events = d.events ++ [event])
    (hold : ∀ i k : Nat, i < d.events.length →
      ((∃ x, g.activations[k]? = some x ∧ (x.start = i ∨ x.finish = some i)) ↔
        ∃ x, d.activations[k]? = some x ∧ (x.start = i ∨ x.finish = some i)))
    (hnew : ∀ k : Nat, event.action.activation? = some k ↔
      ∃ x, g.activations[k]? = some x ∧ (x.start = d.events.length ∨ x.finish = some d.events.length))
    (i : Nat) (e : Event) (hi : g.events[i]? = some e) (k : Nat) : e.action.activation? = some k ↔
      ∃ x, g.activations[k]? = some x ∧ (x.start = i ∨ x.finish = some i) := by
  rw [he, getElem?_append_singleton_iff] at hi
  rcases hi with hi | ⟨rfl, rfl⟩
  · rw [h.marked i e hi, hold i k (List.getElem?_eq_some_iff.mp hi).1]
  · exact hnew k

theorem ended_append (h : Spanned d) (he : g.events = d.events ++ [event])
    (hstable : ∀ a i, i ≤ d.events.length → g.openBefore a i = d.openBefore a i)
    (hnew : ∀ a, event.action.role a = some .closing → event.action.activation? = (d.stackOf a).getLast?)
    (i : Nat) (e : Event) (a : Nat) (hi : g.events[i]? = some e) (hrole : e.action.role a = some .closing) :
    e.action.activation? = (g.openBefore a i).getLast? := by
  rw [he, getElem?_append_singleton_iff] at hi
  rcases hi with hi | ⟨rfl, rfl⟩
  · rw [h.ended i e a hi hrole, hstable a i (Nat.le_of_lt (List.getElem?_eq_some_iff.mp hi).1)]
  · rw [hnew a hrole, hstable a _ (Nat.le_refl _), h.openBefore_length]

/-- So far nothing starts or ends at the next event. -/
theorem not_at_length (h : Spanned d) (hx : d.activations[k]? = some x) :
    ¬ (x.start = d.events.length ∨ x.finish = some d.events.length) := by
  intro hor
  rcases hor with hstart | hfinish
  · exact Nat.ne_of_lt (h.start_lt hx) hstart
  · exact Nat.lt_irrefl _ (h.finish_lt hx hfinish)

end Event

end Diagram.Spanned

namespace Diagram

variable {d g : Diagram} {event : Event} {actor id a i j k : Nat} {rest : List Nat} {x y : Activation}

theorem Keeps.spanned (hs : Keeps d g event) (h : Spanned d) : Spanned g := by
  have hstable : ∀ a i, g.openBefore a i = d.openBefore a i := fun a i => by rw [openBefore, hs.activations]; rfl
  constructor
  case ordered => exact hs.activations ▸ h.ordered
  case started => exact h.started_append hs.events fun a i => by simp [hs.activations, hs.no_opening a]
  case finish =>
    intro k x hx j
    rw [hs.activations] at hx
    rw [h.finish k x hx, Spanned.closes_append hs.events, iff_self_or]
    intro hlast
    obtain ⟨-, hrole, hhead⟩ := hlast
    rw [h.unclosed_nil (hs.none_open _ hrole)] at hhead
    cases hhead
  case parent =>
    intro k x hx
    rw [hs.activations] at hx
    rw [h.parent k x hx, hstable]
  case marked =>
    refine h.marked_append hs.events (fun i k _ => by rw [hs.activations]) fun k => ?_
    rw [hs.unnamed, hs.activations]
    exact ⟨nofun, fun ⟨x, hx, hat⟩ => absurd hat (h.not_at_length hx)⟩
  case ended =>
    refine h.ended_append hs.events (fun a i _ => hstable a i) fun a hrole => ?_
    rw [hs.unnamed, hs.none_open a hrole]
    rfl
  case stack => exact fun a => by rw [hs.stack, h.stack, openOf, openOf, hs.activations]
  case owned => exact fun a => by rw [hs.owned, h.owned, activationsOf, activationsOf, hs.activations]

/-! ## A start -/

namespace Starts

theorem getElem?_iff (hs : Starts d g event actor) : g.activations[k]? = some x ↔ d.activations[k]? = some x ∨
    k = d.activations.length ∧ ⟨actor, d.events.length, none, (d.stackOf actor).getLast?⟩ = x := by
  rw [hs.activations, getElem?_append_singleton_iff]

theorem getElem?_length (hs : Starts d g event actor) : g.activations[d.activations.length]? =
    some ⟨actor, d.events.length, none, (d.stackOf actor).getLast?⟩ :=
  hs.getElem?_iff.mpr (.inr ⟨rfl, rfl⟩)

theorem not_closing (hs : Starts d g event actor) : event.action.role a ≠ some .closing := by
  rw [hs.role]
  split <;> nofun

/-- What starts now was not open before. -/
theorem openBefore_eq (hs : Starts d g event actor) (hi : i ≤ d.events.length) :
    g.openBefore a i = d.openBefore a i := by
  rw [openBefore, hs.activations, List.findIdxs_append, List.findIdxs_singleton, if_neg, List.append_nil]
  · rfl
  · simp
    omega

theorem starts_iff (hs : Starts d g event actor) :
    (∃ (k : Nat) (x : Activation), g.activations[k]? = some x ∧ x.actor = a ∧ x.start = i) ↔
      (∃ (k : Nat) (x : Activation), d.activations[k]? = some x ∧ x.actor = a ∧ x.start = i) ∨
        i = d.events.length ∧ event.action.role a = some .opening := by
  constructor
  · intro hspan
    obtain ⟨k, x, hx, rfl, rfl⟩ := hspan
    rcases hs.getElem?_iff.mp hx with hx | ⟨-, rfl⟩
    · exact .inl ⟨k, x, hx, rfl, rfl⟩
    · exact .inr ⟨rfl, by rw [hs.role, if_pos rfl]⟩
  · intro hor
    rcases hor with ⟨k, x, hx, hx'⟩ | ⟨rfl, hopen⟩
    · exact ⟨k, x, hs.getElem?_iff.mpr (.inl hx), hx'⟩
    · rw [hs.role] at hopen
      split at hopen
      · rename_i heq
        exact ⟨_, _, hs.getElem?_length, heq, rfl⟩
      · cases hopen

theorem finish_iff (hs : Starts d g event actor) (h : Spanned d) (hx : g.activations[k]? = some x) :
    x.finish = some j ↔ Closes (g.roles x.actor) x.start j := by
  rw [Spanned.closes_append hs.events]
  rcases hs.getElem?_iff.mp hx with hx | ⟨-, rfl⟩
  · rw [h.finish k x hx, iff_self_or]
    exact fun hj => absurd hj.2.1 hs.not_closing
  · refine ⟨nofun, fun hor => ?_⟩
    rcases hor with hj | ⟨-, hclosing, -⟩
    · have hlt : d.events.length < j := hj.lt
      have hlength := hj.lt_length
      rw [Spanned.length_roles] at hlength
      omega
    · exact absurd hclosing hs.not_closing

theorem named_iff (hs : Starts d g event actor) (h : Spanned d) : event.action.activation? = some k ↔
    ∃ x, g.activations[k]? = some x ∧ (x.start = d.events.length ∨ x.finish = some d.events.length) := by
  rw [hs.named, Option.some.injEq]
  constructor
  · intro heq
    exact ⟨_, heq ▸ hs.getElem?_length, .inl rfl⟩
  · intro hspan
    obtain ⟨x, hx, hat⟩ := hspan
    rcases hs.getElem?_iff.mp hx with hx | ⟨hk, -⟩
    · exact absurd hat (h.not_at_length hx)
    · exact hk.symm

theorem spanned (hs : Starts d g event actor) (h : Spanned d) : Spanned g := by
  constructor
  case ordered =>
    rw [hs.activations]
    refine List.pairwise_append.mpr ⟨h.ordered, List.pairwise_singleton _ _, fun x hx y hy => ?_⟩
    obtain ⟨k, hk⟩ := List.mem_iff_getElem?.mp hx
    exact List.mem_singleton.mp hy ▸ h.start_lt hk
  case started => exact h.started_append hs.events fun a i => hs.starts_iff
  case finish => exact fun k x hx j => hs.finish_iff h hx
  case parent =>
    intro k x hx
    rcases hs.getElem?_iff.mp hx with hx | ⟨-, rfl⟩
    · rw [h.parent k x hx, hs.openBefore_eq (Nat.le_of_lt (h.start_lt hx))]
    · rw [hs.openBefore_eq (Nat.le_refl _), h.openBefore_length]
  case marked =>
    refine h.marked_append hs.events (fun i k hi => exists_congr fun x => and_congr_left fun hat => ?_) fun k =>
      hs.named_iff h
    rw [hs.getElem?_iff, or_iff_left_iff_imp]
    intro hnew
    obtain ⟨-, rfl⟩ := hnew
    exact absurd hat (by simp; omega)
  case ended => exact h.ended_append hs.events (fun a i => hs.openBefore_eq) fun a hrole => absurd hrole hs.not_closing
  case stack =>
    intro a
    rw [hs.stack, h.stack, h.stack, openOf, openOf, openOf, hs.activations, List.findIdxs_append,
      List.findIdxs_singleton]
    by_cases ha : a = actor
    · subst ha
      simp
    · simp [ha, Ne.symm ha]
  case owned =>
    intro a
    rw [hs.owned, h.owned, h.owned, activationsOf, activationsOf, activationsOf, hs.activations, List.findIdxs_append,
      List.findIdxs_singleton]
    by_cases ha : a = actor
    · subst ha
      simp
    · simp [ha, Ne.symm ha]

end Starts

/-! ## An end -/

namespace Ends

/-- Only the end of one activation is new. -/
theorem getElem?_iff (hs : Ends d g event actor id rest) : g.activations[k]? = some y ↔
    ∃ x, d.activations[k]? = some x ∧
      y = { x with finish := if k = id then some d.events.length else x.finish } := by
  rw [hs.activations, getElem?_modify_iff]
  refine exists_congr fun x => and_congr_right fun _ => ?_
  by_cases hk : id = k
  · rw [if_pos hk, if_pos hk.symm, eq_comm]
  · rw [if_neg hk, if_neg (Ne.symm hk), eq_comm]

theorem not_opening (hs : Ends d g event actor id rest) : event.action.role a ≠ some .opening := by
  rw [hs.role]
  split <;> nofun

theorem last_open (hs : Ends d g event actor id rest) (h : Spanned d) (hx : d.activations[id]? = some x) :
    x.actor = actor ∧ x.finish = none ∧ (unclosed (d.roles actor)).head? = some x.start := by
  obtain ⟨z, hz, hz'⟩ := h.head?_unclosed hs.last
  obtain rfl : z = x := Option.some.inj (hz.symm.trans hx)
  exact hz'

/-- What ends now was open before. -/
theorem openBefore_eq (hs : Ends d g event actor id rest) (h : Spanned d) (hi : i ≤ d.events.length) :
    g.openBefore a i = d.openBefore a i := by
  rw [openBefore, hs.activations]
  refine findIdxs_modify fun x hx => ?_
  rw [(hs.last_open h hx).2.1]
  simp [hi]

theorem starts_iff (hs : Ends d g event actor id rest) :
    (∃ (k : Nat) (x : Activation), g.activations[k]? = some x ∧ x.actor = a ∧ x.start = i) ↔
      (∃ (k : Nat) (x : Activation), d.activations[k]? = some x ∧ x.actor = a ∧ x.start = i) ∨
        i = d.events.length ∧ event.action.role a = some .opening := by
  constructor
  · intro hspan
    obtain ⟨k, y, hy, rfl, rfl⟩ := hspan
    obtain ⟨x, hx, rfl⟩ := hs.getElem?_iff.mp hy
    exact .inl ⟨k, x, hx, rfl, rfl⟩
  · intro hor
    rcases hor with ⟨k, x, hx, hx'⟩ | ⟨-, hopen⟩
    · exact ⟨k, _, hs.getElem?_iff.mpr ⟨x, hx, rfl⟩, hx'⟩
    · exact absurd hopen hs.not_opening

theorem finish_iff (hs : Ends d g event actor id rest) (h : Spanned d) (hy : g.activations[k]? = some y) :
    y.finish = some j ↔ Closes (g.roles y.actor) y.start j := by
  obtain ⟨x, hx, rfl⟩ := hs.getElem?_iff.mp hy
  rw [Spanned.closes_append hs.events, ← h.finish k x hx]
  by_cases hk : k = id
  · subst hk
    obtain ⟨hactor, hnone, hhead⟩ := hs.last_open h hx
    simp [hnone, hs.role, hactor, hhead, eq_comm]
  · rw [if_neg hk, iff_self_or]
    intro hends
    obtain ⟨-, hclosing, hhead⟩ := hends
    -- the closing closes the start of the last activation open, and that is another one
    obtain ⟨z, hz, -, -, hzhead⟩ := h.head?_unclosed hs.last
    rw [hs.role] at hclosing
    split at hclosing
    · rename_i hactor
      have hstart : x.start = z.start := Option.some.inj (hhead.symm.trans (hactor ▸ hzhead))
      exact absurd (h.start_inj hx hz hstart) hk
    · cases hclosing

/-- At an earlier event the same starts and the same ends. -/
theorem at_iff (hs : Ends d g event actor id rest) (h : Spanned d) (hi : i < d.events.length) :
    (∃ y, g.activations[k]? = some y ∧ (y.start = i ∨ y.finish = some i)) ↔
      ∃ x, d.activations[k]? = some x ∧ (x.start = i ∨ x.finish = some i) := by
  constructor
  · intro hspan
    obtain ⟨y, hy, hat⟩ := hspan
    obtain ⟨x, hx, rfl⟩ := hs.getElem?_iff.mp hy
    refine ⟨x, hx, hat.imp_right fun hfinish => ?_⟩
    by_cases hk : k = id
    · rw [if_pos hk, Option.some.injEq] at hfinish
      omega
    · rwa [if_neg hk] at hfinish
  · intro hspan
    obtain ⟨x, hx, hat⟩ := hspan
    refine ⟨_, hs.getElem?_iff.mpr ⟨x, hx, rfl⟩, hat.imp_right fun hfinish => ?_⟩
    by_cases hk : k = id
    · subst hk
      rw [(hs.last_open h hx).2.1] at hfinish
      cases hfinish
    · exact (if_neg hk).trans hfinish

theorem named_iff (hs : Ends d g event actor id rest) (h : Spanned d) : event.action.activation? = some k ↔
    ∃ y, g.activations[k]? = some y ∧ (y.start = d.events.length ∨ y.finish = some d.events.length) := by
  rw [hs.named, Option.some.injEq]
  constructor
  · intro heq
    subst heq
    obtain ⟨z, hz, -⟩ := h.head?_unclosed hs.last
    exact ⟨_, hs.getElem?_iff.mpr ⟨z, hz, rfl⟩, .inr (if_pos rfl)⟩
  · intro hspan
    obtain ⟨y, hy, hat⟩ := hspan
    obtain ⟨x, hx, rfl⟩ := hs.getElem?_iff.mp hy
    by_cases hk : k = id
    · exact hk.symm
    · rw [if_neg hk] at hat
      exact absurd hat (h.not_at_length hx)

theorem spanned (hs : Ends d g event actor id rest) (h : Spanned d) : Spanned g := by
  constructor
  case ordered =>
    refine List.pairwise_iff_getElem.mpr fun k k' hk hk' hlt => ?_
    obtain ⟨x, hx, hx'⟩ := hs.getElem?_iff.mp (List.getElem?_eq_getElem hk)
    obtain ⟨y, hy, hy'⟩ := hs.getElem?_iff.mp (List.getElem?_eq_getElem hk')
    rw [hx', hy']
    exact h.start_lt_start (x := x) (y := y) hx hy hlt
  case started => exact h.started_append hs.events fun a i => hs.starts_iff
  case finish => exact fun k y hy j => hs.finish_iff h hy
  case parent =>
    intro k y hy
    obtain ⟨x, hx, rfl⟩ := hs.getElem?_iff.mp hy
    rw [hs.openBefore_eq h (Nat.le_of_lt (h.start_lt hx))]
    exact h.parent k x hx
  case marked => exact h.marked_append hs.events (fun i k hi => hs.at_iff h hi) fun k => hs.named_iff h
  case ended =>
    refine h.ended_append hs.events (fun a i => hs.openBefore_eq h) fun a hclosing => ?_
    rw [hs.role] at hclosing
    split at hclosing
    · rename_i heq
      rw [hs.named, ← heq, hs.last, List.getLast?_concat]
    · cases hclosing
  case stack =>
    intro a
    rw [hs.stack, openOf, hs.activations]
    split
    · rename_i heq
      refine (findIdxs_modify_last ?_ fun x => by simp).symm
      rw [heq, ← hs.last, h.stack]
      rfl
    · rename_i hne
      rw [h.stack]
      refine (findIdxs_modify fun x hx => ?_).symm
      rw [(hs.last_open h hx).1]
      simp [Ne.symm hne]
  case owned =>
    intro a
    rw [hs.owned, h.owned, activationsOf, activationsOf, hs.activations, findIdxs_modify]
    exact fun _ _ => rfl

end Ends

theorem Spanned.step (h : Spanned d) (hs : Step d g) : Spanned g := by
  cases hs with
  | idle heq => exact heq ▸ h
  | keeps event hs => exact hs.spanned h
  | starts event actor hs => exact hs.spanned h
  | ends event actor id rest hs => exact hs.spanned h

end Diagram

end SequenceDiagram
