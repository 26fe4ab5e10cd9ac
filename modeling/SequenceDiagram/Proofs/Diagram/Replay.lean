/-
  SequenceDiagram.Proofs.Diagram.Replay — the innermost activation is the top of the replayed stack.

  Which activation is innermost on an actor during an event is looked up in the linked
  diagram: from the last activation of the actor back to the first that covers the event.
  The marks say it another way. Replayed event by event, a start mark puts an activation
  on the stack and an end mark takes the top off (`replay`). During an event the stack
  holds what the events before it left, with what the event starts on top and what it
  ends still there (`stackDuring`).

  The two agree. Linking keeps what an actor has open before each event equal to the
  replay up to it (`Retraced`): what starts at an event was not open before it, and what
  ends there was. So the stack during an event lists the activations that cover it in the
  order they started (`stackDuring_eq`). The last of them is the innermost, and the
  others are around it: of two activations that cover one event the earlier encloses the
  later, and what encloses an activation are its ancestors (`mem_ancestors_iff`).
-/

import SequenceDiagram.Proofs.Diagram.Ancestors

namespace SequenceDiagram

/-- An event no earlier than the start of an activation and no later than its end, if it has one. -/
structure Activation.Covers (x : Activation) (event : Nat) : Prop where
  start : x.start ≤ event
  finish : ∀ j, x.finish = some j → event ≤ j

namespace Diagram

/-! ## Replaying the marks -/

/-- What an event makes of the stack of an actor, the innermost last. -/
def replay (actor : Nat) (stack : List Nat) (e : Event) : List Nat :=
  match e.action.role actor with
  | none => stack
  | some .opening => stack ++ e.action.activation?.toList
  | some .closing => stack.dropLast

/-- The stack of an actor as the events before one leave it. -/
def stackBefore (d : Diagram) (actor event : Nat) : List Nat := (d.events.take event).foldl (replay actor) []

/-- What an event starts on an actor. -/
def startedBy (actor : Nat) (e : Event) : List Nat :=
  if e.action.mark? = some .start ∧ e.action.destination? = some actor then e.action.activation?.toList else []

/-- The stack of an actor during an event: what it starts is there already, what it ends still. -/
def stackDuring (d : Diagram) (actor event : Nat) : List Nat :=
  d.stackBefore actor event ++ d.events[event]?.elim [] (startedBy actor)

/-- The activations of an actor that the lookup takes for open during an event. -/
def covering (d : Diagram) (actor event : Nat) : List Nat :=
  d.activations.findIdxs fun x => x.actor == actor && d.covers event x

variable {d g : Diagram} {event : Event} {a i j k : Nat} {x y : Activation}

theorem stackBefore_append (he : g.events = d.events ++ [event]) (hi : i ≤ d.events.length) :
    g.stackBefore a i = d.stackBefore a i := by
  rw [stackBefore, stackBefore, he, List.take_append_of_le_length hi]

theorem stackBefore_append_length (he : g.events = d.events ++ [event]) :
    g.stackBefore a (d.events.length + 1) = replay a (d.stackBefore a d.events.length) event := by
  have htake : (d.events ++ [event]).take (d.events.length + 1) = d.events ++ [event] :=
    List.take_of_length_le (by simp)
  rw [stackBefore, stackBefore, he, htake, List.take_length, List.foldl_append]
  rfl

theorem mem_openBefore : k ∈ d.openBefore a i ↔
    ∃ x, d.activations[k]? = some x ∧ x.actor = a ∧ x.start < i ∧ ∀ j, x.finish = some j → i ≤ j := by
  rw [openBefore, mem_findIdxs]
  refine exists_congr fun x => and_congr_right fun _ => ?_
  cases hj : x.finish <;> simp [and_assoc]

theorem covers_iff (hi : i < d.events.length) : d.covers i x = true ↔ x.Covers i := by
  rw [covers, Bool.and_eq_true, decide_eq_true_eq, decide_eq_true_eq]
  cases hj : x.finish with
  | none =>
    constructor
    · intro h
      exact ⟨h.1, by simp [hj]⟩
    · intro h
      exact ⟨h.start, Nat.le_of_lt hi⟩
  | some j =>
    constructor
    · intro h
      refine ⟨h.1, fun m hm => ?_⟩
      obtain rfl : j = m := Option.some.inj (hj.symm.trans hm)
      exact h.2
    · intro h
      exact ⟨h.start, h.finish j hj⟩

/-- Activations are numbered as they start. -/
theorem Spanned.start_le_start_iff (h : d.Spanned) (hx : d.activations[k]? = some x) (hy : d.activations[j]? = some y) :
    x.start ≤ y.start ↔ k ≤ j := by
  rcases Nat.lt_trichotomy k j with hlt | heq | hlt
  · have := h.start_lt_start hx hy hlt
    omega
  · subst heq
    obtain rfl : x = y := Option.some.inj (hx.symm.trans hy)
    simp
  · have := h.start_lt_start hy hx hlt
    omega

theorem covering_ordered (d : Diagram) (a i : Nat) : (d.covering a i).Pairwise (· < ·) := List.pairwise_findIdxs

theorem mem_covering (hi : i < d.events.length) :
    k ∈ d.covering a i ↔ ∃ x, d.activations[k]? = some x ∧ x.actor = a ∧ x.Covers i := by
  rw [covering, mem_findIdxs]
  simp only [Bool.and_eq_true, beq_iff_eq, covers_iff hi]

/-! ## The replay follows the linking -/

/-- What an actor has open before an event is what the replay up to the event leaves. -/
structure Retraced (d : Diagram) : Prop where
  spanned : d.Spanned
  opened : ∀ a i, i ≤ d.events.length → d.openBefore a i = d.stackBefore a i

theorem Keeps.stack_eq_replay (hs : Keeps d g event) (a : Nat) : g.stackOf a = replay a (d.stackOf a) event := by
  rw [hs.stack, replay]
  split
  · rfl
  · rename_i hrole
    exact absurd hrole (hs.no_opening a)
  · rename_i hrole
    rw [hs.none_open a hrole]
    rfl

theorem Starts.stack_eq_replay {actor : Nat} (hs : Starts d g event actor) (a : Nat) :
    g.stackOf a = replay a (d.stackOf a) event := by
  rw [hs.stack, replay, hs.role]
  by_cases ha : a = actor
  · simp [ha, hs.named]
  · simp [ha, Ne.symm ha]

theorem Ends.stack_eq_replay {actor id : Nat} {rest : List Nat} (hs : Ends d g event actor id rest) (a : Nat) :
    g.stackOf a = replay a (d.stackOf a) event := by
  rw [hs.stack, replay, hs.role]
  by_cases ha : a = actor
  · simp [ha, hs.last]
  · simp [ha, Ne.symm ha]

/-- Every statement but `else` adds one event, which the stacks follow. -/
theorem Step.next (hs : Step d g) :
    g = d ∨ ∃ event, g.events = d.events ++ [event] ∧ ∀ a, g.stackOf a = replay a (d.stackOf a) event := by
  cases hs with
  | idle h => exact .inl h
  | keeps event h => exact .inr ⟨event, h.events, h.stack_eq_replay⟩
  | starts event actor h => exact .inr ⟨event, h.events, h.stack_eq_replay⟩
  | ends event actor id rest h => exact .inr ⟨event, h.events, h.stack_eq_replay⟩

/-- A step changes nothing of what was open before an event that is there. -/
theorem Step.openBefore_eq (hs : Step d g) (h : d.Spanned) (hi : i ≤ d.events.length) :
    g.openBefore a i = d.openBefore a i := by
  cases hs with
  | idle heq => rw [heq]
  | keeps event h => rw [openBefore, openBefore, h.activations]
  | starts event actor h => exact h.openBefore_eq hi
  | ends event actor id rest hs => exact hs.openBefore_eq h hi

namespace Retraced

theorem empty : Retraced Diagram.empty where
  spanned := .empty
  opened a i hi := by
    obtain rfl : i = 0 := Nat.le_zero.mp hi
    rfl

theorem step (h : Retraced d) (hs : Step d g) : Retraced g := by
  have hspanned := h.spanned.step hs
  refine ⟨hspanned, fun a i hi => ?_⟩
  rcases hs.next with heq | ⟨event, hevents, hstack⟩
  · rw [heq] at hi ⊢
    exact h.opened a i hi
  · have hlength : g.events.length = d.events.length + 1 := by simp [hevents]
    by_cases hlast : i = d.events.length + 1
    · -- before the event to come is open what is on the stack now
      rw [hlast, stackBefore_append_length hevents, ← hlength, hspanned.openBefore_length, hstack,
        ← h.opened a _ (Nat.le_refl _), h.spanned.openBefore_length]
    · have hi' : i ≤ d.events.length := by omega
      rw [hs.openBefore_eq h.spanned hi', stackBefore_append hevents hi']
      exact h.opened a i hi'

theorem stackOf_eq (h : Retraced d) (a : Nat) : d.stackOf a = d.stackBefore a d.events.length := by
  rw [← h.opened a _ (Nat.le_refl _), h.spanned.openBefore_length]

end Retraced

theorem retraced_of_run {ss : List Numbered} {d : Draft} (h : ss.foldlM Draft.add .empty = .ok d) :
    d.diagram.Retraced :=
  Draft.run_induction (P := fun _ d => d.diagram.Retraced) .empty
    (fun _ _ _ _ hd hs => hd.step (Draft.step_of_add hs)) h

/-- The stacks of a diagram that has the first events of another. -/
theorem stackOf_eq_stackBefore {ss : List Numbered} (h : build ss = .ok g) (htake : g.events = d.events.take i)
    (a : Nat) : g.stackOf a = d.stackBefore a i := by
  obtain ⟨e, he, rfl⟩ := build_eq_ok_iff.mp h
  rw [(retraced_of_run he).stackOf_eq, stackBefore, stackBefore, List.take_length, htake]

/-- All statements but the last link to a diagram too, which is one step behind. -/
theorem step_of_build {ss : List Numbered} {s : Numbered} (h : build (ss ++ [s]) = .ok d) :
    ∃ g, build ss = .ok g ∧ Step g d := by
  obtain ⟨e, he, rfl⟩ := build_eq_ok_iff.mp h
  rw [Draft.run_append] at he
  cases hrun : ss.foldlM Draft.add .empty with
  | error f =>
    rw [hrun] at he
    cases he
  | ok r =>
    rw [hrun] at he
    exact ⟨r.diagram, build_eq_ok_iff.mpr ⟨r, hrun, rfl⟩, Draft.step_of_add he⟩

/-- So the first statements link to a diagram, which has the first events. -/
theorem build_of_append {pre post : List Numbered} (h : build (pre ++ post) = .ok d) :
    ∃ g, build pre = .ok g ∧ g.events <+: d.events := by
  induction post using List.reverseRecOn generalizing d with
  | nil =>
    rw [List.append_nil] at h
    exact ⟨d, h, List.prefix_rfl⟩
  | append_singleton post s ih =>
    rw [← List.append_assoc] at h
    obtain ⟨r, hr, hstep⟩ := step_of_build h
    obtain ⟨g, hg, hprefix⟩ := ih hr
    refine ⟨g, hg, hprefix.trans ?_⟩
    rcases hstep.next with heq | ⟨event, hevents, -⟩
    · exact heq ▸ List.prefix_rfl
    · rw [hevents]
      exact List.prefix_append ..

/-- Each event is the next one after some of the first statements. -/
theorem exists_build_take {ss : List Numbered} (h : build ss = .ok d) (hi : i ≤ d.events.length) :
    ∃ pre post g, ss = pre ++ post ∧ build pre = .ok g ∧ g.events = d.events.take i := by
  induction ss using List.reverseRecOn generalizing d with
  | nil =>
    cases h
    obtain rfl : i = 0 := Nat.le_zero.mp hi
    exact ⟨[], [], _, rfl, rfl, rfl⟩
  | append_singleton ss s ih =>
    by_cases hlast : i = d.events.length
    · exact ⟨ss ++ [s], [], d, (List.append_nil _).symm, h, by rw [hlast, List.take_length]⟩
    · obtain ⟨r, hr, hstep⟩ := step_of_build h
      have hevents : i ≤ r.events.length ∧ d.events.take i = r.events.take i := by
        rcases hstep.next with heq | ⟨event, hevents, -⟩
        · rw [← heq]
          exact ⟨hi, rfl⟩
        · rw [hevents, List.length_append, List.length_singleton] at hi hlast
          have hi' : i ≤ r.events.length := by omega
          rw [hevents, List.take_append_of_le_length hi']
          exact ⟨hi', rfl⟩
      obtain ⟨pre, post, g, hss, hg, htake⟩ := ih hr hevents.1
      exact ⟨pre, post ++ [s], g, by rw [hss, List.append_assoc], hg, htake.trans hevents.2.symm⟩

/-! ## The stack lists what covers the event -/

/-- What an event starts on an actor is the activation of the actor that starts there. -/
theorem Spanned.mem_startedBy (h : d.Spanned) (he : d.events[i]? = some event) :
    k ∈ startedBy a event ↔ ∃ x, d.activations[k]? = some x ∧ x.actor = a ∧ x.start = i := by
  have hrole : (d.roles a)[i]? = some (some .opening) ↔
      event.action.mark? = some .start ∧ event.action.destination? = some a := by
    rw [roles, List.getElem?_map, he, Option.map_some, Option.some.injEq, Action.role_opening_iff]
  constructor
  · intro hk
    rw [startedBy] at hk
    split at hk
    · rename_i hstart
      obtain ⟨m, x, hx, hactor, hxi⟩ := (h.started a i).mp (hrole.mpr hstart)
      have hm := (h.marked i event he m).mpr ⟨x, hx, .inl hxi⟩
      rw [Option.mem_toList, hm, Option.some.injEq] at hk
      exact ⟨x, hk ▸ hx, hactor, hxi⟩
    · cases hk
  · intro hspan
    obtain ⟨x, hx, hactor, hxi⟩ := hspan
    have hstart := hrole.mp ((h.started a i).mpr ⟨k, x, hx, hactor, hxi⟩)
    rw [startedBy, if_pos hstart, Option.mem_toList]
    exact (h.marked i event he k).mpr ⟨x, hx, .inl hxi⟩

theorem Retraced.mem_stackDuring (h : Retraced d) (he : d.events[i]? = some event) :
    k ∈ d.stackDuring a i ↔ ∃ x, d.activations[k]? = some x ∧ x.actor = a ∧ x.Covers i := by
  have hi := (List.getElem?_eq_some_iff.mp he).1
  rw [stackDuring, List.mem_append, ← h.opened a i (Nat.le_of_lt hi), mem_openBefore, he, Option.elim_some,
    h.spanned.mem_startedBy he]
  constructor
  · intro hor
    rcases hor with ⟨x, hx, hactor, hstart, hfinish⟩ | ⟨x, hx, hactor, hstart⟩
    · exact ⟨x, hx, hactor, Nat.le_of_lt hstart, hfinish⟩
    · refine ⟨x, hx, hactor, Nat.le_of_eq hstart, fun j hj => ?_⟩
      have hlt := ((h.spanned.finish k x hx j).mp hj).lt
      omega
  · intro hspan
    obtain ⟨x, hx, hactor, hcovers⟩ := hspan
    by_cases hstart : x.start = i
    · exact .inr ⟨x, hx, hactor, hstart⟩
    · have hle := hcovers.start
      exact .inl ⟨x, hx, hactor, by omega, hcovers.finish⟩

theorem Retraced.stackDuring_eq (h : Retraced d) (hi : i < d.events.length) (a : Nat) :
    d.stackDuring a i = d.covering a i := by
  have he := List.getElem?_eq_getElem hi
  have hordered : (d.stackDuring a i).Pairwise (· < ·) := by
    rw [stackDuring, ← h.opened a i (Nat.le_of_lt hi), he, Option.elim_some]
    refine List.pairwise_append.mpr ⟨List.pairwise_findIdxs, ?_, fun k hk m hm => ?_⟩
    · rw [startedBy]
      split
      · cases d.events[i].action.activation? <;> simp
      · exact .nil
    · -- what the event starts comes after all that started before it
      obtain ⟨x, hx, -, hxi, -⟩ := mem_openBefore.mp hk
      obtain ⟨y, hy, -, hyi⟩ := (h.spanned.mem_startedBy he).mp hm
      have := h.spanned.start_le_start_iff hy hx
      omega
  refine hordered.eq_of_mem_iff (covering_ordered d a i) fun k => ?_
  rw [h.mem_stackDuring he, mem_covering hi]

/-- The lookup goes back from the last activation of the actor. -/
theorem Spanned.activationAt?_eq (h : d.Spanned) (a i : Nat) : d.activationAt? a i = (d.covering a i).getLast? := by
  have hlookup : d.activationAt? a i =
      (d.ownedBy a).reverse.find? fun id => d.activations[id]?.any (d.covers i) := by
    rw [activationAt?, ownedBy, held]
    cases d.actors[a]? <;> rfl
  have hfilter : (d.ownedBy a).filter (fun id => d.activations[id]?.any (d.covers i)) = d.covering a i := by
    rw [h.owned]
    refine (List.pairwise_findIdxs.filter _).eq_of_mem_iff (covering_ordered d a i) fun k => ?_
    rw [List.mem_filter, mem_findIdxs, covering, mem_findIdxs]
    cases d.activations[k]? <;> simp
  rw [hlookup, ← List.head?_filter, List.filter_reverse, List.head?_reverse, hfilter]

/-! ## Around the innermost -/

/-- The last of some numbers in order is the greatest of them. -/
theorem getLast?_of_ordered {ns : List Nat} (h : ns.Pairwise (· < ·)) :
    ns.getLast? = some k ↔ k ∈ ns ∧ ∀ j ∈ ns, j ≤ k := by
  rcases List.eq_nil_or_concat' ns with rfl | ⟨rest, last, rfl⟩
  · simp
  · have hbelow := (List.pairwise_append.mp h).2.2
    have hle : ∀ j ∈ rest ++ [last], j ≤ last := by
      intro j hj
      rcases List.mem_append.mp hj with hj | hj
      · exact Nat.le_of_lt (hbelow j hj last List.mem_cons_self)
      · exact Nat.le_of_eq (List.mem_singleton.mp hj)
    have hmem : last ∈ rest ++ [last] := List.mem_append_right _ List.mem_cons_self
    rw [List.getLast?_concat, Option.some.injEq]
    constructor
    · intro heq
      subst heq
      exact ⟨hmem, hle⟩
    · intro hk
      exact Nat.le_antisymm (hk.2 last hmem) (hle k hk.1)

/-- The ancestors of an activation are what its actor has open when it starts. -/
theorem Spanned.mem_ancestors_iff (h : d.Spanned) (hx : d.activations[k]? = some x) : j ∈ d.ancestors k ↔
    ∃ y, d.activations[j]? = some y ∧ y.actor = x.actor ∧ y.start < x.start ∧
      ∀ m, y.finish = some m → x.start ≤ m := by
  constructor
  · intro hj
    obtain ⟨-, y, hy, hactor, hstart, hfinish⟩ := h.encloses_of_mem_ancestors hx hj
    refine ⟨y, hy, hactor, hstart, fun m hm => ?_⟩
    obtain ⟨m', hm', hlt⟩ := hfinish m hm
    have := ((h.finish k x hx m').mp hm').lt
    omega
  · induction k using Nat.strong_induction_on generalizing x with
    | h k ih =>
      intro hopen
      have hmem : j ∈ d.openBefore x.actor x.start := mem_openBefore.mpr hopen
      obtain ⟨y, hy, hactor, hstart, hfinish⟩ := hopen
      have hlast := h.parent k x hx
      cases hparent : x.parent with
      | none =>
        rw [hparent] at hlast
        rw [List.getLast?_eq_none_iff.mp hlast.symm] at hmem
        cases hmem
      | some p =>
        -- the parent is the latest of them, and the others were open when it started
        rw [hparent] at hlast
        have hle := ((getLast?_of_ordered List.pairwise_findIdxs).mp hlast.symm).2 j hmem
        obtain ⟨hlt, z, hz, hzactor, hzstart, -⟩ := h.enclosed hx hparent
        rw [h.ancestors_of_some hx hparent, List.mem_cons]
        by_cases heq : j = p
        · exact .inl heq
        · have hjp : y.start < z.start := h.start_lt_start hy hz (by omega)
          refine .inr (ih p hlt hz ⟨y, hy, hactor.trans hzactor.symm, hjp, fun m hm => ?_⟩)
          have := hfinish m hm
          omega

/-- Of the activations of an actor that cover an event all are around the last. -/
theorem Spanned.covers_iff_mem_ancestors (h : d.Spanned) (hx : d.activations[k]? = some x) (hcovers : x.Covers i)
    (hlast : ∀ (m : Nat) z, d.activations[m]? = some z → z.actor = x.actor → z.Covers i → m ≤ k)
    (hy : d.activations[j]? = some y) (hactor : y.actor = x.actor) : y.Covers i ↔ j = k ∨ j ∈ d.ancestors k := by
  constructor
  · intro hj
    by_cases heq : j = k
    · exact .inl heq
    · have hle := hlast j y hy hactor hj
      have hstart := h.start_lt_start hy hx (by omega)
      refine .inr ((h.mem_ancestors_iff hx).mpr ⟨y, hy, hactor, hstart, fun m hm => ?_⟩)
      exact hcovers.start.trans (hj.finish m hm)
  · intro hor
    rcases hor with heq | hmem
    · subst heq
      obtain rfl : y = x := Option.some.inj (hy.symm.trans hx)
      exact hcovers
    · obtain ⟨-, z, hz, -, hstart, hfinish⟩ := h.encloses_of_mem_ancestors hx hmem
      obtain rfl : z = y := Option.some.inj (hz.symm.trans hy)
      refine ⟨(Nat.le_of_lt hstart).trans hcovers.start, fun m hm => ?_⟩
      obtain ⟨m', hm', hlt⟩ := hfinish m hm
      have := hcovers.finish m' hm'
      omega

/-! ## The innermost activation -/

namespace Retraced

variable (h : Retraced d) (hi : i < d.events.length)

include h hi

theorem activationAt?_eq (a : Nat) : d.activationAt? a i = (d.stackDuring a i).getLast? := by
  rw [h.spanned.activationAt?_eq, h.stackDuring_eq hi]

theorem activationAt?_eq_some_iff : d.activationAt? a i = some k ↔
    ∃ x, d.activations[k]? = some x ∧ x.actor = a ∧ x.Covers i ∧
      ∀ (j : Nat) y, d.activations[j]? = some y → y.actor = a → y.Covers i → j ≤ k := by
  rw [h.spanned.activationAt?_eq, getLast?_of_ordered (covering_ordered d a i), mem_covering hi]
  constructor
  · intro hk
    obtain ⟨⟨x, hx, hactor, hcovers⟩, hlast⟩ := hk
    exact ⟨x, hx, hactor, hcovers, fun j y hy hya hj => hlast j ((mem_covering hi).mpr ⟨y, hy, hya, hj⟩)⟩
  · intro hk
    obtain ⟨x, hx, hactor, hcovers, hlast⟩ := hk
    refine ⟨⟨x, hx, hactor, hcovers⟩, fun j hj => ?_⟩
    obtain ⟨y, hy, hya, hyi⟩ := (mem_covering hi).mp hj
    exact hlast j y hy hya hyi

/-- What a mark names is innermost on its actor during the event. -/
theorem activationAt?_of_role {e : Event} (he : d.events[i]? = some e) (hrole : e.action.role a ≠ none) :
    d.activationAt? a i = e.action.activation? := by
  rw [h.activationAt?_eq hi, stackDuring, he, Option.elim_some, startedBy]
  cases hbracket : e.action.role a with
  | none => exact absurd hbracket hrole
  | some bracket =>
    cases bracket with
    | opening =>
      have hopening : (d.roles a)[i]? = some (some .opening) := by
        rw [roles, List.getElem?_map, he, Option.map_some, hbracket]
      obtain ⟨k, x, hx, -, hstart⟩ := (h.spanned.started a i).mp hopening
      have hk := (h.spanned.marked i e he k).mpr ⟨x, hx, .inl hstart⟩
      rw [if_pos (Action.role_opening_iff.mp hbracket), hk, Option.toList_some, List.getLast?_concat]
    | closing =>
      have hfinish := (Action.role_closing_iff.mp hbracket).1
      rw [if_neg (by simp [hfinish]), List.append_nil, ← h.opened a i (Nat.le_of_lt hi),
        h.spanned.ended i e a he hbracket]

end Retraced

/-- How looking up innermost activations agrees with replaying the marks of the statements. -/
structure Replayed (ss : List Numbered) (d : Diagram) : Prop where
  /-- Linking any first part of the statements leaves on every stack what the replay leaves. -/
  linked : ∀ pre post, ss = pre ++ post → ∃ g, build pre = .ok g ∧ g.events <+: d.events ∧
    ∀ a, g.stackOf a = d.stackBefore a g.events.length
  /-- So there is a time in the linking for the stacks before each event. -/
  reached : ∀ i, i ≤ d.events.length → ∃ pre post g, ss = pre ++ post ∧ build pre = .ok g ∧
    g.events = d.events.take i ∧ ∀ a, g.stackOf a = d.stackBefore a i
  top : ∀ a i, i < d.events.length → d.activationAt? a i = (d.stackDuring a i).getLast?
  none_iff : ∀ a i, i < d.events.length → (d.activationAt? a i = none ↔ d.stackDuring a i = [])
  /-- During a start mark it is what starts there, during an end mark what ends there. -/
  marked : ∀ (i : Nat) e a, d.events[i]? = some e → e.action.role a ≠ none →
    d.activationAt? a i = e.action.activation?
  /-- Of the activations that cover the event it is the one that started last. -/
  latest : ∀ a i k, i < d.events.length → (d.activationAt? a i = some k ↔
    ∃ x, d.activations[k]? = some x ∧ x.actor = a ∧ x.Covers i ∧
      ∀ (j : Nat) y, d.activations[j]? = some y → y.actor = a → y.Covers i → y.start ≤ x.start)
  /-- The others that cover the event are its ancestors. -/
  around : ∀ a i k, i < d.events.length → d.activationAt? a i = some k →
    ∀ (j : Nat) y, d.activations[j]? = some y → y.actor = a → (y.Covers i ↔ j = k ∨ j ∈ d.ancestors k)

/-- Looking up the innermost activation of a linked diagram gives the top of the replayed stack. -/
theorem replayed_of_build {ss : List Numbered} (h : build ss = .ok d) : d.Replayed ss := by
  obtain ⟨r, hr, rfl⟩ := build_eq_ok_iff.mp h
  have hd := retraced_of_run hr
  constructor
  case linked =>
    intro pre post heq
    obtain ⟨g, hg, hprefix⟩ := build_of_append (heq ▸ h)
    exact ⟨g, hg, hprefix, stackOf_eq_stackBefore hg (List.prefix_iff_eq_take.mp hprefix)⟩
  case reached =>
    intro i hi
    obtain ⟨pre, post, g, hss, hg, htake⟩ := exists_build_take h hi
    exact ⟨pre, post, g, hss, hg, htake, stackOf_eq_stackBefore hg htake⟩
  case top => exact fun a i hi => hd.activationAt?_eq hi a
  case none_iff =>
    intro a i hi
    rw [hd.activationAt?_eq hi, List.getLast?_eq_none_iff]
  case marked => exact fun i e a he hrole => hd.activationAt?_of_role (List.getElem?_eq_some_iff.mp he).1 he hrole
  case latest =>
    intro a i k hi
    rw [hd.activationAt?_eq_some_iff hi]
    refine exists_congr fun x => and_congr_right fun hx => and_congr_right fun hactor => and_congr_right fun _ => ?_
    exact forall₂_congr fun j y => forall₃_congr fun hy _ _ => (hd.spanned.start_le_start_iff hy hx).symm
  case around =>
    intro a i k hi hk j y hy hactor
    obtain ⟨x, hx, rfl, hcovers, hlast⟩ := (hd.activationAt?_eq_some_iff hi).mp hk
    exact hd.spanned.covers_iff_mem_ancestors hx hcovers hlast hy hactor

/-- A stray end mark, activations inside others beside those of another actor, and messages of
    an actor to itself that start one and end one. -/
theorem replayed_interleaved :
    ∃ ss, ss = [⟨1, .message "a" ⟨.solid, some .finish⟩ "b" ""⟩, ⟨2, .message "a" ⟨.solid, some .start⟩ "b" ""⟩,
      ⟨3, .message "b" ⟨.solid, some .start⟩ "b" ""⟩, ⟨4, .message "b" ⟨.dashed, some .start⟩ "a" ""⟩,
      ⟨5, .otherwise ""⟩, ⟨6, .message "b" ⟨.solid, some .finish⟩ "b" ""⟩, ⟨7, .note .over ["a"] ""⟩,
      ⟨8, .message "b" ⟨.dashed, some .finish⟩ "a" ""⟩, ⟨9, .note .over ["b"] ""⟩] ∧
    ∃ d, build ss = .ok d ∧ (List.range 8).map (d.stackDuring 1) = [[], [0], [0, 1], [0, 1], [0, 1], [0], [0], []] ∧
      (List.range 8).map (d.activationAt? 1) = [none, some 0, some 1, some 1, some 1, some 0, some 0, none] ∧
      d.ancestors 1 = [0] ∧ d.Replayed ss :=
  ⟨_, rfl, _, rfl, by decide +kernel, by decide +kernel, by decide +kernel, replayed_of_build rfl⟩

end Diagram

end SequenceDiagram
