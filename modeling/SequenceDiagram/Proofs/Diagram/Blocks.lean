/-
  SequenceDiagram.Proofs.Diagram.Blocks — the blocks are the bracket matching of the markers.

  The markers of a diagram are a run of brackets, one position per event. A linked
  diagram lists a block for every pair of the run, with the kind and text of its first
  event, in the order the pairs end; so a block stands before every block around it.
  Every `end` ends one block. A block start without an `end` keeps its event, has no
  block, and lies outside every block that is listed (`BlocksMatched`).

  While statements are added the stack of open blocks is the stack of openings not yet
  closed (`Draft.Nested`), so that `end` closes the block its bracket closes.
-/

import SequenceDiagram.Proofs.Diagram.Linking

namespace SequenceDiagram

open SequenceDiagram.Bracket (Closes unclosed)

/-- The run of brackets that the markers of a diagram are. -/
def Diagram.brackets (d : Diagram) : List (Option Bracket) := d.events.map (·.action.bracket?)

theorem Diagram.brackets_addEvent (d : Diagram) (line : Nat) (action : Action) :
    (d.addEvent line action).brackets = d.brackets ++ [action.bracket?] := by
  simp [brackets, addEvent]

/-- What a diagram says about the markers of the statements it was linked from. -/
structure Diagram.BlocksMatched (ss : List Numbered) (d : Diagram) : Prop where
  /-- Every statement but `else` has its event. -/
  events : List.Forall₂ (Tells d.names) (ss.filter (!·.statement.isOtherwise)) d.events
  /-- The blocks are the pairs, each with the kind and text of its start. -/
  blocks : ∀ b, b ∈ d.blocks ↔
    (∃ line, d.events[b.start]? = some ⟨line, .blockStart b.kind b.text⟩) ∧ Closes d.brackets b.start b.finish
  finish : ∀ b ∈ d.blocks, ∃ line, d.events[b.finish]? = some ⟨line, .blockEnd⟩
  /-- Every `end` ends one block. -/
  ended : ∀ j line, d.events[j]? = some ⟨line, .blockEnd⟩ → ∃! b, b ∈ d.blocks ∧ b.finish = j
  ordered : d.blocks.Pairwise fun b c => b.finish < c.finish
  /-- An earlier block lies before a later one or strictly inside it. -/
  nested : d.blocks.Pairwise fun b c => b.finish < c.start ∨ c.start < b.start ∧ b.finish < c.finish
  /-- A start that is never closed lies outside every block. -/
  unclosed : ∀ i line kind text, d.events[i]? = some ⟨line, .blockStart kind text⟩ →
    (∀ j, ¬ Closes d.brackets i j) → ∀ b ∈ d.blocks, b.finish < i ∨ i < b.start

/-! ## The invariant -/

/-- What holds of the blocks of a draft after every step. -/
structure Draft.Nested (d : Draft) : Prop where
  stack : d.openBlocks.topFirst.map (·.start) = unclosed d.diagram.brackets
  opened : ∀ b ∈ d.openBlocks.topFirst, ∃ line, d.diagram.events[b.start]? = some ⟨line, .blockStart b.kind b.text⟩
  pairs : ∀ b ∈ d.diagram.blocks, (∃ line, d.diagram.events[b.start]? = some ⟨line, .blockStart b.kind b.text⟩) ∧
    Closes d.diagram.brackets b.start b.finish
  listed : ∀ i j, Closes d.diagram.brackets i j → ∃ b ∈ d.diagram.blocks, b.start = i ∧ b.finish = j
  ordered : d.diagram.blocks.Pairwise fun b c => b.finish < c.finish
  ended : ∀ j, d.diagram.brackets[j]? = some (some .closing) → ∃ i, Closes d.diagram.brackets i j

namespace Draft.Nested

variable {d e : Draft} {s : Numbered}

theorem empty : Nested Draft.empty :=
  ⟨rfl, nofun, nofun, fun _ _ h => absurd h.lt_length (Nat.not_lt_zero _), .nil, nofun⟩

theorem start_append (event : Event) {kind : BlockKind} {text : String} {i : Nat}
    (h : ∃ line, d.diagram.events[i]? = some ⟨line, .blockStart kind text⟩) :
    ∃ line, (d.diagram.events ++ [event])[i]? = some ⟨line, .blockStart kind text⟩ :=
  h.imp fun _ => getElem?_of_extends (List.prefix_append ..)

/-- A closing that finds a block open ends it, and the others end what they ended. -/
theorem ended_append (h : Nested d) {x : Option Bracket} (hx : x = some .closing → d.openBlocks.topFirst ≠ []) {j : Nat}
    (hj : (d.diagram.brackets ++ [x])[j]? = some (some .closing)) : ∃ i, Closes (d.diagram.brackets ++ [x]) i j := by
  have hlt := (List.getElem?_eq_some_iff.mp hj).1
  rw [List.length_append, List.length_singleton] at hlt
  rcases Nat.lt_or_ge j d.diagram.brackets.length with hj' | hj'
  · rw [List.getElem?_append_left hj'] at hj
    obtain ⟨i, hi⟩ := h.ended j hj
    exact ⟨i, Bracket.closes_append_singleton.mpr (.inl hi)⟩
  · obtain rfl : j = d.diagram.brackets.length := by omega
    rw [List.getElem?_concat_length, Option.some.injEq] at hj
    have hne := hx hj
    cases htop : d.openBlocks.topFirst with
    | nil => exact absurd htop hne
    | cons b rest =>
      refine ⟨b.start, Bracket.closes_append_singleton.mpr (.inr ⟨rfl, hj, ?_⟩)⟩
      rw [← h.stack, htop]
      rfl

theorem listed_append (h : Nested d) {x : Option Bracket} (hx : x ≠ some .closing) (i j : Nat)
    (hij : Closes (d.diagram.brackets ++ [x]) i j) : ∃ b ∈ d.diagram.blocks, b.start = i ∧ b.finish = j := by
  rcases Bracket.closes_append_singleton.mp hij with hij | ⟨-, hx', -⟩
  · exact h.listed i j hij
  · exact absurd hx' hx

theorem pairs_append (h : Nested d) (event : Event) (x : Option Bracket) (b : Block) (hb : b ∈ d.diagram.blocks) :
    (∃ line, (d.diagram.events ++ [event])[b.start]? = some ⟨line, .blockStart b.kind b.text⟩) ∧
      Closes (d.diagram.brackets ++ [x]) b.start b.finish :=
  ⟨start_append event (h.pairs b hb).1, Bracket.closes_append_singleton.mpr (.inl (h.pairs b hb).2)⟩

theorem add_unmarked (h : Nested d) {g : Diagram} {line : Nat} {action : Action} (ha : action.bracket? = none)
    (he : g.events = d.diagram.events) (hblocks : g.blocks = d.diagram.blocks) :
    Nested ⟨g.addEvent line action, d.openBlocks⟩ := by
  have hevents : (g.addEvent line action).events = d.diagram.events ++ [⟨line, action⟩] := by
    rw [Diagram.addEvent, he]
  have hrun : (g.addEvent line action).brackets = d.diagram.brackets ++ [none] := by
    rw [Diagram.brackets_addEvent, ha, Diagram.brackets, he]
    rfl
  have hlist : (g.addEvent line action).blocks = d.diagram.blocks := hblocks
  constructor <;> simp only [hevents, hrun, hlist]
  case stack => rw [Bracket.unclosed_append]; exact h.stack
  case opened => exact fun b hb => start_append _ (h.opened b hb)
  case pairs => exact h.pairs_append _ none
  case listed => exact h.listed_append nofun
  case ordered => exact h.ordered
  case ended => exact fun j => h.ended_append (by simp)

theorem add_start (h : Nested d) (line : Nat) (kind : BlockKind) (text : String) :
    Nested ⟨d.diagram.addEvent line (.blockStart kind text),
      d.openBlocks.push ⟨kind, text, d.diagram.events.length⟩⟩ := by
  have hrun : (d.diagram.addEvent line (.blockStart kind text)).brackets =
      d.diagram.brackets ++ [some .opening] := d.diagram.brackets_addEvent ..
  constructor <;> simp only [hrun]
  case stack =>
    rw [Bracket.unclosed_append, ← h.stack, Diagram.brackets, List.length_map]
    rfl
  case opened =>
    intro b hb
    rcases List.mem_cons.mp hb with rfl | hb
    · exact ⟨line, List.getElem?_concat_length⟩
    · exact start_append _ (h.opened b hb)
  case pairs => exact h.pairs_append _ _
  case listed => exact h.listed_append nofun
  case ordered => exact h.ordered
  case ended => exact fun j => h.ended_append (by simp)

theorem add_end (h : Nested d) {g : Diagram} {line : Nat} {b : OpenBlock} {rest : Stack OpenBlock}
    (hpop : d.openBlocks.pop? = some (b, rest)) (he : g.events = d.diagram.events ++ [⟨line, .blockEnd⟩])
    (hblocks : g.blocks = d.diagram.blocks ++ [⟨b.kind, b.text, b.start, d.diagram.events.length⟩]) :
    Nested ⟨g, rest⟩ := by
  have htop := Stack.topFirst_of_pop? hpop
  have hlength : d.diagram.brackets.length = d.diagram.events.length := List.length_map _
  have hrun : g.brackets = d.diagram.brackets ++ [some .closing] := by
    rw [Diagram.brackets, he, List.map_append]
    rfl
  have hhead : (unclosed d.diagram.brackets).head? = some b.start := by rw [← h.stack, htop]; rfl
  have hclosed : Closes (d.diagram.brackets ++ [some .closing]) b.start d.diagram.events.length :=
    Bracket.closes_append_singleton.mpr (.inr ⟨hlength.symm, rfl, hhead⟩)
  constructor <;> simp only [he, hrun, hblocks]
  case stack =>
    rw [Bracket.unclosed_append, ← h.stack, htop]
    rfl
  case opened => exact fun c hc => start_append _ (h.opened c (htop ▸ List.mem_cons_of_mem _ hc))
  case pairs =>
    intro c hc
    rcases List.mem_append.mp hc with hc | hc
    · exact h.pairs_append _ _ c hc
    · obtain rfl := List.mem_singleton.mp hc
      exact ⟨start_append _ (h.opened b (htop ▸ List.mem_cons_self)), hclosed⟩
  case listed =>
    intro i j hij
    rcases Bracket.closes_append_singleton.mp hij with hij | ⟨hj, -, hi⟩
    · obtain ⟨c, hc, hij⟩ := h.listed i j hij
      exact ⟨c, List.mem_append_left _ hc, hij⟩
    · refine ⟨_, List.mem_append_right _ List.mem_cons_self, ?_, (hj.trans hlength).symm⟩
      exact Option.some.inj (hhead.symm.trans hi)
  case ordered =>
    refine List.pairwise_append.mpr ⟨h.ordered, List.pairwise_singleton _ _, fun c hc c' hc' => ?_⟩
    obtain rfl := List.mem_singleton.mp hc'
    exact hlength ▸ (h.pairs c hc).2.lt_length
  case ended => exact fun j => h.ended_append fun _ => by rw [htop]; exact List.cons_ne_nil _ _

theorem add (h : Nested d) (hs : d.add s = .ok e) : Nested e := by
  rcases add_cases hs with ⟨text, -, rfl⟩ | ⟨g, action, hb, -, rfl, ht, -, he, hblocks⟩ | ⟨kind, text, -, rfl⟩ |
    ⟨b, rest, -, hpop, rfl⟩
  · exact h
  · exact h.add_unmarked (ht.bracket?.trans hb) he hblocks
  · exact h.add_start s.line kind text
  · exact h.add_end hpop rfl rfl

end Draft.Nested

/-! ## The matching -/

theorem Diagram.brackets_getElem? {d : Diagram} {i : Nat} {x : Option Bracket} :
    d.brackets[i]? = some x ↔ ∃ e, d.events[i]? = some e ∧ e.action.bracket? = x := by
  rw [brackets, List.getElem?_map, Option.map_eq_some_iff]

namespace Draft.Nested

variable {d : Draft}

/-- A block is told by its pair. -/
theorem block_eq (h : Nested d) {b c : Block} (hb : b ∈ d.diagram.blocks)
    (hc : ∃ line, d.diagram.events[c.start]? = some ⟨line, .blockStart c.kind c.text⟩)
    (hstart : b.start = c.start) (hfinish : b.finish = c.finish) : b = c := by
  obtain ⟨line, hline⟩ := (h.pairs b hb).1
  obtain ⟨line', hline'⟩ := hc
  rw [hstart, hline'] at hline
  injection hline with hevent
  injection hevent with _ haction
  injection haction with hkind htext
  obtain ⟨bkind, btext, bstart, bfinish⟩ := b
  obtain ⟨ckind, ctext, cstart, cfinish⟩ := c
  simp_all

theorem matched (h : Nested d) {ss : List Numbered}
    (hevents : List.Forall₂ (Tells d.diagram.names) (ss.filter (!·.statement.isOtherwise)) d.diagram.events) :
    Diagram.BlocksMatched ss d.diagram where
  events := hevents
  blocks c := by
    refine ⟨h.pairs c, fun ⟨hstart, hclosed⟩ => ?_⟩
    obtain ⟨b, hb, hbstart, hbfinish⟩ := h.listed _ _ hclosed
    exact h.block_eq hb hstart hbstart hbfinish ▸ hb
  finish b hb := by
    obtain ⟨e, he, hclosing⟩ := Diagram.brackets_getElem?.mp (h.pairs b hb).2.closing
    obtain ⟨line, action⟩ := e
    obtain rfl := Action.bracket?_closing.mp hclosing
    exact ⟨line, he⟩
  ended j line hj := by
    obtain ⟨i, hij⟩ := h.ended j (Diagram.brackets_getElem?.mpr ⟨_, hj, rfl⟩)
    obtain ⟨b, hb, -, hfinish⟩ := h.listed i j hij
    refine ⟨b, ⟨hb, hfinish⟩, fun c ⟨hc, hcfinish⟩ => ?_⟩
    have heq : c.finish = b.finish := hcfinish.trans hfinish.symm
    exact h.block_eq hc (h.pairs b hb).1 ((h.pairs c hc).2.injective (heq ▸ (h.pairs b hb).2)) heq
  ordered := h.ordered
  nested := by
    refine h.ordered.imp_of_mem fun {b c} hb hc hlt => ?_
    have hbclosed := (h.pairs b hb).2
    have hcclosed := (h.pairs c hc).2
    rcases Nat.lt_trichotomy b.start c.start with hs | hs | hs
    · have := hbclosed.disjoint_or_nested hcclosed hs
      omega
    · have := hbclosed.unique (hs ▸ hcclosed)
      omega
    · exact .inr ⟨hs, hlt⟩
  unclosed i line kind text hi hno b hb := by
    have hclosed := (h.pairs b hb).2
    have hopen : d.diagram.brackets[i]? = some (some .opening) := Diagram.brackets_getElem?.mpr ⟨_, hi, rfl⟩
    by_contra hin
    rcases Nat.lt_trichotomy i b.start with hlt | heq | hgt
    · omega
    · exact hno _ (heq ▸ hclosed)
    · have hne : i ≠ b.finish := fun heq => by
        have hclosing := hclosed.closing
        rw [← heq, hopen] at hclosing
        cases hclosing
      obtain ⟨j, -, hj⟩ := Bracket.closes_inside hclosed hopen hgt (by omega)
      exact hno j hj

end Draft.Nested

/-- What a layout relies on of the blocks of a diagram: each is a range of events that begins
    with its first marker, and an inner block stands before an outer. -/
structure Diagram.Bracketed (d : Diagram) : Prop where
  start : ∀ b ∈ d.blocks, ∃ line, d.events[b.start]? = some ⟨line, .blockStart b.kind b.text⟩
  lt : ∀ b ∈ d.blocks, b.start < b.finish
  finish_lt : ∀ b ∈ d.blocks, b.finish < d.events.length
  ordered : d.blocks.Pairwise fun b c => b.finish < c.finish

theorem Draft.Nested.bracketed {d : Draft} (h : Nested d) : d.diagram.Bracketed where
  start b hb := (h.pairs b hb).1
  lt b hb := (h.pairs b hb).2.lt
  finish_lt b hb := by
    have hlength : d.diagram.brackets.length = d.diagram.events.length := List.length_map _
    rw [← hlength]
    exact (h.pairs b hb).2.lt_length
  ordered := h.ordered

theorem Diagram.bracketed_of_build {ss : List Numbered} {d : Diagram} (h : build ss = .ok d) : d.Bracketed := by
  obtain ⟨e, he, rfl⟩ := build_eq_ok_iff.mp h
  have hnested : Draft.Nested e := Draft.run_induction (P := fun _ => Draft.Nested) .empty (fun _ _ _ _ h => h.add) he
  exact hnested.bracketed

/-- The blocks of every linked diagram are the bracket matching of its markers. -/
theorem Diagram.blocksMatched_of_build {ss : List Numbered} {d : Diagram} (h : build ss = .ok d) :
    BlocksMatched ss d := by
  obtain ⟨e, he, rfl⟩ := build_eq_ok_iff.mp h
  have hnested : Draft.Nested e := Draft.run_induction (P := fun _ => Draft.Nested) .empty (fun _ _ _ _ h => h.add) he
  exact hnested.matched (Draft.tells_of_run he)

/-- Blocks that hold others, side by side, inside a start that is never closed. -/
theorem Diagram.blocksMatched_inside_unclosed :
    ∃ ss, ss = [⟨1, .blockStart .alt "never closed"⟩, ⟨2, .blockStart .loop "outer"⟩,
      ⟨3, .message "a" ⟨.solid, some .start⟩ "b" "x"⟩, ⟨4, .blockStart .alt "inner"⟩, ⟨5, .otherwise "or"⟩,
      ⟨6, .blockEnd⟩, ⟨7, .blockEnd⟩, ⟨9, .note .over ["b"] "y"⟩, ⟨10, .blockStart .loop "beside"⟩,
      ⟨11, .blockEnd⟩] ∧
    ∃ d, build ss = .ok d ∧
      d.blocks = [⟨.alt, "inner", 3, 4⟩, ⟨.loop, "outer", 1, 5⟩, ⟨.loop, "beside", 7, 8⟩] ∧ d.BlocksMatched ss :=
  ⟨_, rfl, _, rfl, rfl, blocksMatched_of_build rfl⟩

end SequenceDiagram
