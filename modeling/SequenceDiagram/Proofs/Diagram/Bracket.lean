/-
  SequenceDiagram.Proofs.Diagram.Bracket — which end belongs to which start.

  A run is a list of positions, each an opening, a closing or neither. An opening at `i`
  is closed at the first `j` behind it for which more closings than openings stand in
  `(i..j]` (`Closes`); that says which pairs belong together without any stack.

  A stack finds them. Put every opening on it and take the top off at every closing, a
  closing on an empty stack doing nothing: what is left are the openings not closed,
  innermost first (`unclosed`). The invariant is the depth: above an opening on the stack
  lie as many others as there are more openings than closings behind it. So a closing
  closes the top and nothing else (`closes_append_singleton`).

  Pairs are disjoint or one lies strictly inside the other (`closes_inside`).
-/

import Mathlib.Data.List.Induction
import Mathlib.Data.Nat.Find

namespace SequenceDiagram

inductive Bracket where
  | opening
  | closing
  deriving DecidableEq, Repr

namespace Bracket

/-! ## Counting -/

/-- How many brackets of a kind stand before position `n`. -/
def before (b : Bracket) (r : List (Option Bracket)) (n : Nat) : Nat := (r.take n).count (some b)

/-- How many brackets of a kind stand in `(i..j]`. -/
def within (b : Bracket) (r : List (Option Bracket)) (i j : Nat) : Nat :=
  ((r.take (j + 1)).drop (i + 1)).count (some b)

variable {b : Bracket} {r : List (Option Bracket)} {i j n : Nat}

theorem before_succ : before b r (n + 1) = before b r n + if r[n]? = some (some b) then 1 else 0 := by
  unfold before
  rw [List.take_add_one, List.count_append]
  cases h : r[n]? with
  | none => simp
  | some a => by_cases ha : a = some b <;> simp [ha]

theorem before_of_length_le (h : r.length ≤ n) : before b r n = before b r r.length := by
  rw [before, before, List.take_of_length_le h, List.take_length]

theorem before_append {x : Option Bracket} (h : n ≤ r.length) : before b (r ++ [x]) n = before b r n := by
  rw [before, before, List.take_append_of_le_length h]

theorem before_append_succ {x : Option Bracket} :
    before b (r ++ [x]) (r.length + 1) = before b r r.length + if x = some b then 1 else 0 := by
  rw [before_succ, before_append (Nat.le_refl _)]
  simp

/-- What stands in `(i..j]` is what stands up to `j` without what stands up to `i`. -/
theorem before_add_within (h : i ≤ j) : before b r (i + 1) + within b r i j = before b r (j + 1) := by
  have hsplit : (r.take (j + 1)).take (i + 1) = r.take (i + 1) := by
    rw [List.take_take, Nat.min_eq_left (by omega)]
  rw [before, before, within, ← hsplit, ← List.count_append, List.take_append_drop]

/-! ## Pairs -/

/-- `j` is the first position behind the opening `i` with more closings than openings in `(i..j]`. -/
structure Closes (r : List (Option Bracket)) (i j : Nat) : Prop where
  opening : r[i]? = some (some .opening)
  lt : i < j
  excess : within .opening r i j < within .closing r i j
  least : ∀ k, i < k → k < j → within .closing r i k ≤ within .opening r i k

/-- The same, with everything counted from the front. -/
theorem closes_iff : Closes r i j ↔
    r[i]? = some (some .opening) ∧ i < j ∧
      before .opening r (j + 1) + before .closing r (i + 1) < before .closing r (j + 1) + before .opening r (i + 1) ∧
      ∀ k, i < k → k < j →
        before .closing r (k + 1) + before .opening r (i + 1) ≤
          before .opening r (k + 1) + before .closing r (i + 1) := by
  have hw : ∀ b k, i < k → before b r (i + 1) + within b r i k = before b r (k + 1) :=
    fun _ _ h => before_add_within (Nat.le_of_lt h)
  constructor
  · intro h
    refine ⟨h.opening, h.lt, ?_, fun k hik hkj => ?_⟩
    · have := hw .opening j h.lt; have := hw .closing j h.lt; have := h.excess; omega
    · have := hw .opening k hik; have := hw .closing k hik; have := h.least k hik hkj; omega
  · intro hcounts
    obtain ⟨hopen, hij, hexcess, hleast⟩ := hcounts
    refine ⟨hopen, hij, ?_, fun k hik hkj => ?_⟩
    · have := hw .opening j hij; have := hw .closing j hij; omega
    · have := hw .opening k hik; have := hw .closing k hik; have := hleast k hik hkj; omega

theorem before_opening_succ (h : r[i]? = some (some .opening)) :
    before .opening r (i + 1) = before .opening r i + 1 ∧ before .closing r (i + 1) = before .closing r i := by
  rw [before_succ, before_succ, h]
  simp

/-- The end of a pair is a closing. -/
theorem Closes.closing (h : Closes r i j) : r[j]? = some (some .closing) := by
  obtain ⟨hopen, hij, hexcess, hleast⟩ := closes_iff.mp h
  obtain ⟨j, rfl⟩ : ∃ k, j = k + 1 := ⟨j - 1, by omega⟩
  by_cases hc : r[j + 1]? = some (some .closing)
  · exact hc
  · exfalso
    rw [before_succ (n := j + 1), before_succ (n := j + 1) (b := .closing), if_neg hc] at hexcess
    rcases Nat.lt_or_ge i j with hlt | hge
    · have := hleast j hlt (Nat.lt_succ_self j); omega
    · obtain rfl : i = j := by omega
      omega

theorem Closes.lt_length (h : Closes r i j) : j < r.length := (List.getElem?_eq_some_iff.mp h.closing).1

theorem Closes.unique {j' : Nat} (h : Closes r i j) (h' : Closes r i j') : j = j' := by
  rcases Nat.lt_trichotomy j j' with hlt | heq | hlt
  · have := h'.least j h.lt hlt; have := h.excess; omega
  · exact heq
  · have := h.least j' h'.lt hlt; have := h'.excess; omega

theorem within_append {x : Option Bracket} (h : j < r.length) : within b (r ++ [x]) i j = within b r i j := by
  rw [within, within, List.take_append_of_le_length h]

/-- What comes later does not change which pairs there are. -/
theorem closes_append_of_lt {x : Option Bracket} (hj : j < r.length) : Closes (r ++ [x]) i j ↔ Closes r i j := by
  have hget : i < j → (r ++ [x])[i]? = r[i]? := fun hij => List.getElem?_append_left (by omega)
  constructor
  · intro h
    obtain ⟨hopen, hij, hexcess, hleast⟩ := h
    rw [hget hij] at hopen
    rw [within_append hj, within_append hj] at hexcess
    refine ⟨hopen, hij, hexcess, fun k hik hkj => ?_⟩
    have := hleast k hik hkj
    rwa [within_append (by omega), within_append (by omega)] at this
  · intro h
    obtain ⟨hopen, hij, hexcess, hleast⟩ := h
    refine ⟨by rwa [hget hij], hij, by rwa [within_append hj, within_append hj], fun k hik hkj => ?_⟩
    rw [within_append (by omega), within_append (by omega)]
    exact hleast k hik hkj

/-- An opening behind which the closings ever prevail is closed, no later than there. -/
theorem exists_closes {k : Nat} (hopen : r[i]? = some (some .opening)) (hik : i < k)
    (hexcess : within .opening r i k < within .closing r i k) : ∃ j, j ≤ k ∧ Closes r i j := by
  have h : ∃ j, i < j ∧ within .opening r i j < within .closing r i j := ⟨k, hik, hexcess⟩
  obtain ⟨hlt, hj⟩ := Nat.find_spec h
  refine ⟨Nat.find h, Nat.find_min' h ⟨hik, hexcess⟩, hopen, hlt, hj, fun m him hm => ?_⟩
  have := Nat.find_min h hm
  omega

/-- An opening inside a pair is closed inside it. -/
theorem closes_inside {i' : Nat} (h : Closes r i j) (hopen : r[i']? = some (some .opening)) (hi : i < i')
    (hj : i' < j) : ∃ j', j' < j ∧ Closes r i' j' := by
  obtain ⟨-, -, hexcess, hleast⟩ := closes_iff.mp h
  obtain ⟨ho, hc⟩ := before_opening_succ hopen
  -- up to `i'` the closings do not prevail, so behind the opening there they do by two
  have hprefix : before .closing r i' + before .opening r (i + 1) ≤ before .opening r i' + before .closing r (i + 1) := by
    obtain ⟨k, rfl⟩ : ∃ k, i' = k + 1 := ⟨i' - 1, by omega⟩
    rcases Nat.lt_or_ge i k with hlt | hge
    · exact hleast k hlt (by omega)
    · obtain rfl : i = k := by omega
      omega
  have hlast : before .closing r (j + 1) = before .closing r j + 1 := by
    rw [before_succ, if_pos h.closing]
  have hsame : before .opening r (j + 1) = before .opening r j := by
    rw [before_succ, if_neg (by rw [h.closing]; simp), Nat.add_zero]
  obtain ⟨k, rfl⟩ : ∃ k, j = k + 1 := ⟨j - 1, by omega⟩
  have hik : i' < k ∨ i' = k := by omega
  have hwo := before_add_within (b := .opening) (r := r) (i := i') (j := k) (by omega)
  have hwc := before_add_within (b := .closing) (r := r) (i := i') (j := k) (by omega)
  rcases hik with hlt | rfl
  · obtain ⟨j', hle, hj'⟩ := exists_closes hopen hlt (by omega)
    exact ⟨j', by omega, hj'⟩
  · omega

/-- Two pairs are disjoint or one lies strictly inside the other. -/
theorem Closes.disjoint_or_nested {i' j' : Nat} (h : Closes r i j) (h' : Closes r i' j') (hi : i < i') :
    j < i' ∨ j' < j := by
  rcases Nat.lt_trichotomy j i' with hlt | heq | hlt
  · exact .inl hlt
  · have hc := h.closing
    rw [heq, h'.opening] at hc
    cases hc
  · obtain ⟨k, hk, hk'⟩ := closes_inside h h'.opening hi hlt
    exact .inr (h'.unique hk' ▸ hk)

/-- Two openings have two closings. -/
theorem Closes.injective {i' : Nat} (h : Closes r i j) (h' : Closes r i' j) : i = i' := by
  rcases Nat.lt_trichotomy i i' with hlt | heq | hlt
  · have := h.disjoint_or_nested h' hlt; have := h'.lt; omega
  · exact heq
  · have := h'.disjoint_or_nested h hlt; have := h.lt; omega

/-- A closing behind a run closes the openings that are not closed and at no depth. -/
theorem closes_append_length {x : Option Bracket} : Closes (r ++ [x]) i r.length ↔
    x = some .closing ∧ r[i]? = some (some .opening) ∧ (∀ j, ¬ Closes r i j) ∧
      before .opening r r.length + before .closing r (i + 1) =
        before .closing r r.length + before .opening r (i + 1) := by
  have hlast : (r ++ [x])[r.length]? = some x := by simp
  have hold : ∀ b k, k < r.length → before b (r ++ [x]) (k + 1) = before b r (k + 1) := fun _ _ h => before_append h
  constructor
  · intro h
    have hi := h.lt
    have hx : x = some .closing := Option.some.inj (hlast.symm.trans h.closing)
    have hopen := h.opening
    rw [List.getElem?_append_left hi] at hopen
    refine ⟨hx, hopen, fun j hj => ?_, ?_⟩
    · have heq := ((closes_append_of_lt (x := x) hj.lt_length).mpr hj).unique h
      have := hj.lt_length
      omega
    · obtain ⟨-, -, hexcess, hleast⟩ := closes_iff.mp h
      rw [before_append_succ, before_append_succ, hold _ i hi, hold _ i hi, hx] at hexcess
      simp only [reduceCtorEq, if_false, if_true, Option.some.injEq] at hexcess
      obtain ⟨k, hk⟩ : ∃ k, r.length = k + 1 := ⟨r.length - 1, by omega⟩
      rcases Nat.lt_or_ge i k with hlt | hge
      · have hle := hleast k hlt (by omega)
        rw [hold _ k (by omega), hold _ k (by omega), hold _ i hi, hold _ i hi] at hle
        rw [hk] at hexcess ⊢
        omega
      · obtain rfl : i = k := by omega
        rw [hk, Nat.add_comm]
  · intro hcounts
    obtain ⟨rfl, hopen, hunclosed, hdepth⟩ := hcounts
    have hi : i < r.length := (List.getElem?_eq_some_iff.mp hopen).1
    refine closes_iff.mpr ⟨by rwa [List.getElem?_append_left hi], hi, ?_, fun k hik hk => ?_⟩
    · rw [before_append_succ, before_append_succ, hold _ i hi, hold _ i hi]
      simp only [reduceCtorEq, if_false, if_true, Option.some.injEq]
      omega
    · rw [hold _ k hk, hold _ k hk, hold _ i hi, hold _ i hi]
      have hwo := before_add_within (b := .opening) (r := r) (i := i) (j := k) (by omega)
      have hwc := before_add_within (b := .closing) (r := r) (i := i) (j := k) (by omega)
      by_contra hexcess
      obtain ⟨j, -, hj⟩ := exists_closes hopen hik (by omega)
      exact hunclosed j hj

/-! ## The stack -/

/-- What a bracket at position `n` does to the stack, whose top stands first. -/
def shift (stack : List Nat) (n : Nat) : Option Bracket → List Nat
  | none => stack
  | some .opening => n :: stack
  | some .closing => stack.tail

def shiftAll : List Nat → Nat → List (Option Bracket) → List Nat
  | stack, _, [] => stack
  | stack, n, x :: r => shiftAll (shift stack n x) (n + 1) r

/-- The openings that are not closed, the innermost first. -/
def unclosed (r : List (Option Bracket)) : List Nat := shiftAll [] 0 r

theorem shiftAll_append {stack : List Nat} {x : Option Bracket} :
    shiftAll stack n (r ++ [x]) = shift (shiftAll stack n r) (n + r.length) x := by
  induction r generalizing stack n with
  | nil => rfl
  | cons y r ih =>
    rw [List.cons_append, shiftAll, shiftAll, ih, List.length_cons]
    congr 1
    omega

theorem unclosed_append (r : List (Option Bracket)) (x : Option Bracket) :
    unclosed (r ++ [x]) = shift (unclosed r) r.length x := by
  rw [unclosed, unclosed, shiftAll_append, Nat.zero_add]

/-- How many are open after a bracket; a closing with none open does nothing. -/
def tally (open_ : Nat) : Option Bracket → Nat
  | none => open_
  | some .opening => open_ + 1
  | some .closing => open_ - 1

theorem length_unclosed (r : List (Option Bracket)) : (unclosed r).length = r.foldl tally 0 := by
  induction r using List.reverseRecOn with
  | nil => rfl
  | append_singleton r x ih =>
    rw [unclosed_append, List.foldl_append, List.foldl_cons, List.foldl_nil, ← ih]
    rcases x with _ | _ | _
    · rfl
    · rfl
    · exact List.length_tail

/-- A stack that holds the openings not closed. Above the one at place `p` lie `p`
    others, which is by how many the openings behind it prevail. -/
structure Tracks (r : List (Option Bracket)) (stack : List Nat) : Prop where
  opening : ∀ i ∈ stack, r[i]? = some (some .opening)
  descending : stack.Pairwise (· > ·)
  depth : ∀ p i, stack[p]? = some i → before .opening r r.length + before .closing r (i + 1) =
    before .closing r r.length + before .opening r (i + 1) + p
  unclosed : ∀ i ∈ stack, ∀ j, ¬ Closes r i j
  closed : ∀ i, r[i]? = some (some .opening) → i ∉ stack → ∃ j, Closes r i j

namespace Tracks

variable {stack : List Nat} {x : Option Bracket}

theorem lt_length (h : Tracks r stack) (hi : i ∈ stack) : i < r.length :=
  (List.getElem?_eq_some_iff.mp (h.opening i hi)).1

/-- A closing closes the top of the stack and nothing else. -/
theorem closes_iff_head (h : Tracks r stack) :
    Closes (r ++ [x]) i r.length ↔ x = some .closing ∧ stack.head? = some i := by
  rw [closes_append_length, List.head?_eq_getElem?]
  refine and_congr_right fun _ => ⟨fun ⟨hopen, hunclosed, hdepth⟩ => ?_, fun hi => ?_⟩
  · have hmem : i ∈ stack := by
      by_contra hi
      obtain ⟨j, hj⟩ := h.closed i hopen hi
      exact hunclosed j hj
    obtain ⟨p, hp⟩ := List.mem_iff_getElem?.mp hmem
    have := h.depth p i hp
    obtain rfl : p = 0 := by omega
    exact hp
  · have hmem := List.mem_iff_getElem?.mpr ⟨0, hi⟩
    exact ⟨h.opening i hmem, h.unclosed i hmem, h.depth 0 i hi⟩

theorem closes_append (h : Tracks r stack) :
    Closes (r ++ [x]) i j ↔ Closes r i j ∨ j = r.length ∧ x = some .closing ∧ stack.head? = some i := by
  constructor
  · intro hj
    have hlt := hj.lt_length
    rw [List.length_append, List.length_singleton] at hlt
    rcases Nat.lt_or_ge j r.length with hj' | hj'
    · exact .inl ((closes_append_of_lt hj').mp hj)
    · obtain rfl : j = r.length := by omega
      exact .inr ⟨rfl, h.closes_iff_head.mp hj⟩
  · intro hor
    rcases hor with hj | ⟨rfl, hx⟩
    · exact (closes_append_of_lt hj.lt_length).mpr hj
    · exact h.closes_iff_head.mpr hx

theorem getElem?_append (h : Tracks r stack) (hi : i ∈ stack) : (r ++ [x])[i]? = some (some .opening) := by
  rw [List.getElem?_append_left (h.lt_length hi), h.opening i hi]

theorem depth_append (h : Tracks r stack) {p : Nat} (hp : stack[p]? = some i) :
    before .opening r r.length + before .closing (r ++ [x]) (i + 1) =
      before .closing r r.length + before .opening (r ++ [x]) (i + 1) + p := by
  have hi := h.lt_length (List.mem_iff_getElem?.mpr ⟨p, hp⟩)
  rw [before_append hi, before_append hi]
  exact h.depth p i hp

theorem closed_append (h : Tracks r stack) (hi : (r ++ [x])[i]? = some (some .opening)) (hne : i ≠ r.length)
    (hmem : i ∉ stack) : ∃ j, Closes (r ++ [x]) i j := by
  have hlt := (List.getElem?_eq_some_iff.mp hi).1
  rw [List.length_append, List.length_singleton] at hlt
  rw [List.getElem?_append_left (by omega)] at hi
  obtain ⟨j, hj⟩ := h.closed i hi hmem
  exact ⟨j, (closes_append_of_lt hj.lt_length).mpr hj⟩

theorem append_none (h : Tracks r stack) : Tracks (r ++ [none]) stack := by
  refine ⟨fun i => h.getElem?_append, h.descending, fun p i hp => ?_, fun i hi j hj => ?_, fun i hi hmem => ?_⟩
  · rw [List.length_append, List.length_singleton, before_append_succ, before_append_succ]
    simpa using h.depth_append hp
  · rcases h.closes_append.mp hj with hj | ⟨-, hx, -⟩
    · exact h.unclosed i hi j hj
    · cases hx
  · refine h.closed_append hi (fun heq => ?_) hmem
    rw [heq, List.getElem?_concat_length] at hi
    cases hi

theorem append_opening (h : Tracks r stack) : Tracks (r ++ [some .opening]) (r.length :: stack) := by
  refine ⟨fun i hi => ?_, ?_, fun p i hp => ?_, fun i hi j hj => ?_, fun i hi hmem => ?_⟩
  · rcases List.mem_cons.mp hi with rfl | hi
    · exact List.getElem?_concat_length
    · exact h.getElem?_append hi
  · exact List.pairwise_cons.mpr ⟨fun i hi => h.lt_length hi, h.descending⟩
  · rw [List.length_append, List.length_singleton, before_append_succ, before_append_succ]
    simp only [Option.some.injEq, reduceCtorEq, if_false, if_true]
    cases p with
    | zero =>
      obtain rfl : r.length = i := Option.some.inj hp
      rw [before_append_succ, before_append_succ]
      simp only [Option.some.injEq, reduceCtorEq, if_false, if_true]
      omega
    | succ p =>
      have := h.depth_append (x := some .opening) hp
      omega
  · rcases h.closes_append.mp hj with hj | ⟨-, hx, -⟩
    · rcases List.mem_cons.mp hi with rfl | hi
      · have := hj.lt; have := hj.lt_length; omega
      · exact h.unclosed i hi j hj
    · cases hx
  · exact h.closed_append hi (fun heq => hmem (heq ▸ List.mem_cons_self)) fun hi => hmem (List.mem_cons_of_mem _ hi)

theorem append_closing (h : Tracks r stack) : Tracks (r ++ [some .closing]) stack.tail := by
  refine ⟨fun i hi => h.getElem?_append (List.mem_of_mem_tail hi), h.descending.tail, fun p i hp => ?_,
    fun i hi j hj => ?_, fun i hi hmem => ?_⟩
  · rw [List.length_append, List.length_singleton, before_append_succ, before_append_succ]
    simp only [Option.some.injEq, reduceCtorEq, if_false, if_true]
    rw [List.getElem?_tail] at hp
    have := h.depth_append (x := some .closing) hp
    omega
  · rcases h.closes_append.mp hj with hj | ⟨-, -, hhead⟩
    · exact h.unclosed i (List.mem_of_mem_tail hi) j hj
    · cases stack with
      | nil => cases hhead
      | cons top stack =>
        obtain rfl : top = i := Option.some.inj hhead
        have := (List.pairwise_cons.mp h.descending).1 top hi
        omega
  · have hne : i ≠ r.length := fun heq => by rw [heq, List.getElem?_concat_length] at hi; cases hi
    cases stack with
    | nil => exact h.closed_append hi hne hmem
    | cons top stack =>
      by_cases heq : top = i
      · exact ⟨r.length, h.closes_iff_head.mpr ⟨rfl, congrArg some heq⟩⟩
      · exact h.closed_append hi hne fun hi => (List.mem_cons.mp hi).elim (fun h => heq h.symm) hmem

end Tracks

theorem tracks_unclosed (r : List (Option Bracket)) : Tracks r (unclosed r) := by
  induction r using List.reverseRecOn with
  | nil => exact ⟨nofun, .nil, nofun, nofun, nofun⟩
  | append_singleton r x ih =>
    rw [unclosed_append]
    rcases x with _ | _ | _
    · exact ih.append_none
    · exact ih.append_opening
    · exact ih.append_closing

theorem mem_unclosed_iff : i ∈ unclosed r ↔ r[i]? = some (some .opening) ∧ ∀ j, ¬ Closes r i j := by
  have h := tracks_unclosed r
  refine ⟨fun hi => ⟨h.opening i hi, h.unclosed i hi⟩, fun ⟨hopen, hno⟩ => ?_⟩
  by_contra hi
  obtain ⟨j, hj⟩ := h.closed i hopen hi
  exact hno j hj

/-- The pairs of a run with one more bracket: a closing makes one with the top of the stack. -/
theorem closes_append_singleton {x : Option Bracket} : Closes (r ++ [x]) i j ↔
    Closes r i j ∨ j = r.length ∧ x = some .closing ∧ (unclosed r).head? = some i :=
  (tracks_unclosed r).closes_append

end Bracket

end SequenceDiagram
