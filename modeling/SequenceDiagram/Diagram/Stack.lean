/-
  SequenceDiagram.Diagram.Stack — last in, first out.

  Open activations and open blocks are kept on stacks. The top stands first, so that
  taking and putting are the two list constructors; `toList` shows a stack from the
  bottom up, which is the order things were put on it.
-/

namespace SequenceDiagram

structure Stack (α : Type) where
  topFirst : List α
  deriving DecidableEq, Repr

namespace Stack

variable {α : Type}

def empty : Stack α := ⟨[]⟩

instance : Inhabited (Stack α) := ⟨empty⟩

def push (a : α) (s : Stack α) : Stack α := ⟨a :: s.topFirst⟩

def peek? (s : Stack α) : Option α := s.topFirst.head?

/-- The top and what is below it. -/
def pop? (s : Stack α) : Option (α × Stack α) :=
  match s.topFirst with
  | [] => none
  | a :: rest => some (a, ⟨rest⟩)

def size (s : Stack α) : Nat := s.topFirst.length

def isEmpty (s : Stack α) : Bool := s.topFirst.isEmpty

/-- From the bottom up. -/
def toList (s : Stack α) : List α := s.topFirst.reverse

@[simp] theorem toList_push (a : α) (s : Stack α) : (s.push a).toList = s.toList ++ [a] :=
  List.reverse_cons

theorem topFirst_of_pop? {s rest : Stack α} {a : α} (h : s.pop? = some (a, rest)) :
    s.topFirst = a :: rest.topFirst := by
  obtain ⟨items⟩ := s
  cases items with
  | nil => cases h
  | cons b below => cases h; rfl

theorem toList_of_pop? {s rest : Stack α} {a : α} (h : s.pop? = some (a, rest)) :
    s.toList = rest.toList ++ [a] := by
  obtain ⟨items⟩ := s
  cases items with
  | nil => cases h
  | cons b below => cases h; exact toList_push a ⟨below⟩

theorem pop?_eq_none_iff {s : Stack α} : s.pop? = none ↔ s.toList = [] := by
  obtain ⟨items⟩ := s
  cases items <;> simp [pop?, toList]

end Stack

end SequenceDiagram
