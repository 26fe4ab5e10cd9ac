/-
  SequenceDiagram.Proofs.Markup.Escaping — what escaping keeps, and how it is undone.

  Five characters mean something to whoever reads the markup. No entity holds any of
  them but the ampersand it begins with, so an escaped text holds neither an angle
  bracket nor a quote (`plain_of_mem_escape`), and a text without the five is its own
  escape (`escape_eq_self`). Reading entities from left to right gives the text back
  (`unescape_escape`): an entity is read as the character it stands for, and any other
  character begins none (`unescapeChars_entity_append`).
-/

import Mathlib.Data.List.Basic
import SequenceDiagram.Markup.Escape

namespace SequenceDiagram.Markup

/-- The characters that have an entity. -/
def isSpecial (c : Char) : Bool := c = '&' || c = '<' || c = '>' || c = '"' || c = '\''

/-- A text with its entities replaced. -/
def unescape (s : String) : String := String.ofList (unescapeChars s.toList)

variable {c d : Char} {s : String}

/-! ## One character -/

theorem entity_of_not_special (h : isSpecial c = false) : entity c = [c] := by
  simp only [isSpecial, Bool.or_eq_false_iff, decide_eq_false_iff_not] at h
  obtain ⟨⟨⟨⟨hamp, hlt⟩, hgt⟩, hquot⟩, hapos⟩ := h
  rw [entity, if_neg hamp, if_neg hlt, if_neg hgt, if_neg hquot, if_neg hapos]

/-- An entity holds none of the five, but for the ampersand. -/
theorem plain_of_mem_entity (h : d ∈ entity c) : d = '&' ∨ isSpecial d = false := by
  by_cases hc : isSpecial c
  · have hall : (entity c).all fun d => d = '&' || !isSpecial d := by
      simp only [isSpecial, Bool.or_eq_true, decide_eq_true_eq] at hc
      obtain (((rfl | rfl) | rfl) | rfl) | rfl := hc <;> decide
    simpa using List.all_eq_true.mp hall d h
  · have hplain : isSpecial c = false := by simpa using hc
    rw [entity_of_not_special hplain, List.mem_singleton] at h
    rw [h]
    exact .inr hplain

/-- An entity is read as the character it stands for, whatever follows. -/
theorem unescapeChars_entity_append (c : Char) (s : List Char) :
    unescapeChars (entity c ++ s) = c :: unescapeChars s := by
  by_cases hc : isSpecial c
  · simp only [isSpecial, Bool.or_eq_true, decide_eq_true_eq] at hc
    obtain (((rfl | rfl) | rfl) | rfl) | rfl := hc <;> rfl
  · have hplain : isSpecial c = false := by simpa using hc
    have hamp : c ≠ '&' := by
      intro h
      rw [h] at hplain
      exact absurd hplain (by decide)
    rw [entity_of_not_special hplain, List.singleton_append, unescapeChars]
    all_goals
      intro _ h
      exact absurd h hamp

/-! ## Whole texts -/

theorem plain_of_mem_escapeChars {s : List Char} (h : d ∈ escapeChars s) : d = '&' ∨ isSpecial d = false := by
  obtain ⟨_, _, hd⟩ := List.mem_flatMap.mp h
  exact plain_of_mem_entity hd

theorem unescapeChars_escapeChars (s : List Char) : unescapeChars (escapeChars s) = s := by
  induction s with
  | nil => rfl
  | cons c s ih =>
    rw [escapeChars, List.flatMap_cons, unescapeChars_entity_append]
    exact congrArg (c :: ·) ih

theorem toList_escape (s : String) : (escape s).toList = escapeChars s.toList := String.toList_ofList

theorem plain_of_mem_escape (h : d ∈ (escape s).toList) : d = '&' ∨ isSpecial d = false := by
  rw [toList_escape] at h
  exact plain_of_mem_escapeChars h

theorem unescape_escape (s : String) : unescape (escape s) = s := by
  rw [unescape, toList_escape, unescapeChars_escapeChars, String.ofList_toList]

theorem escape_eq_self (h : ∀ c ∈ s.toList, isSpecial c = false) : escape s = s := by
  have hchars : ∀ cs : List Char, (∀ c ∈ cs, isSpecial c = false) → escapeChars cs = cs := by
    intro cs hcs
    induction cs with
    | nil => rfl
    | cons c cs ih =>
      have hrest : escapeChars cs = cs := ih fun c hc => hcs c (List.mem_cons_of_mem _ hc)
      rw [escapeChars, List.flatMap_cons, entity_of_not_special (hcs c (List.mem_cons_self ..))]
      exact congrArg (c :: ·) hrest
  rw [escape, hchars s.toList h, String.ofList_toList]

end SequenceDiagram.Markup
