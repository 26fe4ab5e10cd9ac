/-
  SequenceDiagram.Proofs.Markup.Coding — escaping is a code.

  Escaping can be done in one pass over a text, or in five, each replacing one character
  everywhere. Every pass reads what those before it have written, and all that they write
  is ampersands and characters that no pass looks for. So with the ampersand first no pass
  touches an entity (`replaceChar_flatMap_written`), and the five make what one pass makes
  (`toList_replacedInTurn`).

  In an escaped text an ampersand stands at the beginning of an entity and nowhere else
  (`entity_at_ampersand`). Entities are read from left to right, and what has been read is
  not read again. So every text comes back from its escaped form, one with entities in it
  too, and no two texts have the same (`escape_codes`).
-/

import SequenceDiagram.Proofs.Markup.Escaping
import SequenceDiagram.Proofs.Text.Replacing

namespace SequenceDiagram.Markup

/-! ## Five passes and one -/

/-- What stands for a character when some of the five have been replaced. -/
def writtenAmong (done : List Char) (c : Char) : List Char := if c ∈ done then entity c else [c]

/-- A pass after the ampersand's leaves entities alone. -/
theorem replaceChar_entity {c : Char} (hc : isSpecial c) (hamp : c ≠ '&') (d : Char) :
    replaceChar c (entity c) (entity d) = entity d := by
  have hkept : ∀ e ∈ entity d, (if e = c then entity c else [e]) = [e] := by
    intro e he
    rcases plain_of_mem_entity he with rfl | hplain
    · exact if_neg (Ne.symm hamp)
    · refine if_neg fun heq => ?_
      rw [heq, hc] at hplain
      cases hplain
  rw [replaceChar, List.flatMap_congr hkept, List.flatMap_singleton']

theorem replaceChar_flatMap_written {c : Char} (hc : isSpecial c) (hamp : c ≠ '&') (done s : List Char) :
    replaceChar c (entity c) (s.flatMap (writtenAmong done)) = s.flatMap (writtenAmong (c :: done)) := by
  rw [replaceChar, List.flatMap_assoc]
  refine List.flatMap_congr fun d _ => ?_
  show replaceChar c (entity c) (writtenAmong done d) = writtenAmong (c :: done) d
  unfold writtenAmong
  by_cases hdone : d ∈ done
  · rw [if_pos hdone, if_pos (List.mem_cons_of_mem c hdone), replaceChar_entity hc hamp]
  · rw [if_neg hdone]
    by_cases hd : d = c <;> simp [replaceChar, hd, hdone]

/-- Passes in any order, after that of the ampersand. -/
theorem foldl_replaceChar {cs : List Char} (h : ∀ c ∈ cs, isSpecial c ∧ c ≠ '&') (done s : List Char) :
    cs.foldl (fun s c => replaceChar c (entity c) s) (s.flatMap (writtenAmong done)) =
      s.flatMap (writtenAmong (cs.reverse ++ done)) := by
  induction cs generalizing done with
  | nil => rfl
  | cons c cs ih =>
    obtain ⟨⟨hc, hamp⟩, hcs⟩ := List.forall_mem_cons.mp h
    rw [List.foldl_cons, replaceChar_flatMap_written hc hamp, ih hcs, List.reverse_cons, List.append_assoc]
    rfl

theorem writtenAmong_special : writtenAmong ['\'', '"', '>', '<', '&'] = entity := by
  funext c
  unfold writtenAmong
  split
  · rfl
  · rename_i hc
    have hplain : isSpecial c = false := by
      simp only [List.mem_cons, List.not_mem_nil, or_false, not_or] at hc
      simp [isSpecial, hc]
    rw [entity_of_not_special hplain]

theorem escapeInTurn_eq (s : List Char) : escapeInTurn s = escapeChars s := by
  have hfirst : replaceChar '&' (entity '&') s = s.flatMap (writtenAmong ['&']) := by
    refine List.flatMap_congr fun d _ => ?_
    by_cases hd : d = '&' <;> simp [writtenAmong, hd]
  have hothers : ∀ c ∈ ['<', '>', '"', '\''], isSpecial c ∧ c ≠ '&' := by simp [isSpecial]
  rw [escapeInTurn, List.foldl_cons, hfirst, foldl_replaceChar hothers, escapeChars, ← writtenAmong_special]
  rfl

/-- The five characters replaced one after the other. -/
def replacedInTurn (s : String) : String :=
  ((((s.replace '&' "&amp;").replace '<' "&lt;").replace '>' "&gt;").replace '"' "&quot;").replace '\'' "&apos;"

theorem toList_replace_entity (s : String) {c : Char} {name : String} (h : name.toList = entity c) :
    (s.replace c name).toList = replaceChar c (entity c) s.toList := by
  rw [Text.toList_replace, replaceChar, ← h]
  rfl

theorem toList_replacedInTurn (s : String) : (replacedInTurn s).toList = escapeChars s.toList := by
  rw [← escapeInTurn_eq, replacedInTurn, toList_replace_entity _ (by decide), toList_replace_entity _ (by decide),
    toList_replace_entity _ (by decide), toList_replace_entity _ (by decide), toList_replace_entity _ (by decide)]
  simp only [escapeInTurn, List.foldl_cons, List.foldl_nil]

/-! ## Ampersands -/

def entities : List String := ["&amp;", "&lt;", "&gt;", "&quot;", "&apos;"]

/-- An ampersand in what is written for a character begins it, and it is an entity. -/
theorem entity_of_ampersand {c : Char} (h : '&' ∈ entity c) :
    ∃ e ∈ entities, entity c = e.toList ∧ '&' ∉ (entity c).tail := by
  by_cases hc : isSpecial c
  · simp only [isSpecial, Bool.or_eq_true, decide_eq_true_eq] at hc
    obtain (((rfl | rfl) | rfl) | rfl) | rfl := hc <;> decide
  · have hplain : isSpecial c = false := by simpa using hc
    rw [entity_of_not_special hplain, List.mem_singleton] at h
    rw [← h] at hplain
    exact absurd hplain (by decide)

/-- Where an ampersand stands in an escaped text, an entity begins. -/
theorem entity_at_ampersand {s before behind : List Char} (h : escapeChars s = before ++ '&' :: behind) :
    ∃ e ∈ entities, e.toList <+: '&' :: behind := by
  induction s generalizing before with
  | nil => cases before <;> cases h
  | cons c s ih =>
    rw [escapeChars, List.flatMap_cons] at h
    rcases List.append_eq_append_iff.mp h with ⟨more, hbefore, hrest⟩ | ⟨more, hentity, hbehind⟩
    · exact ih hrest
    · cases more with
      | nil =>
        have hnext : escapeChars s = [] ++ '&' :: behind := hbehind.symm
        exact ih hnext
      | cons d more =>
        -- the ampersand is written for the first character, so nothing stands before it
        obtain ⟨rfl, rfl⟩ := List.cons.inj hbehind
        obtain ⟨e, he, heq, hlast⟩ := entity_of_ampersand (hentity ▸ List.mem_append_right before List.mem_cons_self)
        cases before with
        | nil => exact ⟨e, he, by rw [← heq, hentity]; exact List.prefix_append ('&' :: more) _⟩
        | cons b before =>
          rw [hentity] at hlast
          exact absurd (List.mem_append_right before List.mem_cons_self) hlast

/-! ## A code for texts -/

/-- What escaping makes of a text, and that it can be undone. -/
structure Coded (s : String) : Prop where
  onePass : (escape s).toList = s.toList.flatMap entity
  inTurn : replacedInTurn s = escape s
  plain : ∀ c ∈ (escape s).toList, c ≠ '<' ∧ c ≠ '>' ∧ c ≠ '"' ∧ c ≠ '\''
  ampersand : ∀ before behind, (escape s).toList = before ++ '&' :: behind → ∃ e ∈ entities, e.toList <+: '&' :: behind
  readBack : unescape (escape s) = s

/-- Every text has its own escaped form, which is that of its parts one after the other. -/
theorem escape_codes :
    (∀ s, Coded s) ∧ (∀ s t, escape (s ++ t) = escape s ++ escape t) ∧ Function.Injective escape := by
  refine ⟨fun s => ?_, fun s t => ?_, fun s t h => ?_⟩
  · constructor
    case onePass => exact toList_escape s
    case inTurn => rw [← String.toList_inj, toList_replacedInTurn, toList_escape]
    case plain =>
      intro c hc
      refine ⟨?_, ?_, ?_, ?_⟩ <;>
        · rintro rfl
          rcases plain_of_mem_escape hc with hamp | hplain
          · exact absurd hamp (by decide)
          · exact absurd hplain (by decide)
    case ampersand =>
      intro before behind h
      rw [toList_escape] at h
      exact entity_at_ampersand h
    case readBack => exact unescape_escape s
  · rw [← String.toList_inj, String.toList_append]
    simp only [toList_escape, String.toList_append]
    exact List.flatMap_append
  · rw [← unescape_escape s, h, unescape_escape]

/-- What looks like an entity is escaped once more, and read back once. -/
example : escape "&amp;lt; <b>" = "&amp;amp;lt; &lt;b&gt;" ∧ unescape "&amp;amp;lt; &lt;b&gt;" = "&amp;lt; <b>" := by
  decide

end SequenceDiagram.Markup
