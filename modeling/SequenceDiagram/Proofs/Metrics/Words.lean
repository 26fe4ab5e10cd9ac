/-
  SequenceDiagram.Proofs.Metrics.Words — wrapping keeps the words.

  The words of a text are its runs of characters that are not blank: none is empty, none
  has a blank in it, and a blank anywhere cuts the text into two with words of their own
  (`words_append_blank`). A wrapped line is made of words with a space between each two,
  so cutting all lines into words again gives the words of the text, in order and each
  once (`words_wrap`, and as strings `textWords_wrap`), however wide the lines may be.
-/

import SequenceDiagram.Metrics.Wrap

namespace SequenceDiagram

namespace Text

variable {c : Char} {w s : List Char}

/-! ## Cutting at blanks -/

/-- A text with a character in it and no blank. -/
def IsWord (w : List Char) : Prop := w ≠ [] ∧ ∀ c ∈ w, isBlank c = false

theorem words_eq (s : List Char) : words s = consWord (cutWord s).1 (cutWord s).2 := rfl

theorem cutWord_cons (c : Char) (s : List Char) :
    cutWord (c :: s) = if isBlank c then ([], words s) else (c :: (cutWord s).1, (cutWord s).2) := rfl

theorem consWord_append (w : List Char) (us vs : List (List Char)) : consWord w (us ++ vs) = consWord w us ++ vs := by
  unfold consWord
  split
  · rfl
  · rw [List.cons_append]

theorem consWord_eq_filter (w : List Char) (pieces : List (List Char)) :
    consWord w (pieces.filter (!·.isEmpty)) = (w :: pieces).filter (!·.isEmpty) := by
  unfold consWord
  cases w with
  | nil => rfl
  | cons c w => rfl

theorem cutWord_append_blank (hc : isBlank c) (s t : List Char) :
    cutWord (s ++ c :: t) = ((cutWord s).1, (cutWord s).2 ++ words t) := by
  induction s with
  | nil =>
    rw [List.nil_append, cutWord_cons, if_pos hc]
    rfl
  | cons d s ih =>
    rw [List.cons_append, cutWord_cons, cutWord_cons]
    by_cases hd : isBlank d
    · rw [if_pos hd, if_pos hd]
      show ([], words (s ++ c :: t)) = ([], words s ++ words t)
      rw [words_eq (s ++ c :: t), ih, consWord_append, ← words_eq]
    · rw [if_neg hd, if_neg hd, ih]

theorem words_append_blank (hc : isBlank c) (s t : List Char) : words (s ++ c :: t) = words s ++ words t := by
  rw [words_eq (s ++ c :: t), cutWord_append_blank hc, consWord_append, ← words_eq]

theorem words_of_isWord (h : IsWord w) : words w = [w] := by
  have hcut : ∀ w : List Char, (∀ c ∈ w, isBlank c = false) → cutWord w = (w, []) := by
    intro w hw
    induction w with
    | nil => rfl
    | cons c w ih =>
      have hc : isBlank c = false := hw c (List.mem_cons_self ..)
      rw [cutWord_cons, hc, ih fun d hd => hw d (List.mem_cons_of_mem _ hd)]
      rfl
  rw [words_eq, hcut w h.2]
  obtain ⟨c, w', rfl⟩ := List.exists_cons_of_ne_nil h.1
  rfl

/-- What is cut off is a word, unless it is empty. -/
theorem isWord_of_mem_words : ∀ w ∈ words s, IsWord w := by
  have hcons : ∀ {v : List Char} {vs : List (List Char)}, (∀ c ∈ v, isBlank c = false) → (∀ u ∈ vs, IsWord u) →
      ∀ u ∈ consWord v vs, IsWord u := by
    intro v vs hv hvs u hu
    unfold consWord at hu
    split at hu
    · exact hvs u hu
    · rename_i hne
      obtain rfl | hu := List.mem_cons.mp hu
      · exact ⟨fun hnil => hne (by rw [hnil]; rfl), hv⟩
      · exact hvs u hu
  have hcut : (∀ c ∈ (cutWord s).1, isBlank c = false) ∧ ∀ u ∈ (cutWord s).2, IsWord u := by
    induction s with
    | nil => exact ⟨by simp [cutWord], by simp [cutWord]⟩
    | cons c s ih =>
      rw [cutWord_cons]
      by_cases hc : isBlank c
      · rw [if_pos hc]
        exact ⟨by simp, hcons ih.1 ih.2⟩
      · rw [if_neg hc]
        refine ⟨fun d hd => ?_, ih.2⟩
        obtain rfl | hd := List.mem_cons.mp hd
        · simpa using hc
        · exact ih.1 d hd
  exact hcons hcut.1 hcut.2

/-- The words are the pieces between blanks, less those that are empty. -/
theorem words_eq_splitOnP (s : List Char) : words s = (s.splitOnP isBlank).filter (!·.isEmpty) := by
  have hcut : ∀ s : List Char, ∃ pieces, s.splitOnP isBlank = (cutWord s).1 :: pieces ∧
      (cutWord s).2 = pieces.filter (!·.isEmpty) := by
    intro s
    induction s with
    | nil => exact ⟨[], rfl, rfl⟩
    | cons c s ih =>
      obtain ⟨pieces, hsplit, hwords⟩ := ih
      rw [List.splitOnP_cons_eq_if_modifyHead, cutWord_cons, hsplit]
      by_cases hc : isBlank c
      · rw [if_pos hc, if_pos hc]
        exact ⟨_, rfl, by rw [words_eq, hwords, consWord_eq_filter]⟩
      · rw [if_neg hc, if_neg hc]
        exact ⟨pieces, rfl, hwords⟩
  obtain ⟨pieces, hsplit, hwords⟩ := hcut s
  rw [words_eq, hsplit, hwords, consWord_eq_filter]

end Text

/-! ## Wrapped lines -/

namespace TextMetrics

open Text (words IsWord)

variable {α : Type} [Scalar α]

def textWords (text : String) : List String := (Text.words text.toList).map String.ofList

theorem isWord_of_mem_textWords {text word : String} (h : word ∈ textWords text) : IsWord word.toList := by
  obtain ⟨w, hw, rfl⟩ := List.mem_map.mp h
  rw [String.toList_ofList]
  exact Text.isWord_of_mem_words w hw

theorem textWords_of_isWord {word : String} (h : IsWord word.toList) : textWords word = [word] := by
  rw [textWords, Text.words_of_isWord h, List.map_singleton, String.ofList_toList]

theorem words_space_append (s t : String) : words (s ++ " " ++ t).toList = words s.toList ++ words t.toList := by
  have hchars : (s ++ " " ++ t).toList = s.toList ++ ' ' :: t.toList := by
    rw [String.toList_append, String.toList_append, List.append_assoc]
    rfl
  rw [hchars, Text.words_append_blank (by decide)]

theorem words_fill (m : TextMetrics α) (fontSize limit : α) (line : String) {ahead : List String}
    (h : ∀ word ∈ ahead, IsWord word.toList) :
    (m.fill fontSize limit line ahead).flatMap (words ·.toList) = words line.toList ++ ahead.map String.toList := by
  induction ahead generalizing line with
  | nil => simp [fill]
  | cons word ahead ih =>
    have hword : IsWord word.toList := h word (List.mem_cons_self ..)
    have hahead : ∀ w ∈ ahead, IsWord w.toList := fun w hw => h w (List.mem_cons_of_mem _ hw)
    rw [fill]
    split
    · rw [List.flatMap_cons, ih word hahead, Text.words_of_isWord hword]
      rfl
    · rw [ih _ hahead, words_space_append, Text.words_of_isWord hword, List.append_assoc]
      rfl

/-- The lines of a wrapped text have its words, in order. -/
theorem words_wrap (m : TextMetrics α) (text : String) (fontSize limit : α) :
    (m.wrap text fontSize limit).flatMap (words ·.toList) = words text.toList := by
  have hwords : ((words text.toList).map String.ofList).map String.toList = words text.toList := by
    simp [Function.comp_def]
  have hall : ∀ word ∈ (words text.toList).map String.ofList, IsWord word.toList :=
    fun _ => isWord_of_mem_textWords
  rw [wrap]
  split
  · next hnil => rw [← hwords, hnil]; rfl
  · next word ahead hcons =>
    rw [hcons] at hall hwords
    rw [words_fill m fontSize limit word fun w hw => hall w (List.mem_cons_of_mem _ hw),
      Text.words_of_isWord (hall word (List.mem_cons_self ..)), ← hwords]
    rfl

theorem textWords_wrap (m : TextMetrics α) (text : String) (fontSize limit : α) :
    (m.wrap text fontSize limit).flatMap textWords = textWords text := by
  rw [textWords, ← words_wrap m text fontSize limit, List.map_flatMap]
  rfl

end TextMetrics

end SequenceDiagram
