/-
  SequenceDiagram.Proofs.Metrics.Wrapping — where wrapped lines break, and what they keep.

  The lines of a wrapped text are groups of its words with single spaces between, cut in
  two places only: a line ends before a word that would make it wider than the limit, and
  takes any other (`Filled`). That leaves one way to group the words, whatever the measure
  does, and it is the one that wrapping takes (`wrap_eq_of_filled`): nothing is asked of
  widths, not that a longer text is wider, and not that they are numbers.

  So the words of a text decide its lines. The lines with spaces between have the same
  words, and wrapping them gives them again; a line by itself takes all its words, as it
  did when there were others behind it (`wrap_keeps_words`).
-/

import Mathlib.Data.List.Chain
import SequenceDiagram.Proofs.Metrics.Words
import SequenceDiagram.Proofs.Numeric.Binary64

namespace SequenceDiagram.TextMetrics

/-! ## Words with spaces between -/

theorem textWords_space_append (s t : String) : textWords (s ++ " " ++ t) = textWords s ++ textWords t := by
  rw [textWords, words_space_append, List.map_append]
  rfl

theorem textWords_intercalate (ls : List String) : textWords (" ".intercalate ls) = ls.flatMap textWords := by
  induction ls with
  | nil => rfl
  | cons l ls ih =>
    rcases List.eq_nil_or_concat ls with rfl | ⟨_, _, hls⟩
    · rw [String.intercalate_singleton, List.flatMap_singleton]
    · have hne : ls ≠ [] := by simp [hls]
      rw [String.intercalate_cons_of_ne_nil hne, textWords_space_append, ih, List.flatMap_cons]

/-- Words put on a line are the words of that line. -/
theorem textWords_line {g : List String} (h : ∀ word ∈ g, Text.IsWord word.toList) :
    textWords (" ".intercalate g) = g := by
  rw [textWords_intercalate]
  induction g with
  | nil => rfl
  | cons word g ih =>
    have hg : ∀ w ∈ g, Text.IsWord w.toList := fun w hw => h w (List.mem_cons_of_mem _ hw)
    rw [List.flatMap_cons, textWords_of_isWord (h word List.mem_cons_self), ih hg]
    rfl

theorem intercalate_concat {g : List String} (hg : g ≠ []) (word : String) :
    " ".intercalate (g ++ [word]) = " ".intercalate g ++ " " ++ word := by
  rw [String.intercalate_append_of_ne_nil hg (List.cons_ne_nil word []), String.intercalate_singleton]

/-! ## Groups of words, one for each line -/

variable {α : Type} [Scalar α] {m : TextMetrics α} {font limit : α} {word : String} {g ws : List String}
  {groups : List (List String)}

/-- The line of some words is wider than the limit with one word more. -/
def Overfull (m : TextMetrics α) (font limit : α) (g : List String) (word : String) : Prop :=
  limit < (m.measure (" ".intercalate g ++ " " ++ word) font).width

instance : Decidable (Overfull m font limit g word) := Scalar.decLt ..

/-- The groups of the words ahead when `g` is on the line so far. -/
def gather (m : TextMetrics α) (font limit : α) (g : List String) : List String → List (List String)
  | [] => [g]
  | word :: ws =>
    if Overfull m font limit g word then g :: m.gather font limit [word] ws
    else m.gather font limit (g ++ [word]) ws

theorem gather_of_overfull (h : Overfull m font limit g word) (ws : List String) :
    m.gather font limit g (word :: ws) = g :: m.gather font limit [word] ws := if_pos h

theorem gather_of_not_overfull (h : ¬ Overfull m font limit g word) (ws : List String) :
    m.gather font limit g (word :: ws) = m.gather font limit (g ++ [word]) ws := if_neg h

theorem fill_eq (hg : g ≠ []) (ws : List String) :
    m.fill font limit (" ".intercalate g) ws = (m.gather font limit g ws).map (" ".intercalate ·) := by
  induction ws generalizing g with
  | nil => rfl
  | cons word ws ih =>
    by_cases h : Overfull m font limit g word
    · have hfill : m.fill font limit (" ".intercalate g) (word :: ws) =
          " ".intercalate g :: m.fill font limit (" ".intercalate [word]) ws := if_pos h
      rw [hfill, gather_of_overfull h, ih (List.cons_ne_nil word [])]
      rfl
    · have hfill : m.fill font limit (" ".intercalate g) (word :: ws) =
          m.fill font limit (" ".intercalate g ++ " " ++ word) ws := if_neg h
      rw [hfill, gather_of_not_overfull h, ← intercalate_concat hg, ih (by simp)]

theorem flatten_gather (m : TextMetrics α) (font limit : α) (g ws : List String) :
    (m.gather font limit g ws).flatten = g ++ ws := by
  induction ws generalizing g with
  | nil => simp [gather]
  | cons word ws ih =>
    rw [gather]
    split
    · rw [List.flatten_cons, ih]
      rfl
    · rw [ih, List.append_assoc]
      rfl

/-- The first group goes on with what is on the line. -/
theorem head_gather (m : TextMetrics α) (font limit : α) (g ws : List String) :
    ∃ more rest, m.gather font limit g ws = (g ++ more) :: rest := by
  induction ws generalizing g with
  | nil => exact ⟨[], [], by simp [gather]⟩
  | cons word ws ih =>
    rw [gather]
    split
    · exact ⟨[], _, by rw [List.append_nil]⟩
    · obtain ⟨more, rest, h⟩ := ih (g ++ [word])
      exact ⟨word :: more, rest, by rw [h, List.append_assoc]; rfl⟩

/-! ## Lines that take what they can -/

/-- Every word of a group but its first found room behind those before it. -/
def Taken (m : TextMetrics α) (font limit : α) (g : List String) : Prop :=
  ∀ front word, front ≠ [] → front ++ [word] <+: g → ¬ Overfull m font limit front word

/-- Groups of words as lines that take a word when they can, and only then. -/
structure Filled (m : TextMetrics α) (font limit : α) (groups : List (List String)) : Prop where
  nonempty : ∀ g ∈ groups, g ≠ []
  taken : ∀ g ∈ groups, Taken m font limit g
  forced : groups.IsChain fun g next => ∀ word ∈ next.head?, Overfull m font limit g word

theorem taken_singleton (m : TextMetrics α) (font limit : α) (word : String) : Taken m font limit [word] := by
  intro front last hfront hle
  have hlength := hle.length_le
  rw [List.length_append, List.length_singleton, List.length_singleton] at hlength
  exact absurd (List.length_eq_zero_iff.mp (by omega)) hfront

theorem Taken.concat (h : Taken m font limit g) (hword : ¬ Overfull m font limit g word) :
    Taken m font limit (g ++ [word]) := by
  intro front last hfront hle
  rcases List.prefix_concat_iff.mp hle with heq | hle
  · obtain ⟨rfl, hlast⟩ := List.append_inj' heq rfl
    obtain rfl : last = word := by simpa using hlast
    exact hword
  · exact h front last hfront hle

theorem Filled.single (hg : g ≠ []) (h : Taken m font limit g) : Filled m font limit [g] :=
  ⟨by simpa using hg, by simpa using h, .singleton g⟩

theorem filled_gather (hg : g ≠ []) (h : Taken m font limit g) (ws : List String) :
    Filled m font limit (m.gather font limit g ws) := by
  induction ws generalizing g with
  | nil => exact .single hg h
  | cons word ws ih =>
    by_cases hover : Overfull m font limit g word
    · obtain ⟨hnonempty, htaken, hforced⟩ := ih (List.cons_ne_nil word []) (taken_singleton m font limit word)
      obtain ⟨more, rest, hhead⟩ := head_gather m font limit [word] ws
      rw [gather_of_overfull hover]
      refine ⟨List.forall_mem_cons.mpr ⟨hg, hnonempty⟩, List.forall_mem_cons.mpr ⟨h, htaken⟩, ?_⟩
      rw [hhead] at hforced ⊢
      refine hforced.cons_cons fun next hnext => ?_
      obtain rfl : word = next := by simpa using hnext
      exact hover
    · rw [gather_of_not_overfull hover]
      exact ih (List.append_ne_nil_of_left_ne_nil hg [word]) (h.concat hover)

/-- A line on which the words ahead find room takes them. -/
theorem gather_append (hg : g ≠ []) {vs : List String} (h : Taken m font limit (g ++ vs)) (ws : List String) :
    m.gather font limit g (vs ++ ws) = m.gather font limit (g ++ vs) ws := by
  induction vs generalizing g with
  | nil => rw [List.append_nil, List.nil_append]
  | cons word vs ih =>
    rw [List.append_cons] at h ⊢
    have hroom : ¬ Overfull m font limit g word := h g word hg (List.prefix_append _ vs)
    rw [List.cons_append, gather_of_not_overfull hroom]
    exact ih (List.append_ne_nil_of_left_ne_nil hg [word]) h

/-- There is one way to fill lines. -/
theorem gather_eq_of_filled (h : Filled m font limit groups) (hwords : groups.flatten = word :: ws) :
    m.gather font limit [word] ws = groups := by
  induction groups generalizing word ws with
  | nil => cases hwords
  | cons g rest ih =>
    obtain ⟨hnonempty, htaken, hforced⟩ := h
    obtain ⟨hg, hnonempties⟩ := List.forall_mem_cons.mp hnonempty
    obtain ⟨hfirst, htakens⟩ := List.forall_mem_cons.mp htaken
    obtain ⟨first, vs, rfl⟩ := List.exists_cons_of_ne_nil hg
    rw [List.flatten_cons, List.cons_append, List.cons.injEq] at hwords
    obtain ⟨rfl, rfl⟩ := hwords
    -- all words of the first group find room on its line, and the one after them does not
    rw [gather_append (List.cons_ne_nil first []) hfirst]
    cases rest with
    | nil => rfl
    | cons next rest =>
      rw [List.isChain_cons_cons] at hforced
      obtain ⟨second, us, rfl⟩ := List.exists_cons_of_ne_nil (hnonempties next List.mem_cons_self)
      have hover : Overfull m font limit (first :: vs) second := hforced.1 second rfl
      have hrest := ih ⟨hnonempties, htakens, hforced.2⟩ (List.flatten_cons ..)
      rw [List.flatten_cons, List.cons_append]
      exact (gather_of_overfull hover _).trans (congrArg _ hrest)

/-- A line of two words or more is not wider than the limit. -/
theorem Filled.fits (h : Filled m font limit groups) (hg : g ∈ groups) (hlength : 2 ≤ g.length) :
    ¬ limit < (m.measure (" ".intercalate g) font).width := by
  rcases List.eq_nil_or_concat g with rfl | ⟨front, word, rfl⟩
  · exact absurd hlength (by simp)
  · have hfront : front ≠ [] := by
      rintro rfl
      simp at hlength
    rw [List.concat_eq_append] at hg ⊢
    rw [intercalate_concat hfront]
    exact h.taken _ hg front word hfront (List.prefix_refl _)

/-! ## Wrapping fills lines -/

theorem exists_filled (m : TextMetrics α) (font limit : α) (ws : List String) :
    ∃ groups, Filled m font limit groups ∧ groups.flatten = ws := by
  cases ws with
  | nil => exact ⟨[], ⟨by simp, by simp, .nil⟩, rfl⟩
  | cons word ws =>
    have hword := taken_singleton m font limit word
    exact ⟨_, filled_gather (List.cons_ne_nil word []) hword ws, flatten_gather m font limit [word] ws⟩

theorem Filled.eq_nil (h : Filled m font limit groups) (hwords : groups.flatten = []) : groups = [] :=
  List.eq_nil_iff_forall_not_mem.mpr fun g hg => h.nonempty g hg (List.flatten_eq_nil_iff.mp hwords g hg)

theorem fill_eq_of_filled (h : Filled m font limit groups) (hwords : groups.flatten = word :: ws) :
    m.fill font limit word ws = groups.map (" ".intercalate ·) := by
  have hfill : m.fill font limit (" ".intercalate [word]) ws =
      (m.gather font limit [word] ws).map (" ".intercalate ·) := fill_eq (List.cons_ne_nil word []) ws
  rwa [String.intercalate_singleton, gather_eq_of_filled h hwords] at hfill

theorem wrap_eq_of_filled {text : String} (h : Filled m font limit groups) (hwords : groups.flatten = textWords text) :
    m.wrap text font limit = groups.map (" ".intercalate ·) := by
  unfold wrap
  split
  · next hnil =>
    rw [textWords, hnil] at hwords
    rw [h.eq_nil hwords]
    rfl
  · next word ws hcons =>
    rw [textWords, hcons] at hwords
    exact fill_eq_of_filled h hwords

/-- The lines of a wrapped text: groups of its words with single spaces between. -/
structure Wrapped (m : TextMetrics Float) (font limit : Float) (text : String) (groups : List (List String)) : Prop where
  lines : m.wrap text font limit = groups.map (" ".intercalate ·)
  /-- Together they have the words of the text, its runs of characters that are not blank. -/
  words : groups.flatten = ((text.toList.splitOnP Text.isBlank).filter (!·.isEmpty)).map String.ofList
  nonempty : ∀ line ∈ m.wrap text font limit, line ≠ ""
  /-- A group is never empty, and its line has its words and no others. -/
  cut : ∀ g ∈ groups, g ≠ [] ∧ textWords (" ".intercalate g) = g
  /-- No line of two words or more is wider than the limit. -/
  fits : ∀ g ∈ groups, 2 ≤ g.length → ¬ limit < (m.measure (" ".intercalate g) font).width
  /-- It measures at most the limit then, unless one of the two is no number. -/
  atMost : ∀ g ∈ groups, 2 ≤ g.length → Scalar.isNumber limit →
    Scalar.isNumber (m.measure (" ".intercalate g) font).width → (m.measure (" ".intercalate g) font).width ≤ limit
  /-- A line ends where the word that begins the next one would make it wider than the limit. -/
  forced : ∀ i g word next, groups[i]? = some g → groups[i + 1]? = some (word :: next) →
    limit < (m.measure (" ".intercalate g ++ " " ++ word) font).width
  again : m.wrap (" ".intercalate (m.wrap text font limit)) font limit = m.wrap text font limit
  alone : ∀ line ∈ m.wrap text font limit, m.wrap line font limit = [line]

/-- Wrapping keeps all words, and breaks lines only where the limit makes it. -/
theorem wrap_keeps_words (m : TextMetrics Float) (font limit : Float) (text : String) :
    ∃ groups, Wrapped m font limit text groups := by
  obtain ⟨groups, hfilled, hwords⟩ := exists_filled m font limit (textWords text)
  have hlines := wrap_eq_of_filled hfilled hwords
  have hcut : ∀ g ∈ groups, textWords (" ".intercalate g) = g := by
    intro g hg
    apply textWords_line
    intro word hword
    have hmem : word ∈ textWords text := hwords ▸ List.mem_flatten_of_mem hg hword
    exact isWord_of_mem_textWords hmem
  refine ⟨groups, ?_⟩
  constructor
  case lines => exact hlines
  case words => rw [hwords, textWords, Text.words_eq_splitOnP]
  case cut => exact fun g hg => ⟨hfilled.nonempty g hg, hcut g hg⟩
  case fits => exact fun g hg => hfilled.fits hg
  case atMost =>
    exact fun g hg hlength hlimit hwidth => Scalar.le_of_not_lt_binary64 hlimit hwidth (hfilled.fits hg hlength)
  case nonempty =>
    rw [hlines, List.forall_mem_map]
    intro g hg hempty
    have hg' := hcut g hg
    rw [hempty] at hg'
    exact hfilled.nonempty g hg hg'.symm
  case forced =>
    intro i g word next hi hnext
    obtain ⟨hlt, hnext⟩ := List.getElem?_eq_some_iff.mp hnext
    obtain ⟨_, rfl⟩ := List.getElem?_eq_some_iff.mp hi
    exact List.isChain_iff_getElem.mp hfilled.forced i hlt word (by rw [hnext]; rfl)
  case again =>
    have hagain : textWords (" ".intercalate (m.wrap text font limit)) = textWords text := by
      rw [textWords_intercalate, textWords_wrap]
    rw [wrap_eq_of_filled hfilled (hwords.trans hagain.symm), hlines]
  case alone =>
    rw [hlines, List.forall_mem_map]
    intro g hg
    have hsingle := Filled.single (hfilled.nonempty g hg) (hfilled.taken g hg)
    exact wrap_eq_of_filled hsingle (by rw [List.flatten_singleton, hcut g hg])

end SequenceDiagram.TextMetrics
