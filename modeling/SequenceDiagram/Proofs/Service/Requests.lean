/-
  SequenceDiagram.Proofs.Service.Requests — what a request says.

  A length is declared by the first header that gives one, if that is a whole number of
  whatever size (`DeclaresLength`). The standard framework reads the numbers that fit 64
  bits (`Call.declared_eq_some_iff`). A body is a document when it is the encoding of one.
-/

import SequenceDiagram.Service.Router

namespace SequenceDiagram

/-! ## Numbers -/

/-- Decimal digits, at least one, that make `n`, with or without a plus sign before them. -/
def IsNumber (s : List Char) (n : Nat) : Prop :=
  ∃ ds, ds ≠ [] ∧ (∀ c ∈ ds, c.isDigit) ∧ Nat.ofDigitChars 10 ds 0 = n ∧ (s = ds ∨ s = '+' :: ds)

theorem foldl_digits (s : List Char) :
    s.foldl (fun n c => n * 10 + (c.toNat - '0'.toNat)) 0 = Nat.ofDigitChars 10 s 0 := by
  simp only [Nat.ofDigitChars_eq_foldl, Nat.mul_comm 10]

theorem decimal?_eq_some_iff {s : List Char} {n : Nat} :
    decimal? s = some n ↔ s ≠ [] ∧ (∀ c ∈ s, c.isDigit) ∧ Nat.ofDigitChars 10 s 0 = n := by
  unfold decimal?
  rw [foldl_digits]
  have hrefused : s.isEmpty = true ∨ (!s.all Char.isDigit) = true ↔ ¬ (s ≠ [] ∧ ∀ c ∈ s, c.isDigit) := by
    grind
  by_cases h : s ≠ [] ∧ ∀ c ∈ s, c.isDigit
  · rw [if_neg fun hr => hrefused.mp hr h, Option.some.injEq]
    exact ⟨fun hn => ⟨h.1, h.2, hn⟩, fun hn => hn.2.2⟩
  · rw [if_pos (hrefused.mpr h)]
    exact ⟨nofun, fun hn => absurd ⟨hn.1, hn.2.1⟩ h⟩

theorem isNumber_plus_iff {s : List Char} {n : Nat} : IsNumber ('+' :: s) n ↔ decimal? s = some n := by
  rw [decimal?_eq_some_iff]
  constructor
  · intro h
    obtain ⟨ds, hne, hdigits, hn, rfl | hs⟩ := h
    · exact absurd (hdigits '+' List.mem_cons_self) (by decide)
    · obtain rfl := List.tail_eq_of_cons_eq hs
      exact ⟨hne, hdigits, hn⟩
  · intro h
    exact ⟨s, h.1, h.2.1, h.2.2, .inr rfl⟩

theorem isNumber_iff {s : List Char} {n : Nat} (hplus : ∀ r, s ≠ '+' :: r) : IsNumber s n ↔ decimal? s = some n := by
  rw [decimal?_eq_some_iff]
  constructor
  · intro h
    obtain ⟨ds, hne, hdigits, hn, rfl | hs⟩ := h
    · exact ⟨hne, hdigits, hn⟩
    · exact absurd hs (hplus ds)
  · intro h
    exact ⟨s, h.1, h.2.1, h.2.2, .inl rfl⟩

theorem word?_eq_some_iff {bits n : Nat} {s : List Char} :
    word? bits s = some n ↔ IsNumber s n ∧ n < Nat.pow 2 bits := by
  have hfits (o : Option Nat) :
      (o.bind fun n => if n < Nat.pow 2 bits then some n else none) = some n ↔ o = some n ∧ n < Nat.pow 2 bits := by
    cases o with
    | none => simp
    | some k =>
      rw [Option.bind_some]
      split <;> grind
  unfold word?
  refine (hfits _).trans (and_congr_left fun _ => ?_)
  split
  · exact isNumber_plus_iff.symm
  · rename_i hplus
    exact (isNumber_iff hplus).symm

/-! ## Requests -/

namespace Service

variable {ι : Type} {headers : List (String × String)} {n : Nat}

/-- The first length that the headers give is the number `n`. -/
def DeclaresLength (headers : List (String × String)) (n : Nat) : Prop :=
  ∃ value, headers.lookup "content-length" = some value ∧ IsNumber value.toList n

theorem Call.declared_eq_some_iff :
    Call.declared headers = some n ↔ DeclaresLength headers n ∧ n < Nat.pow 2 64 := by
  simp only [Call.declared, Option.bind_eq_bind, Option.bind_eq_some_iff, word?_eq_some_iff, DeclaresLength]
  exact ⟨fun ⟨value, hvalue, hn, hfits⟩ => ⟨⟨value, hvalue, hn⟩, hfits⟩,
    fun ⟨⟨value, hvalue, hn⟩, hfits⟩ => ⟨value, hvalue, hn, hfits⟩⟩

namespace Request

def Declares (r : Request) (n : Nat) : Prop := DeclaresLength r.headers n

/-- The request without a length. -/
def undeclared (r : Request) : Request := { r with headers := r.headers.filter (·.1 ≠ "content-length") }

theorem not_declares_undeclared (r : Request) (n : Nat) : ¬ r.undeclared.Declares n := by
  have hlookup : (r.headers.filter (·.1 ≠ "content-length")).lookup "content-length" = none := by
    simp only [List.lookup_eq_none_iff, List.mem_filter, decide_eq_true_eq, bne_iff_ne]
    exact fun header hheader => hheader.2.symm
  intro h
  obtain ⟨value, hvalue, -⟩ := h
  rw [undeclared, hlookup] at hvalue
  cases hvalue

end Request

theorem fromUTF8?_eq_some_iff {bytes : ByteArray} {text : String} :
    String.fromUTF8? bytes = some text ↔ text.toUTF8 = bytes := by
  unfold String.fromUTF8?
  constructor
  · intro h
    split at h
    · cases h
      rfl
    · cases h
  · rintro rfl
    exact dif_pos text.isValidUTF8

/-! ## Paths -/

def sequencePaths : List String := ["/api/v1/sequence", "/api/v1/sequence/"]

namespace Framework

variable (fw : Framework ι) (r : Request)

/-- The request is for a picture. -/
def ForSequence : Prop := fw.pathOf r.target ∈ sequencePaths

/-- The request asks whether the service is up. -/
def ForHealth : Prop := fw.pathOf r.target = "/healthz"

instance : Decidable (fw.ForSequence r) := inferInstanceAs (Decidable (_ ∈ _))

instance : Decidable (fw.ForHealth r) := inferInstanceAs (Decidable (_ = _))

end Framework

end Service

end SequenceDiagram
