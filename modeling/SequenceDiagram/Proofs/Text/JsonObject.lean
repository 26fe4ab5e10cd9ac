/-
  SequenceDiagram.Proofs.Text.JsonObject — JSON read back.

  A string literal is read from behind its first quote to the next quote that no backslash
  stands before (`literal?`). A backslash takes one character with it, or `u` and four
  hexadecimal digits; controls below the space may not stand as they are. Codes of
  surrogates name no character and are refused. An object with one member is two literals
  with a colon between them and braces around, no blanks among these and nothing after
  them (`member?`).

  Reading gives back what was written, whatever characters that are (`literal?_jsonChars`),
  and an object of two literals is read to its name and its value (`member?_object`).
-/

import SequenceDiagram.Service.Address
import SequenceDiagram.Text.JsonString

namespace SequenceDiagram.Text

/-- What a character behind a backslash stands for. -/
def shortEscape? : Char → Option Char
  | '"' => some '"'
  | '\\' => some '\\'
  | '/' => some '/'
  | 'b' => some '\x08'
  | 'f' => some '\x0c'
  | 'n' => some '\n'
  | 'r' => some '\r'
  | 't' => some '\t'
  | _ => none

/-- The character with a code of four hexadecimal digits. -/
def codeEscape? (a b c d : Char) : Option Char := do
  let code := (← Address.hexValue? a) * 4096 + (← Address.hexValue? b) * 256 + (← Address.hexValue? c) * 16 +
    (← Address.hexValue? d)
  if code.isValidChar then some (Char.ofNat code) else none

/-- A literal behind its first quote: what it stands for, and what comes after its last quote. -/
def literal? : List Char → Option (List Char × List Char)
  | [] => none
  | x :: r =>
    if x = '"' then some ([], r)
    else if x = '\\' then
      match r with
      | 'u' :: a :: b :: c :: d :: r => do
        let x ← codeEscape? a b c d
        (literal? r).map fun (s, t) => (x :: s, t)
      | e :: r => do
        let x ← shortEscape? e
        (literal? r).map fun (s, t) => (x :: s, t)
      | [] => none
    else if x.toNat < 0x20 then none
    else (literal? r).map fun (s, t) => (x :: s, t)

/-- Name and value of an object of one member. -/
def member? (text : String) : Option (String × String) :=
  match text.toList with
  | '\x7b' :: '"' :: r => do
    let (name, r) ← literal? r
    match r with
    | ':' :: '"' :: r =>
      let (value, r) ← literal? r
      if r = ['\x7d'] then some (String.ofList name, String.ofList value) else none
    | _ => none
  | _ => none

/-! ## What was written -/

/-- The code of a control as it is written. -/
def controlDigits (n : Nat) : List Char := ['0', '0', (n / 16).digitChar, (n % 16).digitChar]

theorem hexCode_control : ∀ n < 0x20,
    List.replicate (4 - (hexCode (Char.ofNat n)).length) '0' ++ hexCode (Char.ofNat n) = controlDigits n := by decide

theorem codeEscape?_control : ∀ n < 0x20,
    codeEscape? '0' '0' (n / 16).digitChar (n % 16).digitChar = some (Char.ofNat n) := by decide

/-- A character as it is written is read back, and the rest after it. -/
theorem literal?_jsonChar (x : Char) (r : List Char) :
    literal? (jsonChar x ++ r) = (literal? r).map fun (s, t) => (x :: s, t) := by
  unfold jsonChar
  by_cases hquote : x = '"'
  · rw [if_pos hquote, hquote]
    rfl
  rw [if_neg hquote]
  by_cases hback : x = '\\'
  · rw [if_pos hback, hback]
    rfl
  rw [if_neg hback]
  by_cases hbell : x = '\x08'
  · rw [if_pos hbell, hbell]
    rfl
  rw [if_neg hbell]
  by_cases hfeed : x = '\x0c'
  · rw [if_pos hfeed, hfeed]
    rfl
  rw [if_neg hfeed]
  by_cases hline : x = '\n'
  · rw [if_pos hline, hline]
    rfl
  rw [if_neg hline]
  by_cases hreturn : x = '\r'
  · rw [if_pos hreturn, hreturn]
    rfl
  rw [if_neg hreturn]
  by_cases htab : x = '\t'
  · rw [if_pos htab, htab]
    rfl
  rw [if_neg htab]
  by_cases hcontrol : x.toNat < 0x20
  · have hdigits := hexCode_control x.toNat hcontrol
    have hcode := codeEscape?_control x.toNat hcontrol
    rw [Char.ofNat_toNat] at hdigits hcode
    rw [if_pos hcontrol, List.append_assoc "\\u".toList, hdigits]
    show (codeEscape? '0' '0' _ _).bind _ = _
    rw [hcode]
    rfl
  · rw [if_neg hcontrol, List.singleton_append, literal?.eq_def]
    simp only [if_neg hquote, if_neg hback, if_neg hcontrol]

theorem literal?_jsonChars (s r : List Char) : literal? (s.flatMap jsonChar ++ '"' :: r) = some (s, r) := by
  induction s with
  | nil =>
    rw [List.flatMap_nil, List.nil_append, literal?.eq_def]
    exact if_pos rfl
  | cons x s ih => rw [List.flatMap_cons, List.append_assoc, literal?_jsonChar, ih, Option.map_some]

/-- A text is a literal for a string, whatever comes after it. -/
def IsLiteral (text value : String) : Prop :=
  ∃ inner, text.toList = '"' :: inner ∧ ∀ rest, literal? (inner ++ rest) = some (value.toList, rest)

theorem isLiteral_jsonString (s : String) : IsLiteral (jsonString s) s := by
  refine ⟨s.toList.flatMap jsonChar ++ ['"'], by simp [jsonString], fun rest => ?_⟩
  rw [List.append_assoc]
  exact literal?_jsonChars s.toList rest

theorem member?_object {nameText valueText name value : String} (hname : IsLiteral nameText name)
    (hvalue : IsLiteral valueText value) :
    member? ("\x7b" ++ nameText ++ ":" ++ valueText ++ "\x7d") = some (name, value) := by
  obtain ⟨inner, hinner, hread⟩ := hname
  obtain ⟨inner', hinner', hread'⟩ := hvalue
  have hchars : ("\x7b" ++ nameText ++ ":" ++ valueText ++ "\x7d").toList =
      '\x7b' :: '"' :: (inner ++ ':' :: '"' :: (inner' ++ ['\x7d'])) := by
    simp [hinner, hinner']
  unfold member?
  rw [hchars]
  simp [hread, hread']

end SequenceDiagram.Text
