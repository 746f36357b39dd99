import Redraw.Json.Reader
import Redraw.Json.Text

/-!
# Texts between quotes

Every character is read back from how it is written between quotes, so every text is, whatever
characters it holds.
-/

namespace Redraw.Json

/-! ## One character -/

/-- The four digits of an escape spell the code point of a control character. -/
theorem unitValue_hexDigits {n : Nat} (control : n < 0x20) :
    unitValue? '0' '0' (hexDigit (n / 16)) (hexDigit n) = some n := by
  revert n
  decide

theorem scanText_unit {a b c d : Char} {unit : Nat} (value : unitValue? a b c d = some unit)
    (rest : List Char) :
    scanText ('\\' :: 'u' :: a :: b :: c :: d :: rest) =
      (scanText rest).map fun x => (unit :: x.1, x.2) := by
  cases scanned : scanText rest <;> simp [scanText, value, scanned]

theorem scanText_escape {e c : Char} (meaning : escaped? e = some c) (rest : List Char) :
    scanText ('\\' :: e :: rest) = (scanText rest).map fun x => (c.toNat :: x.1, x.2) := by
  rw [scanText.eq_def]
  split
  · next start => cases start
  · next start => cases (List.cons.inj start).1
  · next start =>
    -- The letter for a unit has no meaning of its own.
    cases start
    cases meaning
  · next start =>
    cases start
    rw [meaning]
    cases scanText rest <;> rfl
  · next other start =>
    cases start
    exact absurd rfl (other e rest rfl)

theorem scanText_plain {c : Char} (quote : c ≠ '"') (backslash : c ≠ '\\') (shown : ¬ c.toNat < 0x20)
    (rest : List Char) :
    scanText (c :: rest) = (scanText rest).map fun x => (c.toNat :: x.1, x.2) := by
  rw [scanText.eq_def]
  split
  · next start => cases start
  · next start => exact absurd (List.cons.inj start).1 quote
  · next start => exact absurd (List.cons.inj start).1 backslash
  · next start => exact absurd (List.cons.inj start).1 backslash
  · next start =>
    cases start
    exact if_neg shown

/-- A character is read back from how it is written. -/
theorem scanText_escapeChar (c : Char) (rest : List Char) :
    scanText (escapeChar c ++ rest) = (scanText rest).map fun x => (c.toNat :: x.1, x.2) := by
  unfold escapeChar
  split
  · next same => subst same; exact scanText_escape rfl rest
  split
  · next same => subst same; exact scanText_escape rfl rest
  split
  · next same => subst same; exact scanText_escape rfl rest
  split
  · next same => subst same; exact scanText_escape rfl rest
  split
  · next same => subst same; exact scanText_escape rfl rest
  split
  · next same => subst same; exact scanText_escape rfl rest
  split
  · next same => subst same; exact scanText_escape rfl rest
  split
  · next control => exact scanText_unit (unitValue_hexDigits control) rest
  · next quote backslash _ _ _ _ _ shown => exact scanText_plain quote backslash shown rest

/-! ## Whole texts -/

theorem scanText_escapeChars (s rest : List Char) :
    scanText (s.flatMap escapeChar ++ '"' :: rest) = some (s.map Char.toNat, rest) := by
  induction s with
  | nil => rfl
  | cons c s ih =>
    rw [List.flatMap_cons, List.append_assoc, scanText_escapeChar, ih]
    rfl

/-- No character is half of a surrogate pair. -/
theorem not_surrogate (c : Char) : isLeading c.toNat = false ∧ isTrailing c.toNat = false := by
  have valid : c.toNat < 0xD800 ∨ 0xDFFF < c.toNat ∧ c.toNat < 0x110000 := c.valid
  simp only [isLeading, isTrailing, Bool.and_eq_false_iff, decide_eq_false_iff_not]
  omega

theorem joinPairs_toNat (s : List Char) : joinPairs (s.map Char.toNat) = some s := by
  induction s with
  | nil => rfl
  | cons c s ih =>
    obtain ⟨leading, trailing⟩ := not_surrogate c
    cases s with
    | nil => simp [joinPairs, leading, trailing]
    | cons d s =>
      simp only [List.map_cons] at ih ⊢
      rw [joinPairs, ih]
      simp [leading, trailing]

/-- The code points of a text spell the text. -/
theorem textOf?_toNat (s : String) : textOf? (s.toList.map Char.toNat) = some s := by
  rw [textOf?, joinPairs_toNat, Option.map_some, String.ofList_toList]

/-- A text is read back from between its quotes. -/
theorem scanText_quotedChars (s : String) (rest : List Char) :
    ∃ inner, quotedChars s ++ rest = '"' :: inner ∧
      scanText inner = some (s.toList.map Char.toNat, rest) := by
  refine ⟨s.toList.flatMap escapeChar ++ '"' :: rest, ?_, scanText_escapeChars s.toList rest⟩
  simp [quotedChars]

end Redraw.Json
