import Redraw.Text.Words

/-!
# Characters of ASCII

Among the first 128 code points the classes of characters are the familiar ones: numbers are the ten digits,
letters the 26 small ones and the 26 capitals, and the lower case of a capital is the small letter. Beyond them
the lower case of a character is never empty, and brings in no mark of ASCII: what it adds comes after the
capitals.
-/

namespace Redraw.Text

/-! ## Tables up to a bound -/

/-- What holds a code point below a bound begins below it. -/
theorem early_and_has (r : Run) {n bound : Nat} (below : n < bound) :
    (decide (r.first < bound) && r.has n) = r.has n := by
  by_cases first : r.first < bound
  · simp [first]
  · have late : ¬ r.first ≤ n := by omega
    simp [Run.has, first, late]

/-- Below a bound the runs that begin there are the only ones that count. -/
theorem covered_of_early {runs early : List Run} {n bound : Nat}
    (listed : runs.filter (·.first < bound) = early) (below : n < bound) :
    covered runs n = covered early n := by
  subst listed
  unfold covered
  simp only [List.any_filter, early_and_has _ below]

/-- A run without gaps holds everything between its ends. -/
theorem has_step_one {n first last : Nat} :
    (⟨first, last, 1⟩ : Run).has n = (decide (first ≤ n) && decide (n ≤ last)) := by
  simp [Run.has, Nat.mod_one]

/-- The numeric ASCII characters are the digits. -/
theorem early_numericRuns : numericRuns.filter (·.first < 128) = [⟨0x30, 0x39, 1⟩] := by
  decide +kernel

theorem early_uppercaseRuns : uppercaseRuns.filter (·.first < 128) = [⟨0x41, 0x5A, 1⟩] := by
  decide +kernel

theorem early_lowercaseRuns : lowercaseRuns.filter (·.first < 128) = [⟨0x61, 0x7A, 1⟩] := by
  decide +kernel

/-- The alphabetic ASCII characters are the letters of both cases. -/
theorem early_alphabeticRuns :
    alphabeticRuns.filter (·.first < 128) = [⟨0x41, 0x5A, 1⟩, ⟨0x61, 0x7A, 1⟩] := by
  decide +kernel

/-- Among the ASCII characters exactly the capitals have a small letter. -/
theorem early_lowerings : lowerings.filter (·.run.first < 128) = [⟨⟨0x41, 0x5A, 1⟩, 0x61⟩] := by
  decide +kernel

/-! ## Classes -/

variable {c x : Char}

/-- On ASCII the tables agree with the library about digits. -/
theorem isNumeric_ascii (ascii : c.toNat < 128) : isNumeric c = c.isDigit := by
  unfold isNumeric
  rw [covered_of_early early_numericRuns ascii]
  simp only [covered, List.any_cons, List.any_nil, Bool.or_false, has_step_one]
  rfl

/-- On ASCII the tables agree with the library about capitals. -/
theorem isUppercase_ascii (ascii : c.toNat < 128) : isUppercase c = c.isUpper := by
  unfold isUppercase
  rw [covered_of_early early_uppercaseRuns ascii]
  simp only [covered, List.any_cons, List.any_nil, Bool.or_false, has_step_one, ← Bool.decide_and]
  rfl

/-- On ASCII the tables agree with the library about small letters. -/
theorem isLowercase_ascii (ascii : c.toNat < 128) : isLowercase c = c.isLower := by
  unfold isLowercase
  rw [covered_of_early early_lowercaseRuns ascii]
  simp only [covered, List.any_cons, List.any_nil, Bool.or_false, has_step_one]
  rfl

/-- On ASCII the tables agree with the library about letters. -/
theorem isAlphabetic_ascii (ascii : c.toNat < 128) : isAlphabetic c = c.isAlpha := by
  show covered alphabeticRuns c.toNat = (c.isUpper || c.isLower)
  rw [← isUppercase_ascii ascii, ← isLowercase_ascii ascii]
  unfold isUppercase isLowercase
  rw [covered_of_early early_alphabeticRuns ascii, covered_of_early early_uppercaseRuns ascii,
    covered_of_early early_lowercaseRuns ascii]
  simp only [covered, List.any_cons, List.any_nil, Bool.or_false]

theorem isAlphanumeric_ascii (ascii : c.toNat < 128) : isAlphanumeric c = c.isAlphanum := by
  unfold isAlphanumeric
  rw [isAlphabetic_ascii ascii, isNumeric_ascii ascii]
  rfl

theorem isUpper_iff : c.isUpper = true ↔ 0x41 ≤ c.toNat ∧ c.toNat ≤ 0x5A := decide_eq_true_iff

theorem isUpper_eq_false (outside : c.toNat < 0x41 ∨ 0x5A < c.toNat) : c.isUpper = false := by
  rw [Bool.eq_false_iff, Ne, isUpper_iff]
  omega

theorem isLower_iff : c.isLower = true ↔ 0x61 ≤ c.toNat ∧ c.toNat ≤ 0x7A := by
  show (decide (0x61 ≤ c.toNat) && decide (c.toNat ≤ 0x7A)) = true ↔ _
  rw [Bool.and_eq_true, decide_eq_true_eq, decide_eq_true_eq]

theorem isDigit_iff : c.isDigit = true ↔ 0x30 ≤ c.toNat ∧ c.toNat ≤ 0x39 := by
  show (decide (0x30 ≤ c.toNat) && decide (c.toNat ≤ 0x39)) = true ↔ _
  rw [Bool.and_eq_true, decide_eq_true_eq, decide_eq_true_eq]

/-! ## Lower case -/

theorem toLower_of_not_isUpper (small : c.isUpper = false) : c.toLower = c :=
  dif_neg (of_decide_eq_false small)

/-- A small letter comes 32 characters after its capital. -/
theorem toNat_toLower (capital : c.isUpper = true) : c.toLower.toNat = c.toNat + 0x20 := by
  have shifted : c.toLower.toNat = (c.val + 0x20).toNat :=
    congrArg Char.toNat (dif_pos (of_decide_eq_true capital))
  have last : c.val.toNat ≤ 0x5A := (isUpper_iff.1 capital).2
  have shift : (0x20 : UInt32).toNat = 0x20 := rfl
  rw [shifted, UInt32.toNat_add, shift]
  exact Nat.mod_eq_of_lt (by omega)

/-- On ASCII a character is lowered to one character, by the table as by the library. -/
theorem lower_ascii (ascii : c.toNat < 128) : lower c = [c.toLower] := by
  have undotted : c ≠ 'İ' := by
    rintro rfl
    exact absurd ascii (by decide)
  have found : lowerings.find? (·.run.has c.toNat) =
      (lowerings.filter (·.run.first < 128)).find? (·.run.has c.toNat) := by
    simp only [List.find?_filter, Bool.decide_and, Bool.decide_eq_true, early_and_has _ ascii]
  have capital : (⟨0x41, 0x5A, 1⟩ : Run).has c.toNat = c.isUpper := by
    rw [has_step_one, ← Bool.decide_and]
    rfl
  unfold lower
  rw [if_neg undotted, found, early_lowerings, List.find?_cons, capital]
  cases upper : c.isUpper with
  | true =>
    obtain ⟨first, last⟩ := isUpper_iff.1 upper
    have image : 0x61 + (c.toNat - 0x41) = c.toLower.toNat := by
      rw [toNat_toLower upper]
      omega
    show [Char.ofNat (0x61 + (c.toNat - 0x41))] = [c.toLower]
    rw [image, Char.ofNat_toNat]
  | false => rw [toLower_of_not_isUpper upper, List.find?_nil]

/-- Lowering never drops a character. -/
theorem lower_ne_nil (c : Char) : lower c ≠ [] := by
  unfold lower
  split
  · exact List.cons_ne_nil _ _
  · split <;> exact List.cons_ne_nil _ _

/-- The lower cases of a run are code points of characters, and come after the capitals of ASCII. -/
theorem image_of_lowering :
    ∀ l ∈ lowerings, 0x61 ≤ l.image ∧
      (l.image + (l.run.last - l.run.first) < 0xD800 ∨
        0xDFFF < l.image ∧ l.image + (l.run.last - l.run.first) < 0x110000) := by
  decide +kernel

theorem toNat_ofNat {n : Nat} (valid : n.isValidChar) : (Char.ofNat n).toNat = n := by
  show (dite n.isValidChar _ _ : Char).toNat = n
  rw [dif_pos valid]
  rfl

/-- Lower case keeps a character, or brings in one that comes after the capitals of ASCII. -/
theorem mem_lower (member : x ∈ lower c) : x = c ∨ 0x61 ≤ x.toNat := by
  unfold lower at member
  split at member
  · right
    simp only [List.mem_cons, List.not_mem_nil, or_false] at member
    rcases member with rfl | rfl <;> decide
  · split at member
    · next l found =>
      right
      have held := List.find?_some found
      obtain ⟨small, valid⟩ := image_of_lowering l (List.mem_of_find?_eq_some found)
      simp only [Run.has, Bool.and_eq_true, decide_eq_true_eq] at held
      obtain ⟨⟨first, last⟩, -⟩ := held
      have isChar : (l.image + (c.toNat - l.run.first)).isValidChar := by
        show _ < 0xD800 ∨ 0xDFFF < _ ∧ _ < 0x110000
        omega
      rw [List.mem_singleton.1 member, toNat_ofNat isChar]
      omega
    · left
      exact List.mem_singleton.1 member

end Redraw.Text
