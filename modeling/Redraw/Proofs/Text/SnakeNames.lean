import Redraw.Proofs.Text.SnakeCase

/-!
# Names that are in snake case already

A name is in snake case when it is made of words that are small letters only or digits only, joined by single
underscores. On texts of ASCII, snake case yields exactly these names and leaves them as they are.
-/

namespace Redraw.Text

/-- A text of ASCII. -/
def IsAscii (s : String) : Prop := ∀ c ∈ s.toList, c.toNat < 128

instance (s : String) : Decidable (IsAscii s) := List.decidableBAll (fun c : Char => c.toNat < 128) s.toList

/-- A word of small letters only, or of digits only. -/
structure IsSnakeWord (w : List Char) : Prop where
  filled : w ≠ []
  alike : (∀ c ∈ w, c.isLower = true) ∨ (∀ c ∈ w, c.isDigit = true)

/-- A name in snake case: such words joined by single underscores, or nothing at all. -/
def IsSnake (s : String) : Prop :=
  ∃ ws : List (List Char), (∀ w ∈ ws, IsSnakeWord w) ∧ s.toList = ['_'].intercalate ws

variable {c d : Char} {w rest text : List Char} {s : String}

/-! ## Words are letters or numbers -/

/-- Where no word starts, letters and digits do not meet. -/
theorem isNumeric_eq_of_uncut {after : Option Char} (uncut : startsWord c d after = false) :
    isNumeric c = isNumeric d := by
  simp only [startsWord, Bool.or_eq_false_iff, bne_eq_false_iff_eq] at uncut
  exact uncut.1.1

/-- A word has letters only or numbers only. -/
theorem alike_of_mem_words (word : w ∈ words text) : ∃ number, ∀ c ∈ w, isNumeric c = number := by
  induction text generalizing w with
  | nil => exact absurd word List.not_mem_nil
  | cons c rest ih =>
    rcases mem_words_cons word with later | rfl | ⟨d, piece, after, rfl, continued, uncut⟩
    · exact ih later
    · exact ⟨isNumeric c, fun x member => by rw [List.mem_singleton.1 member]⟩
    · obtain ⟨number, same⟩ := ih continued
      refine ⟨number, ?_⟩
      intro x member
      rcases List.mem_cons.1 member with rfl | member
      · rw [isNumeric_eq_of_uncut uncut]
        exact same d List.mem_cons_self
      · exact same x member

/-! ## The snake case of a text of ASCII -/

theorem isLower_toLower (letter : c.isAlpha = true) : c.toLower.isLower = true := by
  cases upper : c.isUpper with
  | true =>
    have bounds := isUpper_iff.1 upper
    rw [isLower_iff, toNat_toLower upper]
    omega
  | false =>
    have either : (c.isUpper || c.isLower) = true := letter
    rw [upper, Bool.false_or] at either
    rw [toLower_of_not_isUpper upper]
    exact either

theorem toLower_of_isDigit (digit : c.isDigit = true) : c.toLower = c := by
  have bounds := isDigit_iff.1 digit
  apply toLower_of_not_isUpper
  apply isUpper_eq_false
  omega

theorem flatMap_lower_ascii (ascii : ∀ c ∈ w, c.toNat < 128) :
    w.flatMap lower = w.map Char.toLower := by
  rw [List.map_eq_flatMap]
  apply List.flatMap_congr
  intro c member
  exact lower_ascii (ascii c member)

/-- In lower case a word of ASCII is one of small letters or of digits. -/
theorem isSnakeWord_lowered (ascii : ∀ c ∈ text, c.toNat < 128) (word : w ∈ words text) :
    IsSnakeWord (w.flatMap lower) := by
  rw [flatMap_lower_ascii fun c member => ascii c (mem_of_mem_words word member).1]
  constructor
  · intro empty
    rw [List.map_eq_nil_iff.1 empty] at word
    exact nil_notMem_words text word
  · obtain ⟨number, same⟩ := alike_of_mem_words word
    have kind : ∀ c ∈ w, c.isDigit = number ∧ c.isAlphanum = true := by
      intro c member
      obtain ⟨among, letter⟩ := mem_of_mem_words word member
      rw [← isNumeric_ascii (ascii c among), ← isAlphanumeric_ascii (ascii c among)]
      exact ⟨same c member, letter⟩
    cases number with
    | true =>
      right
      intro x member
      obtain ⟨c, among, rfl⟩ := List.mem_map.1 member
      rw [toLower_of_isDigit (kind c among).1]
      exact (kind c among).1
    | false =>
      left
      intro x member
      obtain ⟨c, among, rfl⟩ := List.mem_map.1 member
      obtain ⟨other, letter⟩ := kind c among
      have either : (c.isAlpha || c.isDigit) = true := letter
      rw [other, Bool.or_false] at either
      exact isLower_toLower either

/-- The snake case of an ASCII text is a snake case name. -/
theorem isSnake_snakeCase (ascii : IsAscii s) : IsSnake (snakeCase s) := by
  refine ⟨_, ?_, toList_snakeCase s⟩
  intro part member
  obtain ⟨w, word, rfl⟩ := List.mem_map.1 member
  exact isSnakeWord_lowered ascii word

/-! ## Names in snake case stay as they are -/

/-- No word starts at a small letter or a digit that follows one of its kind. -/
theorem startsWord_of_alike {after : Option Char} (alike : isNumeric c = isNumeric d)
    (small : isUppercase d = false) : startsWord c d after = false := by
  rw [startsWord, alike, small]
  simp

namespace IsSnakeWord

/-- The characters of such a word: of ASCII, letters or numbers of one kind, and no capitals. -/
theorem chars (snake : IsSnakeWord w) : ∃ number, ∀ c ∈ w, c.toNat < 128 ∧ isAlphanumeric c = true ∧
    isNumeric c = number ∧ c.isUpper = false := by
  rcases snake.alike with letters | digits
  · refine ⟨false, ?_⟩
    intro c member
    have small := letters c member
    obtain ⟨first, last⟩ := isLower_iff.1 small
    have ascii : c.toNat < 128 := by omega
    refine ⟨ascii, ?_, ?_, ?_⟩
    · rw [isAlphanumeric_ascii ascii]
      show (c.isUpper || c.isLower || c.isDigit) = true
      rw [small, Bool.or_true, Bool.true_or]
    · rw [isNumeric_ascii ascii, Bool.eq_false_iff, Ne, isDigit_iff]
      omega
    · apply isUpper_eq_false
      omega
  · refine ⟨true, ?_⟩
    intro c member
    have digit := digits c member
    obtain ⟨first, last⟩ := isDigit_iff.1 digit
    have ascii : c.toNat < 128 := by omega
    refine ⟨ascii, ?_, ?_, ?_⟩
    · rw [isAlphanumeric_ascii ascii]
      show (c.isAlpha || c.isDigit) = true
      rw [digit, Bool.or_true]
    · rw [isNumeric_ascii ascii, digit]
    · apply isUpper_eq_false
      omega

/-- There is nothing to lower in a word of a name. -/
theorem flatMap_lower (snake : IsSnakeWord w) : w.flatMap lower = w := by
  obtain ⟨number, facts⟩ := snake.chars
  have unchanged : ∀ c ∈ w, c.toLower = id c := by
    intro c member
    obtain ⟨-, -, -, small⟩ := facts c member
    exact toLower_of_not_isUpper small
  rw [flatMap_lower_ascii fun c member => (facts c member).1, List.map_congr_left unchanged, List.map_id]

/-- Nothing is cut in such a word, so it is the first word of a text that does not go on with it. -/
theorem words_append (snake : IsSnakeWord w) (rest : List Char) (ends : ∀ c, goesOn c rest = false) :
    words (w ++ rest) = w :: words rest := by
  obtain ⟨number, facts⟩ := snake.chars
  have filled := snake.filled
  clear snake
  induction w with
  | nil => exact absurd rfl filled
  | cons c w ih =>
    obtain ⟨-, letter, kind, -⟩ := facts c List.mem_cons_self
    cases w with
    | nil =>
      show words (c :: rest) = _
      rw [words_cons, letter, ends]
      rfl
    | cons d w =>
      obtain ⟨ascii, letter', kind', small⟩ := facts d (List.mem_cons_of_mem _ List.mem_cons_self)
      have on : goesOn c (d :: w ++ rest) = true := by
        have alike : isNumeric c = isNumeric d := by rw [kind, kind']
        rw [← isUppercase_ascii ascii] at small
        show (isAlphanumeric d && !startsWord c d (w ++ rest).head?) = true
        rw [letter', startsWord_of_alike alike small]
        rfl
      have later := ih (fun x member => facts x (List.mem_cons_of_mem _ member)) (List.cons_ne_nil _ _)
      rw [List.cons_append, words_cons, letter, on, later]
      rfl

end IsSnakeWord

/-- No word goes on at an underscore. -/
theorem goesOn_underscore (c : Char) (rest : List Char) : goesOn c ('_' :: rest) = false := by
  rw [goesOn, isAlphanumeric_underscore, Bool.false_and]

/-- The words of a name are the ones that it was joined from. -/
theorem words_joined {ws : List (List Char)} (snake : ∀ w ∈ ws, IsSnakeWord w) :
    words (['_'].intercalate ws) = ws := by
  induction ws with
  | nil => rfl
  | cons w ws ih =>
    have first := snake w List.mem_cons_self
    have others : ∀ v ∈ ws, IsSnakeWord v := fun v member => snake v (List.mem_cons_of_mem _ member)
    cases ws with
    | nil =>
      have alone := first.words_append [] fun _ => rfl
      rw [List.append_nil] at alone
      rw [List.intercalate_singleton]
      exact alone
    | cons v ws =>
      rw [joined_cons_cons, first.words_append _ (goesOn_underscore · _),
        words_of_separator isAlphanumeric_underscore, ih others]

/-- A snake case name stays as it is. -/
theorem snakeCase_of_isSnake (snake : IsSnake s) : snakeCase s = s := by
  obtain ⟨ws, each, joined⟩ := snake
  have unchanged : ws.map (·.flatMap lower) = ws := by
    rw [List.map_congr_left (g := id) fun w member => (each w member).flatMap_lower, List.map_id]
  apply String.toList_injective
  rw [toList_snakeCase, joined, words_joined each, unchanged]

/-- Names are ASCII. -/
theorem isAscii_of_isSnake (snake : IsSnake s) : IsAscii s := by
  obtain ⟨ws, each, joined⟩ := snake
  intro c member
  rw [joined] at member
  rcases mem_joined member with rfl | ⟨w, among, holds⟩
  · decide
  · obtain ⟨number, facts⟩ := (each w among).chars
    exact (facts c holds).1

/-- On texts of ASCII, snake case yields names in snake case and leaves exactly these as they are. So doing it
twice is doing it once, and every name in snake case comes from a text of ASCII. -/
theorem snakeCase_fixes_snake_names :
    (∀ s, IsAscii s →
      IsSnake (snakeCase s) ∧ (snakeCase s = s ↔ IsSnake s) ∧ snakeCase (snakeCase s) = snakeCase s) ∧
    ∀ t, (∃ s, IsAscii s ∧ snakeCase s = t) ↔ IsSnake t := by
  constructor
  · intro s ascii
    have named := isSnake_snakeCase ascii
    refine ⟨named, ⟨?_, snakeCase_of_isSnake⟩, snakeCase_of_isSnake named⟩
    intro fixed
    rwa [fixed] at named
  · intro t
    constructor
    · rintro ⟨s, ascii, rfl⟩
      exact isSnake_snakeCase ascii
    · intro named
      exact ⟨t, isAscii_of_isSnake named, snakeCase_of_isSnake named⟩

/-- `HTMLParser v2` is not in snake case, and what becomes of it is. -/
theorem htmlParser_becomes_snake :
    snakeCase "HTMLParser v2" = "html_parser_v_2" ∧ IsSnake "html_parser_v_2" ∧ ¬ IsSnake "HTMLParser v2" := by
  have ascii : IsAscii "HTMLParser v2" := by decide
  have becomes : snakeCase "HTMLParser v2" = "html_parser_v_2" := by decide +kernel
  obtain ⟨named, fixed, -⟩ := snakeCase_fixes_snake_names.1 _ ascii
  rw [becomes] at named fixed
  exact ⟨becomes, named, fun snake => absurd (fixed.2 snake) (by decide)⟩

end Redraw.Text
