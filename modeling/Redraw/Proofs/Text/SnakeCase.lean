import Redraw.Proofs.Text.Words

/-!
# The snake case of a text

The snake case of a text is the pieces of its runs in lower case, joined by underscores. Lower case turns no
letter or number into a mark of ASCII, so underscores stand where two pieces meet and nowhere else, and no other
mark is ever written.
-/

namespace Redraw.Text

/-! ## Parts joined by a mark -/

section Joining

variable {α : Type} {mark x : α} {part next rest : List α} {parts : List (List α)}

/-- Parts that a mark keeps apart: there is something in each of them, and the mark is in none. -/
structure KeptApart (mark : α) (parts : List (List α)) : Prop where
  filled : [] ∉ parts
  unmarked : ∀ part ∈ parts, mark ∉ part

namespace KeptApart

theorem head (apart : KeptApart mark (part :: parts)) : part ≠ [] ∧ mark ∉ part :=
  ⟨(List.ne_of_not_mem_cons apart.filled).symm, apart.unmarked _ List.mem_cons_self⟩

theorem tail (apart : KeptApart mark (part :: parts)) : KeptApart mark parts :=
  ⟨List.not_mem_of_not_mem_cons apart.filled, fun p member => apart.unmarked p (List.mem_cons_of_mem _ member)⟩

end KeptApart

/-- Joining goes part by part with the mark in between. -/
theorem joined_cons_cons :
    [mark].intercalate (part :: next :: parts) = part ++ mark :: [mark].intercalate (next :: parts) := by
  rw [List.intercalate_cons_cons, List.append_assoc]
  rfl

/-- What is joined is the mark or comes from a part. -/
theorem mem_joined (member : x ∈ [mark].intercalate parts) : x = mark ∨ ∃ part ∈ parts, x ∈ part := by
  induction parts with
  | nil => exact absurd member List.not_mem_nil
  | cons part parts ih =>
    cases parts with
    | nil =>
      rw [List.intercalate_singleton] at member
      exact .inr ⟨part, List.mem_cons_self, member⟩
    | cons next parts =>
      rw [joined_cons_cons, List.mem_append, List.mem_cons] at member
      rcases member with here | same | later
      · exact .inr ⟨part, List.mem_cons_self, here⟩
      · exact .inl same
      · rcases ih later with same | ⟨p, among, holds⟩
        · exact .inl same
        · exact .inr ⟨p, List.mem_cons_of_mem _ among, holds⟩

/-- Between a part without marks and a text that does not begin with one, a single mark makes no double one. -/
theorem not_infix_across (unmarked : mark ∉ part) (begins : rest.head? ≠ some mark)
    (single : ¬ [mark, mark] <:+: rest) : ¬ [mark, mark] <:+: part ++ mark :: rest := by
  induction part with
  | nil =>
    intro doubled
    rcases List.infix_cons_iff.1 doubled with here | later
    · obtain ⟨-, l, joined⟩ := List.cons_prefix_cons.1 here
      rw [← joined] at begins
      exact begins rfl
    · exact single later
  | cons c part ih =>
    intro doubled
    rcases List.infix_cons_iff.1 doubled with here | later
    · exact List.ne_of_not_mem_cons unmarked (List.cons_prefix_cons.1 here).1
    · exact ih (List.not_mem_of_not_mem_cons unmarked) later

namespace KeptApart

/-- Joined parts begin as the first of them does. -/
theorem begins (apart : KeptApart mark (part :: parts)) :
    ∃ first rest, [mark].intercalate (part :: parts) = first :: rest ∧ first ≠ mark := by
  obtain ⟨filled, unmarked⟩ := apart.head
  obtain ⟨first, part, rfl⟩ := List.exists_cons_of_ne_nil filled
  have other : first ≠ mark := (List.ne_of_not_mem_cons unmarked).symm
  cases parts with
  | nil => exact ⟨first, part, List.intercalate_singleton, other⟩
  | cons next parts => exact ⟨first, _, joined_cons_cons, other⟩

/-- What is joined does not begin with the mark. -/
theorem head?_ne (apart : KeptApart mark parts) : ([mark].intercalate parts).head? ≠ some mark := by
  cases parts with
  | nil => exact nofun
  | cons part parts =>
    obtain ⟨first, rest, joined, other⟩ := apart.begins
    rw [joined, List.head?_cons]
    exact fun same => other (Option.some.inj same)

/-- What is joined does not end with the mark. -/
theorem getLast?_ne (apart : KeptApart mark parts) : ([mark].intercalate parts).getLast? ≠ some mark := by
  induction parts with
  | nil => exact nofun
  | cons part parts ih =>
    cases parts with
    | nil =>
      rw [List.intercalate_singleton]
      exact fun last => apart.head.2 (List.mem_of_getLast? last)
    | cons next parts =>
      obtain ⟨first, rest, joined, -⟩ := apart.tail.begins
      rw [joined_cons_cons, List.getLast?_append_cons, joined, List.getLast?_cons_cons, ← joined]
      exact ih apart.tail

/-- In what is joined the mark never stands twice in a row. -/
theorem not_doubled (apart : KeptApart mark parts) : ¬ [mark, mark] <:+: [mark].intercalate parts := by
  induction parts with
  | nil => exact fun doubled => absurd (List.infix_nil.1 doubled) (List.cons_ne_nil _ _)
  | cons part parts ih =>
    cases parts with
    | nil =>
      intro doubled
      rw [List.intercalate_singleton] at doubled
      exact apart.head.2 (doubled.subset List.mem_cons_self)
    | cons next parts =>
      rw [joined_cons_cons]
      exact not_infix_across apart.head.2 apart.tail.head?_ne (ih apart.tail)

/-- Without the mark the parts are left. -/
theorem filter_ne [DecidableEq α] (apart : KeptApart mark parts) :
    ([mark].intercalate parts).filter (· ≠ mark) = parts.flatten := by
  have kept : ∀ part : List α, mark ∉ part → part.filter (· ≠ mark) = part := by
    intro part unmarked
    apply List.filter_eq_self.2
    intro c member
    exact decide_eq_true fun same => unmarked (same ▸ member)
  induction parts with
  | nil => rfl
  | cons part parts ih =>
    cases parts with
    | nil => rw [List.intercalate_singleton, kept part apart.head.2, List.flatten_cons, List.flatten_nil,
        List.append_nil]
    | cons next parts =>
      rw [joined_cons_cons, List.filter_append, List.filter_cons_of_neg (by simp), ih apart.tail,
        kept part apart.head.2]
      rfl

end KeptApart

end Joining

/-! ## The parts of a snake case -/

variable {c mark : Char} {s : String}

theorem toList_snakeCase (s : String) :
    (snakeCase s).toList = ['_'].intercalate ((words s.toList).map (·.flatMap lower)) :=
  String.toList_ofList

theorem isAlphanumeric_underscore : isAlphanumeric '_' = false := by
  rw [isAlphanumeric_ascii (by decide)]
  rfl

/-- A mark before the small letters that is neither letter nor digit is in no lowered character. -/
theorem notMem_lower (early : mark.toNat < 0x61) (separates : isAlphanumeric mark = false)
    (letter : isAlphanumeric c = true) : mark ∉ lower c := by
  intro member
  rcases mem_lower member with rfl | late
  · rw [separates] at letter
    contradiction
  · omega

/-- Lower case brings no mark of ASCII into a word. -/
theorem notMem_lowered {part : List Char} (early : mark.toNat < 0x61) (separates : isAlphanumeric mark = false)
    (member : part ∈ (words s.toList).map (·.flatMap lower)) : mark ∉ part := by
  intro holds
  obtain ⟨w, word, rfl⟩ := List.mem_map.1 member
  obtain ⟨c, letter, image⟩ := List.mem_flatMap.1 holds
  exact notMem_lower early separates (mem_of_mem_words word letter).2 image

/-- Lowered words are not empty and hold no underscore. -/
theorem keptApart_lowered (s : String) : KeptApart '_' ((words s.toList).map (·.flatMap lower)) where
  filled empty := by
    obtain ⟨w, word, lowered⟩ := List.mem_map.1 empty
    cases w with
    | nil => exact nil_notMem_words _ word
    | cons c w => exact lower_ne_nil c (List.append_eq_nil_iff.1 lowered).1
  unmarked _ member := notMem_lowered (by decide) isAlphanumeric_underscore member

/-- The only mark of ASCII in a snake case is the underscore. -/
theorem notMem_snakeCase (early : mark.toNat < 0x61) (separates : isAlphanumeric mark = false)
    (other : mark ≠ '_') (s : String) : mark ∉ (snakeCase s).toList := by
  intro member
  rw [toList_snakeCase] at member
  rcases mem_joined member with same | ⟨part, among, holds⟩
  · exact other same
  · exact notMem_lowered early separates among holds

/-- Lowered words are the lowered letters and digits of the text, none lost and none added. -/
theorem flatten_lowered (text : List Char) :
    ((words text).map (·.flatMap lower)).flatten = (text.filter isAlphanumeric).flatMap lower := by
  rw [← flatten_words, ← List.flatMap_def, List.flatten_eq_flatMap, List.flatMap_assoc]
  rfl

/-- A snake case is the pieces of the text's runs, in lower case, joined by underscores. No underscore stands at
an end or next to another, and without them it is the lower case of the text's letters and numbers in order. -/
theorem snakeCase_joins_pieces (s : String) :
    (snakeCase s).toList = ['_'].intercalate ((runPieces s.toList).map (·.flatMap lower)) ∧
      (snakeCase s).toList.head? ≠ some '_' ∧ (snakeCase s).toList.getLast? ≠ some '_' ∧
      ¬ ['_', '_'] <:+: (snakeCase s).toList ∧
      (snakeCase s).toList.filter (· ≠ '_') = (s.toList.filter isAlphanumeric).flatMap lower := by
  have apart := keptApart_lowered s
  rw [← words_eq_runPieces, ← flatten_lowered, toList_snakeCase]
  exact ⟨rfl, apart.head?_ne, apart.getLast?_ne, apart.not_doubled, apart.filter_ne⟩

end Redraw.Text
