import Mathlib.Data.List.SplitBy
import Redraw.Proofs.Text.Ascii

/-!
# Words by their definition

The words of a text are found in one pass over it. By their definition they are the pieces of its maximal runs of
letters and numbers, where a run is cut between two characters of different kinds, between a small letter and a
capital, and before a capital that follows a capital and stands before a small letter. Both come to the same.
-/

namespace Redraw.Text

/-! ## Runs and their pieces -/

/-- A character of a text, with the one that follows it there. -/
structure Placed where
  char : Char
  after : Option Char

/-- The characters of a text, each with the one that follows it. -/
def placed : List Char → List Placed
  | [] => []
  | c :: rest => ⟨c, rest.head?⟩ :: placed rest

/-- The maximal runs of letters and numbers of a text. -/
def alphanumericRuns (text : List Char) : List (List Placed) :=
  ((placed text).splitOnP fun x => !isAlphanumeric x.char).filter (!·.isEmpty)

/-- A run is cut between two characters that stand side by side in it. -/
inductive IsCut (x y : Placed) : Prop where
  | kinds (differ : isNumeric x.char ≠ isNumeric y.char)
  | capital (small : isLowercase x.char = true) (large : isUppercase y.char = true)
  | lastCapital (large : isUppercase x.char = true) (large' : isUppercase y.char = true)
      (c : Char) (next : y.after = some c) (small : isLowercase c = true)

theorem startsWord_iff {x y : Placed} : startsWord x.char y.char y.after = true ↔ IsCut x y := by
  simp only [startsWord, Bool.or_eq_true, Bool.and_eq_true, bne_iff_ne, Option.any_eq_true]
  constructor
  · rintro ((differ | ⟨small, large⟩) | ⟨⟨large, large'⟩, c, next, small⟩)
    · exact .kinds differ
    · exact .capital small large
    · exact .lastCapital large large' c next small
  · intro cut
    cases cut with
    | kinds differ => exact .inl (.inl differ)
    | capital small large => exact .inl (.inr ⟨small, large⟩)
    | lastCapital large large' c next small => exact .inr ⟨⟨large, large'⟩, c, next, small⟩

instance (x y : Placed) : Decidable (IsCut x y) := decidable_of_iff _ startsWord_iff

theorem decide_isCut (x y : Placed) : decide (IsCut x y) = startsWord x.char y.char y.after := by
  rw [Bool.eq_iff_iff, decide_eq_true_eq, startsWord_iff]

/-- The pieces of a run: it is cut wherever two characters side by side ask for it, and nowhere else. -/
def cutRun (run : List Placed) : List (List Placed) := run.splitBy fun x y => !decide (IsCut x y)

/-- The pieces of all runs of a text, in order. -/
def runPieces (text : List Char) : List (List Char) :=
  ((alphanumericRuns text).flatMap cutRun).map (·.map (·.char))

/-! ## Splitting a list -/

section Segments

variable {α : Type} {r : α → α → Bool} {p : α → Bool}

/-- A list that begins with two elements is split there, or the first joins what begins with the second. -/
theorem splitBy_cons_cons (x y : α) (l : List α) :
    (x :: y :: l).splitBy r =
      if r x y then ((y :: l).splitBy r).modifyHead (x :: ·) else [x] :: (y :: l).splitBy r := by
  cases joined : r x y with
  | false => exact List.splitBy_append_cons (l := [x]) l (by simpa using joined)
  | true =>
    obtain ⟨g, gs, split⟩ :=
      List.exists_cons_of_ne_nil (List.splitBy_ne_nil (r := r).2 (List.cons_ne_nil y l))
    obtain ⟨whole, full, chains, apart⟩ := List.splitBy_eq_iff.1 split
    obtain ⟨z, g, rfl⟩ := List.exists_cons_of_ne_nil (List.ne_of_not_mem_cons full).symm
    obtain ⟨rfl, rest⟩ := List.cons.inj whole
    rw [if_pos rfl, split, List.modifyHead_cons, List.splitBy_eq_iff]
    refine ⟨by rw [whole]; rfl, by simpa using full, ?_, ?_⟩
    · intro m member
      rcases List.mem_cons.1 member with rfl | member
      · exact List.isChain_cons_cons.2 ⟨joined, chains _ List.mem_cons_self⟩
      · exact chains m (List.mem_cons_of_mem _ member)
    · cases gs with
      | nil => exact List.isChain_singleton _
      | cons h gs =>
        obtain ⟨⟨last, first, cut⟩, later⟩ := List.isChain_cons_cons.1 apart
        refine List.isChain_cons_cons.2 ⟨⟨List.cons_ne_nil _ _, first, ?_⟩, later⟩
        rw [List.getLast_cons last, cut]

/-- What a list has between its separators, cut further where two elements side by side are apart. -/
def segments (p : α → Bool) (r : α → α → Bool) (l : List α) : List (List α) :=
  ((l.splitOnP p).filter (!·.isEmpty)).flatMap (·.splitBy r)

/-- With one character more in front, it is left out, joins the first segment or starts one of its own. -/
theorem segments_cons (x : α) (l : List α) :
    segments p r (x :: l) =
      if p x then segments p r l
      else if l.head?.any (fun y => !p y && r x y) then (segments p r l).modifyHead (x :: ·)
      else [x] :: segments p r l := by
  unfold segments
  rw [List.splitOnP_cons_eq_if_modifyHead]
  split
  · rfl
  cases l with
  | nil => rfl
  | cons y l =>
    rw [List.splitOnP_cons_eq_if_modifyHead, List.head?_cons, Option.any_some]
    cases separates : p y with
    | true => rfl
    | false =>
      obtain ⟨g, gs, split⟩ := List.exists_cons_of_ne_nil (List.splitOnP_ne_nil p l)
      obtain ⟨h, hs, split'⟩ :=
        List.exists_cons_of_ne_nil (List.splitBy_ne_nil (r := r).2 (List.cons_ne_nil y g))
      simp only [split, split', splitBy_cons_cons, List.modifyHead_cons, List.filter_cons,
        List.flatMap_cons, List.isEmpty_cons, Bool.not_false, Bool.true_and, Bool.false_eq_true,
        if_false, if_true]
      split <;> rfl

end Segments

/-! ## One character more -/

/-- A word that has come to a letter or number goes on with the rest of the text. -/
def goesOn (c : Char) : List Char → Bool
  | [] => false
  | d :: rest => isAlphanumeric d && !startsWord c d rest.head?

variable {c : Char} {rest : List Char}

theorem pieces_cons (before : Option Char) (c : Char) (rest : List Char) :
    pieces before (c :: rest) =
      if !isAlphanumeric c then ([], closeWord (pieces (some c) rest).1 (pieces (some c) rest).2)
      else if before.any (fun b => isAlphanumeric b && startsWord b c rest.head?) then
        ([], (c :: (pieces (some c) rest).1) :: (pieces (some c) rest).2)
      else (c :: (pieces (some c) rest).1, (pieces (some c) rest).2) := rfl

/-- Closing the first piece gives the words of the text, whatever came before it. -/
theorem closeWord_pieces (before : Option Char) (text : List Char) :
    closeWord (pieces before text).1 (pieces before text).2 = words text := by
  cases text with
  | nil => rfl
  | cons c rest =>
    show _ = closeWord (pieces none (c :: rest)).1 (pieces none (c :: rest)).2
    rw [pieces_cons, pieces_cons none]
    cases isAlphanumeric c with
    | false => rfl
    | true =>
      simp only [Bool.not_true, Bool.false_eq_true, if_false, Option.any_none]
      split <;> rfl

/-- The piece that continues a word is empty where the word does not go on. -/
theorem isEmpty_pieces (rest : List Char) (letter : isAlphanumeric c = true) :
    (pieces (some c) rest).1.isEmpty = !goesOn c rest := by
  cases rest with
  | nil => rfl
  | cons d rest =>
    rw [pieces_cons, Option.any_some, letter, Bool.true_and, goesOn]
    cases isAlphanumeric d with
    | false => rfl
    | true => cases startsWord c d rest.head? <;> rfl

/-- With one character more in front, it is left out, joins the first word or is a word of its own. -/
theorem words_cons (c : Char) (rest : List Char) :
    words (c :: rest) =
      if isAlphanumeric c then
        if goesOn c rest then (words rest).modifyHead (c :: ·) else [c] :: words rest
      else words rest := by
  rw [← closeWord_pieces (some c) rest, ← closeWord_pieces none (c :: rest), pieces_cons, Option.any_none]
  cases letter : isAlphanumeric c with
  | false => rfl
  | true =>
    have piece := isEmpty_pieces rest letter
    cases on : goesOn c rest with
    | true =>
      rw [on] at piece
      simp [closeWord, piece]
    | false =>
      rw [on] at piece
      simp [closeWord, List.isEmpty_iff.1 piece]

/-- The pieces of runs follow the equation that words follow. -/
theorem runPieces_cons (c : Char) (rest : List Char) :
    runPieces (c :: rest) =
      if isAlphanumeric c then
        if goesOn c rest then (runPieces rest).modifyHead (c :: ·) else [c] :: runPieces rest
      else runPieces rest := by
  have next : (placed rest).head?.any
      (fun y => !(!isAlphanumeric y.char) && !decide (IsCut ⟨c, rest.head?⟩ y)) = goesOn c rest := by
    cases rest with
    | nil => rfl
    | cons d rest =>
      show (!(!isAlphanumeric d) && !decide (IsCut ⟨c, some d⟩ ⟨d, rest.head?⟩)) = _
      rw [decide_isCut, Bool.not_not]
      rfl
  show (segments _ _ (⟨c, rest.head?⟩ :: placed rest)).map (·.map (·.char)) = _
  rw [segments_cons, next]
  cases isAlphanumeric c with
  | false => rfl
  | true =>
    cases goesOn c rest with
    | false => rfl
    | true =>
      show ((segments _ _ (placed rest)).modifyHead _).map _ =
        ((segments _ _ (placed rest)).map (·.map (·.char))).modifyHead _
      cases segments (fun x : Placed => !isAlphanumeric x.char) (fun x y => !decide (IsCut x y))
          (placed rest) <;> rfl

/-- The words of a text are the pieces of its runs. -/
theorem words_eq_runPieces (text : List Char) : words text = runPieces text := by
  induction text with
  | nil => rfl
  | cons c rest ih => rw [words_cons, runPieces_cons, ih]

example : runPieces "HTMLParser v2".toList =
    ["HTML".toList, "Parser".toList, "v".toList, "2".toList] := by
  decide +kernel

/-! ## What words are made of -/

theorem flatten_closeWord (piece : List Char) (more : List (List Char)) :
    (closeWord piece more).flatten = piece ++ more.flatten := by
  cases piece <;> rfl

theorem nil_notMem_closeWord {piece : List Char} {more : List (List Char)} :
    [] ∉ closeWord piece more ↔ [] ∉ more := by
  cases piece <;> simp [closeWord]

/-- A letter or number is put in front of the first word, or of none. -/
theorem words_of_letter (rest : List Char) (letter : isAlphanumeric c = true) :
    ∃ piece more, words rest = closeWord piece more ∧ words (c :: rest) = (c :: piece) :: more := by
  refine ⟨_, _, (closeWord_pieces (some c) rest).symm, ?_⟩
  rw [← closeWord_pieces none, pieces_cons, letter]
  rfl

/-- A separator in front makes no word. -/
theorem words_of_separator (mark : isAlphanumeric c = false) : words (c :: rest) = words rest := by
  rw [words_cons, mark]
  rfl

/-- A word is one of the text after the first character, or that character alone, or the character in front of a
word that goes on with it. -/
theorem mem_words_cons {w : List Char} (word : w ∈ words (c :: rest)) :
    w ∈ words rest ∨ w = [c] ∨
      ∃ d piece after, w = c :: d :: piece ∧ d :: piece ∈ words rest ∧ startsWord c d after = false := by
  rw [words_cons] at word
  cases letter : isAlphanumeric c with
  | false =>
    rw [letter] at word
    exact .inl word
  | true =>
    cases on : goesOn c rest with
    | false =>
      rw [letter, on] at word
      rcases List.mem_cons.1 word with alone | later
      · exact .inr (.inl alone)
      · exact .inl later
    | true =>
      cases rest with
      | nil => exact absurd on Bool.false_ne_true
      | cons d rest =>
        obtain ⟨follows, joins⟩ := Bool.and_eq_true_iff.1 on
        have uncut : startsWord c d rest.head? = false := Bool.not_eq_eq_eq_not.1 joins
        obtain ⟨piece, more, -, split⟩ := words_of_letter rest follows
        rw [letter, on, split] at word
        rw [split]
        rcases List.mem_cons.1 word with first | later
        · exact .inr (.inr ⟨d, piece, _, first, List.mem_cons_self, uncut⟩)
        · exact .inl (List.mem_cons_of_mem _ later)

/-- The words hold the letters and numbers of the text in order. -/
theorem flatten_words (text : List Char) : (words text).flatten = text.filter isAlphanumeric := by
  induction text with
  | nil => rfl
  | cons c rest ih =>
    cases letter : isAlphanumeric c with
    | false => rw [words_of_separator letter, ih, List.filter_cons_of_neg (by simp [letter])]
    | true =>
      obtain ⟨piece, more, kept, split⟩ := words_of_letter rest letter
      rw [kept, flatten_closeWord] at ih
      rw [split, List.filter_cons_of_pos letter, ← ih]
      rfl

/-- Words are not empty. -/
theorem nil_notMem_words (text : List Char) : [] ∉ words text := by
  induction text with
  | nil => exact List.not_mem_nil
  | cons c rest ih =>
    cases letter : isAlphanumeric c with
    | false => rwa [words_of_separator letter]
    | true =>
      obtain ⟨piece, more, kept, split⟩ := words_of_letter rest letter
      rw [kept, nil_notMem_closeWord] at ih
      rw [split]
      simpa using ih

/-- What stands in a word is a letter or number of the text. -/
theorem mem_of_mem_words {text w : List Char} (word : w ∈ words text) (member : c ∈ w) :
    c ∈ text ∧ isAlphanumeric c = true := by
  apply List.mem_filter.1
  rw [← flatten_words]
  exact List.mem_flatten_of_mem word member

end Redraw.Text
