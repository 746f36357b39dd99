import Redraw.Proofs.Json.Literal
import Redraw.Proofs.Json.Nesting
import Redraw.Proofs.Json.Quoted

/-!
# Documents read back

A layout puts blanks between the parts of a document: none at all where it is written compactly, line
ends and indentations where it is written on lines. However it is laid out, a document is read back
from its text, as long as it nests no deeper than is read and its floating-point numbers read back.
-/

namespace Redraw

/-- The number is a floating-point number. -/
def Number.isFloat : Number → Bool
  | .int _ _ => false
  | .float _ _ => true

namespace Json

mutual

/-- The numbers of a document, in their order. -/
def numbers : Json → List Number
  | .num n => [n]
  | .arr items => numbersItems items
  | .obj members => numbersMembers members
  | _ => []

/-- The numbers of the items. -/
def numbersItems : List Json → List Number
  | [] => []
  | item :: rest => item.numbers ++ numbersItems rest

/-- The numbers of the members. -/
def numbersMembers : List (String × Json) → List Number
  | [] => []
  | (_, value) :: rest => value.numbers ++ numbersMembers rest

end

theorem numbersItems_eq_nil {items : List Json} (all : ∀ item ∈ items, item.numbers = []) :
    numbersItems items = [] := by
  induction items with
  | nil => rfl
  | cons item rest ih =>
    rw [numbersItems, all item List.mem_cons_self,
      ih fun next later => all next (List.mem_cons_of_mem item later)]
    rfl

/-- Every floating-point number of the document is what its own text spells. -/
def FloatsReadBack (j : Json) : Prop := ∀ n ∈ j.numbers, n.isFloat = true → n.ReadsBack

instance (j : Json) : Decidable j.FloatsReadBack :=
  inferInstanceAs (Decidable (∀ n ∈ j.numbers, n.isFloat = true → n.ReadsBack))

/-- Integers read back in any case. -/
theorem FloatsReadBack.all {j : Json} (back : j.FloatsReadBack) : ∀ n ∈ j.numbers, n.ReadsBack := by
  intro n inside
  cases n with
  | int i fits => exact readsBack_int fits
  | float x finite => exact back _ inside rfl

/-- A document without numbers has none that could fail to read back. -/
theorem floatsReadBack_of_numbers_eq_nil {j : Json} (none : j.numbers = []) : j.FloatsReadBack := by
  intro n inside
  rw [none] at inside
  cases inside

/-! ## Layouts -/

/-- The blanks in front of items, members and closing brackets at a level, and those after a colon. -/
structure Layout where
  gap : Nat → List Char
  colon : List Char
  blank : ∀ level, ∀ c ∈ gap level, isBlank c = true
  blankColon : ∀ c ∈ colon, isBlank c = true

namespace Layout

/-- No blanks. -/
def compact : Layout where
  gap _ := []
  colon := []
  blank := by
    intro level c inside
    cases inside
  blankColon := by
    intro c inside
    cases inside

/-- A line for every item and member. -/
def pretty : Layout where
  gap := newLine
  colon := [' ']
  blank := by
    intro level c inside
    obtain rfl | indented := List.mem_cons.1 inside
    · rfl
    · obtain ⟨-, rfl⟩ := List.mem_replicate.1 indented
      rfl
  blankColon := by
    intro c inside
    obtain rfl := List.mem_singleton.1 inside
    rfl

variable (l : Layout)

mutual

/-- The document as text, from a level on. -/
def chars (level : Nat) : Json → List Char
  | .arr [] => ['[', ']']
  | .arr (item :: rest) =>
    '[' :: (l.gap (level + 1) ++ (chars (level + 1) item ++ items level rest))
  | .obj [] => ['\x7b', '\x7d']
  | .obj ((name, value) :: rest) =>
    '\x7b' :: (l.gap (level + 1) ++ (quotedChars name ++ ':' ::
      (l.colon ++ (chars (level + 1) value ++ members level rest))))
  | .null => ['n', 'u', 'l', 'l']
  | .bool true => ['t', 'r', 'u', 'e']
  | .bool false => ['f', 'a', 'l', 's', 'e']
  | .num n => n.chars
  | .str s => quotedChars s
  | .unreadable => ['n', 'u', 'l', 'l']

/-- The items of an array after the first one, with the closing bracket. -/
def items (level : Nat) : List Json → List Char
  | [] => l.gap level ++ [']']
  | item :: rest => ',' :: (l.gap (level + 1) ++ (chars (level + 1) item ++ items level rest))

/-- The members of an object after the first one, with the closing brace. -/
def members (level : Nat) : List (String × Json) → List Char
  | [] => l.gap level ++ ['\x7d']
  | (name, value) :: rest =>
    ',' :: (l.gap (level + 1) ++ (quotedChars name ++ ':' ::
      (l.colon ++ (chars (level + 1) value ++ members level rest))))

end

mutual

theorem chars_compact : ∀ (level : Nat) (j : Json), compact.chars level j = j.compactChars
  | _, .arr [] | _, .obj [] | _, .null | _, .bool true | _, .bool false | _, .num _ | _, .str _
  | _, .unreadable => rfl
  | level, .arr (item :: rest) => by
    rw [chars, chars_compact (level + 1) item, items_compact level rest]
    rfl
  | level, .obj ((name, value) :: rest) => by
    rw [chars, chars_compact (level + 1) value, members_compact level rest]
    rfl

theorem items_compact : ∀ (level : Nat) (rest : List Json),
    compact.items level rest = compactMoreItems rest
  | _, [] => rfl
  | level, item :: rest => by
    rw [items, chars_compact (level + 1) item, items_compact level rest]
    rfl

theorem members_compact : ∀ (level : Nat) (rest : List (String × Json)),
    compact.members level rest = compactMoreMembers rest
  | _, [] => rfl
  | level, (name, value) :: rest => by
    rw [members, chars_compact (level + 1) value, members_compact level rest]
    rfl

end

mutual

theorem chars_pretty : ∀ (level : Nat) (j : Json), pretty.chars level j = j.prettyChars level
  | _, .arr [] | _, .obj [] | _, .null | _, .bool true | _, .bool false | _, .num _ | _, .str _
  | _, .unreadable => rfl
  | level, .arr (item :: rest) => by
    rw [chars, chars_pretty (level + 1) item, items_pretty level rest]
    rfl
  | level, .obj ((name, value) :: rest) => by
    rw [chars, chars_pretty (level + 1) value, members_pretty level rest]
    rfl

theorem items_pretty : ∀ (level : Nat) (rest : List Json),
    pretty.items level rest = prettyItems level rest
  | _, [] => rfl
  | level, item :: rest => by
    rw [items, chars_pretty (level + 1) item, items_pretty level rest]
    rfl

theorem members_pretty : ∀ (level : Nat) (rest : List (String × Json)),
    pretty.members level rest = prettyMembers level rest
  | _, [] => rfl
  | level, (name, value) :: rest => by
    rw [members, chars_pretty (level + 1) value, members_pretty level rest]
    rfl

end

end Layout

/-! ## Blanks are skipped -/

theorem skipBlanks_gap {gap : List Char} (blank : ∀ c ∈ gap, isBlank c = true) (s : List Char) :
    skipBlanks (gap ++ s) = skipBlanks s :=
  List.dropWhile_append_of_pos blank

theorem skipBlanks_gap_cons {gap : List Char} (blank : ∀ c ∈ gap, isBlank c = true) {c : Char}
    (shown : isBlank c = false) (s : List Char) : skipBlanks (gap ++ c :: s) = c :: s := by
  rw [skipBlanks_gap blank]
  refine skipBlanks_eq_self fun d first => ?_
  cases first
  exact shown

theorem scanValue_gap {gap : List Char} (blank : ∀ c ∈ gap, isBlank c = true) (fuel : Nat)
    (s : List Char) : scanValue fuel (gap ++ s) = scanValue fuel s := by
  cases fuel with
  | zero => rfl
  | succ fuel =>
    unfold scanValue
    rw [skipBlanks_gap blank]

/-- Blanks and what closes or separates delimit a number. -/
theorem delimits_gap {gap : List Char} (blank : ∀ c ∈ gap, isBlank c = true) {c : Char}
    (other : isNumeral c = false) (s : List Char) : Delimits (gap ++ c :: s) := by
  cases gap with
  | nil => exact delimits_cons other
  | cons d gap =>
    refine delimits_cons ?_
    cases numeral : isNumeral d with
    | false => rfl
    | true =>
      have shown := not_isBlank_of_isNumeral numeral
      rw [blank d List.mem_cons_self] at shown
      cases shown

/-! ## Reading -/

/-- The members with their names as code points. -/
def unitMembers (members : List (String × Json)) : List (List Nat × Json) :=
  members.map fun m => (m.1.toList.map Char.toNat, m.2)

/-- They are those of the object. -/
theorem ofMembers_unitMembers (members : List (String × Json)) :
    ofMembers (unitMembers members) = .obj members := by
  have texts : ∀ f : List Nat × Json → Option (String × Json),
      (∀ m, f m = (textOf? m.1).map (·, m.2)) → (unitMembers members).mapM f = some members := by
    intro f same
    induction members with
    | nil => rfl
    | cons member rest ih =>
      change (_ :: unitMembers rest).mapM f = _
      rw [List.mapM_cons, ih, same, textOf?_toNat]
      rfl
  unfold ofMembers
  rw [texts _ fun _ => rfl]

theorem scanValue_quoted (s : String) (t : List Char) (fuel : Nat) :
    scanValue (fuel + 1) (quotedChars s ++ t) = some (.str s, t) := by
  obtain ⟨inner, quoted, scanned⟩ := scanText_quotedChars s t
  have quote : scanValue (fuel + 1) ('"' :: inner) =
      (scanText inner).map fun x => (ofUnits x.1, x.2) := rfl
  rw [quoted, quote, scanned, Option.map_some, ofUnits, textOf?_toNat]

/-- Behind a bracket that does not close at once there are items. -/
theorem scanValue_bracket {s r : List Char} {c : Char} (start : skipBlanks s = c :: r) (more : c ≠ ']')
    (fuel : Nat) :
    scanValue (fuel + 1) ('[' :: s) = (scanItems fuel (c :: r)).map fun x => (.arr x.1, x.2) := by
  have bracket : skipBlanks ('[' :: s) = '[' :: s := rfl
  simp only [scanValue, bracket, start]
  split
  · next same => exact absurd (List.cons.inj same).1 more
  · rfl

/-- Behind a brace that does not close at once there are members. -/
theorem scanValue_brace {s r : List Char} {c : Char} (start : skipBlanks s = c :: r)
    (more : c ≠ '\x7d') (fuel : Nat) :
    scanValue (fuel + 1) ('\x7b' :: s) =
      (scanMembers fuel (c :: r)).map fun x => (ofMembers x.1, x.2) := by
  have brace : skipBlanks ('\x7b' :: s) = '\x7b' :: s := rfl
  simp only [scanValue, brace, start]
  split
  · next same => exact absurd (List.cons.inj same).1 more
  · rfl

/-- After the last item the array is closed. -/
theorem scanItems_last {s rest t : List Char} {item : Json} {fuel : Nat}
    (found : scanValue fuel s = some (item, rest)) (close : skipBlanks rest = ']' :: t) :
    scanItems (fuel + 1) s = some ([item], t) := by
  simp only [scanItems, found, close]

/-- After a comma the items go on. -/
theorem scanItems_comma {s rest r t : List Char} {item : Json} {items : List Json} {fuel : Nat}
    (found : scanValue fuel s = some (item, rest)) (comma : skipBlanks rest = ',' :: r)
    (more : scanItems fuel r = some (items, t)) :
    scanItems (fuel + 1) s = some (item :: items, t) := by
  simp only [scanItems, found, comma, more, Option.map_some]

/-- After the last member the object is closed. -/
theorem scanMembers_last {name : String} {s rest t : List Char} {value : Json} {fuel : Nat}
    (found : scanValue fuel s = some (value, rest)) (close : skipBlanks rest = '\x7d' :: t) :
    scanMembers (fuel + 1) (quotedChars name ++ ':' :: s) =
      some ([(name.toList.map Char.toNat, value)], t) := by
  obtain ⟨inner, quoted, scanned⟩ := scanText_quotedChars name (':' :: s)
  have quote : skipBlanks ('"' :: inner) = '"' :: inner := rfl
  have colon : skipBlanks (':' :: s) = ':' :: s := rfl
  rw [quoted]
  simp only [scanMembers, quote, scanned, colon, found, close]

/-- After a comma the members go on. -/
theorem scanMembers_comma {name : String} {s rest r t : List Char} {value : Json}
    {members : List (List Nat × Json)} {fuel : Nat}
    (found : scanValue fuel s = some (value, rest)) (comma : skipBlanks rest = ',' :: r)
    (more : scanMembers fuel r = some (members, t)) :
    scanMembers (fuel + 1) (quotedChars name ++ ':' :: s) =
      some ((name.toList.map Char.toNat, value) :: members, t) := by
  obtain ⟨inner, quoted, scanned⟩ := scanText_quotedChars name (':' :: s)
  have quote : skipBlanks ('"' :: inner) = '"' :: inner := rfl
  have colon : skipBlanks (':' :: s) = ':' :: s := rfl
  rw [quoted]
  simp only [scanMembers, quote, scanned, colon, found, comma, more, Option.map_some]

/-- Blanks in front of a name are skipped. -/
theorem scanMembers_gap {gap : List Char} (blank : ∀ c ∈ gap, isBlank c = true) (fuel : Nat)
    (s : List Char) : scanMembers fuel (gap ++ s) = scanMembers fuel s := by
  cases fuel with
  | zero => rfl
  | succ fuel =>
    unfold scanMembers
    rw [skipBlanks_gap blank]

namespace Layout

variable (l : Layout)

/-- A document starts with a character that is neither blank nor closes an array. -/
theorem chars_head {j : Json} (back : ∀ n ∈ j.numbers, n.ReadsBack) (level : Nat) :
    ∃ c s, l.chars level j = c :: s ∧ isBlank c = false ∧ c ≠ ']' := by
  cases j with
  | null => exact ⟨_, _, rfl, rfl, by decide⟩
  | bool b => cases b <;> exact ⟨_, _, rfl, rfl, by decide⟩
  | str s => exact ⟨_, _, rfl, rfl, by decide⟩
  | arr items => cases items <;> exact ⟨_, _, rfl, rfl, by decide⟩
  | obj members => cases members <;> exact ⟨_, _, rfl, rfl, by decide⟩
  | unreadable => exact ⟨_, _, rfl, rfl, by decide⟩
  | num n =>
    obtain ⟨literal, found, -⟩ := readsBack_iff.1 (back n List.mem_cons_self)
    cases start : n.chars with
    | nil =>
      rw [start] at found
      cases found
    | cons c s =>
      have numeral : isNumeral c = true := isNumeral_chars (by rw [start]; exact List.mem_cons_self)
      refine ⟨c, s, start, not_isBlank_of_isNumeral numeral, ?_⟩
      rintro rfl
      cases numeral

theorem delimits_items (level : Nat) (rest : List Json) (t : List Char) :
    Delimits (l.items level rest ++ t) := by
  cases rest with
  | nil =>
    rw [items, List.append_assoc]
    exact delimits_gap (l.blank level) rfl t
  | cons item rest => exact delimits_cons rfl

theorem delimits_members (level : Nat) (rest : List (String × Json)) (t : List Char) :
    Delimits (l.members level rest ++ t) := by
  cases rest with
  | nil =>
    rw [members, List.append_assoc]
    exact delimits_gap (l.blank level) rfl t
  | cons member rest => exact delimits_cons rfl

/-- What follows an item is never empty. -/
theorem items_pos (level : Nat) (rest : List Json) : 0 < (l.items level rest).length := by
  cases rest with
  | nil =>
    rw [items, List.length_append]
    exact Nat.succ_pos _
  | cons item rest => exact Nat.succ_pos _

/-- What follows a member is never empty. -/
theorem members_pos (level : Nat) (rest : List (String × Json)) :
    0 < (l.members level rest).length := by
  cases rest with
  | nil =>
    rw [members, List.length_append]
    exact Nat.succ_pos _
  | cons member rest => exact Nat.succ_pos _

mutual

/-- A document is read from its characters, and what delimits them is left. The length of the
characters is fuel enough. -/
theorem scanValue_chars : ∀ {j : Json} {level fuel : Nat} {t : List Char}, j.readable = true →
    (∀ n ∈ j.numbers, n.ReadsBack) → (l.chars level j).length ≤ fuel → Delimits t →
      scanValue fuel (l.chars level j ++ t) = some (j, t)
  | j, level, 0, _, _, back, enough, _ => by
    obtain ⟨c, s, start, -⟩ := l.chars_head back level
    rw [start] at enough
    cases enough
  | .null, _, fuel + 1, _, _, _, _, _ => rfl
  | .bool true, _, fuel + 1, _, _, _, _, _ => rfl
  | .bool false, _, fuel + 1, _, _, _, _, _ => rfl
  | .num n, _, fuel + 1, _, _, back, _, ends =>
    Json.scanValue_chars (back n List.mem_cons_self) ends fuel
  | .str s, _, fuel + 1, t, _, _, _, _ => scanValue_quoted s t fuel
  | .arr [], _, fuel + 1, _, _, _, _, _ => rfl
  | .obj [], _, fuel + 1, _, _, _, _, _ => rfl
  | .unreadable, _, _ + 1, _, names, _, _, _ => by cases names
  | .arr (item :: rest), level, fuel + 1, t, all, back, enough, _ => by
    simp only [readable, readableItems, Bool.and_eq_true] at all
    obtain ⟨backItem, backRest⟩ := List.forall_mem_append.1 back
    obtain ⟨c, s, start, shown, more⟩ := l.chars_head backItem (level + 1)
    have item_pos : 0 < (l.chars (level + 1) item).length := by
      rw [start]
      exact Nat.succ_pos _
    have pos := l.items_pos level rest
    rw [chars, List.length_cons, List.length_append, List.length_append] at enough
    obtain ⟨fuel, rfl⟩ : ∃ k, fuel = k + 1 := ⟨fuel - 1, by omega⟩
    have first : scanValue fuel (l.chars (level + 1) item ++ (l.items level rest ++ t)) =
        some (item, l.items level rest ++ t) :=
      scanValue_chars all.1 backItem (by omega) (l.delimits_items level rest t)
    have found := scanItems_items all.2 backRest (by omega) first
    rw [chars, List.cons_append, List.append_assoc, List.append_assoc]
    rw [start, List.cons_append] at found ⊢
    rw [scanValue_bracket (skipBlanks_gap_cons (l.blank (level + 1)) shown _) more, found]
    rfl
  | .obj ((name, value) :: rest), level, fuel + 1, t, all, back, enough, _ => by
    simp only [readable, readableMembers, Bool.and_eq_true] at all
    obtain ⟨backValue, backRest⟩ := List.forall_mem_append.1 back
    rw [chars] at enough
    simp only [List.length_cons, List.length_append] at enough
    have pos := l.members_pos level rest
    obtain ⟨fuel, rfl⟩ : ∃ k, fuel = k + 1 := ⟨fuel - 1, by omega⟩
    have first : scanValue fuel (l.chars (level + 1) value ++ (l.members level rest ++ t)) =
        some (value, l.members level rest ++ t) :=
      scanValue_chars all.1 backValue (by omega) (l.delimits_members level rest t)
    rw [← scanValue_gap l.blankColon] at first
    have found := scanMembers_members name all.2 backRest (by omega) first
    obtain ⟨inner, quoted, -⟩ := scanText_quotedChars name
      (':' :: (l.colon ++ (l.chars (level + 1) value ++ (l.members level rest ++ t))))
    have text : l.chars level (.obj ((name, value) :: rest)) ++ t =
        '\x7b' :: (l.gap (level + 1) ++ '"' :: inner) := by
      rw [← quoted, chars]
      simp only [List.cons_append, List.append_assoc]
    rw [quoted] at found
    rw [text, scanValue_brace (skipBlanks_gap_cons (l.blank (level + 1)) rfl _) (by decide), found]
    exact congrArg some (Prod.ext (ofMembers_unitMembers ((name, value) :: rest)) rfl)

/-- After one item the others are read. -/
theorem scanItems_items : ∀ {rest : List Json} {item : Json} {level fuel : Nat} {s t : List Char},
    readableItems rest = true → (∀ n ∈ numbersItems rest, n.ReadsBack) →
      (l.items level rest).length ≤ fuel →
      scanValue fuel s = some (item, l.items level rest ++ t) →
      scanItems (fuel + 1) s = some (item :: rest, t)
  | [], item, level, _, _, t, _, _, _, found => by
    refine scanItems_last found ?_
    rw [items, List.append_assoc, List.singleton_append, skipBlanks_gap_cons (l.blank level) rfl]
  | next :: rest, _, level, 0, _, _, _, _, enough, _ => by cases enough
  | next :: rest, item, level, fuel + 1, s, t, all, back, enough, found => by
    simp only [readableItems, Bool.and_eq_true] at all
    obtain ⟨backNext, backRest⟩ := List.forall_mem_append.1 back
    rw [items, List.length_cons, List.length_append, List.length_append] at enough
    have first : scanValue fuel (l.chars (level + 1) next ++ (l.items level rest ++ t)) =
        some (next, l.items level rest ++ t) :=
      scanValue_chars all.1 backNext (by omega) (l.delimits_items level rest t)
    rw [← scanValue_gap (l.blank (level + 1))] at first
    have more := scanItems_items all.2 backRest (by omega) first
    refine scanItems_comma found ?_ more
    rw [items, List.cons_append, List.append_assoc, List.append_assoc]
    rfl

/-- After one member the others are read. -/
theorem scanMembers_members : ∀ {rest : List (String × Json)} (name : String) {value : Json}
    {level fuel : Nat} {s t : List Char}, readableMembers rest = true →
      (∀ n ∈ numbersMembers rest, n.ReadsBack) → (l.members level rest).length ≤ fuel →
      scanValue fuel s = some (value, l.members level rest ++ t) →
      scanMembers (fuel + 1) (quotedChars name ++ ':' :: s) =
        some (unitMembers ((name, value) :: rest), t)
  | [], _, _, level, _, _, t, _, _, _, found => by
    refine scanMembers_last found ?_
    rw [members, List.append_assoc, List.singleton_append, skipBlanks_gap_cons (l.blank level) rfl]
  | (_, _) :: _, _, _, _, 0, _, _, _, _, enough, _ => by cases enough
  | (next, nextValue) :: rest, name, value, level, fuel + 1, s, t, all, back, enough, found => by
    simp only [readableMembers, Bool.and_eq_true] at all
    obtain ⟨backNext, backRest⟩ := List.forall_mem_append.1 back
    rw [members] at enough
    simp only [List.length_cons, List.length_append] at enough
    have first : scanValue fuel (l.chars (level + 1) nextValue ++ (l.members level rest ++ t)) =
        some (nextValue, l.members level rest ++ t) :=
      scanValue_chars all.1 backNext (by omega) (l.delimits_members level rest t)
    rw [← scanValue_gap l.blankColon] at first
    have more := scanMembers_members next all.2 backRest (by omega) first
    rw [← scanMembers_gap (l.blank (level + 1))] at more
    refine scanMembers_comma found ?_ more
    rw [members]
    simp only [List.cons_append, List.append_assoc]
    rfl

end

/-- However a document is laid out, it is read back. -/
theorem read?_chars {j : Json} (readable : j.readable = true) (shallow : j.depth ≤ nestingLimit)
    (back : j.FloatsReadBack) : read? (String.ofList (l.chars 0 j)) = some j := by
  have found := l.scanValue_chars readable back.all (Nat.le_succ (l.chars 0 j).length) delimits_nil
  rw [List.append_nil] at found
  unfold read?
  rw [String.toList_ofList]
  dsimp only
  rw [found]
  exact congrArg some (cut_of_depth_le shallow)

end Layout

theorem read?_compact {j : Json} (readable : j.readable = true) (shallow : j.depth ≤ nestingLimit)
    (back : j.FloatsReadBack) : read? j.compact = some j := by
  rw [compact, ← Layout.chars_compact 0 j]
  exact Layout.compact.read?_chars readable shallow back

theorem read?_pretty {j : Json} (readable : j.readable = true) (shallow : j.depth ≤ nestingLimit)
    (back : j.FloatsReadBack) : read? j.pretty = some j := by
  rw [pretty, ← Layout.chars_pretty 0 j]
  exact Layout.pretty.read?_chars readable shallow back

end Json

end Redraw
