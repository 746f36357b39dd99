import Redraw.Json.Reader
import Redraw.Json.Text

/-!
# Numbers in their place

A number literal that is read on its own is read the same in front of anything that does not continue
it. `Number.ReadsBack` says that a number is what its own text spells. It holds of every integer; of a
floating-point number it may fail, as literals of many digits are read inexactly.
-/

namespace Redraw

namespace Json

open Decimal (Literal)

/-! ## Scanners look no further than they read -/

/-- The character occurs in number literals. -/
def isNumeral (c : Char) : Bool :=
  c.isDigit || c = '-' || c = '+' || c = '.' || c = 'e' || c = 'E'

/-- The characters do not continue a number literal. -/
def Delimits (s : List Char) : Prop := ∀ c ∈ s.head?, isNumeral c = false

theorem delimits_nil : Delimits [] := by
  intro c first
  cases first

theorem delimits_cons {c : Char} {s : List Char} (other : isNumeral c = false) :
    Delimits (c :: s) := by
  intro d first
  cases first
  exact other

/-- What the scanner leaves is an end of what it was given, and it does not look into what delimits
it. -/
structure Steady {α : Type} (scan : List Char → Option (α × List Char)) : Prop where
  suffix : ∀ {s r a}, scan s = some (a, r) → r <:+ s
  append : ∀ {s r t a}, scan s = some (a, r) → Delimits t → scan (s ++ t) = some (a, r ++ t)

/-- Steady scanners one after the other are steady. -/
theorem Steady.bind {α β : Type} {p : List Char → Option (α × List Char)}
    {q : α → List Char → Option (β × List Char)} (first : Steady p) (second : ∀ a, Steady (q a)) :
    Steady fun s => (p s).bind fun x => q x.1 x.2 where
  suffix := by
    intro s r b scanned
    obtain ⟨⟨a, m⟩, left, right⟩ := Option.bind_eq_some_iff.1 scanned
    exact ((second a).suffix right).trans (first.suffix left)
  append := by
    intro s r t b scanned ends
    obtain ⟨⟨a, m⟩, left, right⟩ := Option.bind_eq_some_iff.1 scanned
    exact Option.bind_eq_some_iff.2
      ⟨(a, m ++ t), first.append left ends, (second a).append right ends⟩

theorem Steady.pure {α : Type} (a : α) : Steady fun s => some (a, s) where
  suffix := by
    intro s r b scanned
    cases scanned
    exact List.suffix_rfl
  append := by
    intro s r t b scanned ends
    cases scanned
    rfl

theorem Steady.of_eq {α : Type} {p q : List Char → Option (α × List Char)} (steady : Steady p)
    (same : ∀ s, q s = p s) : Steady q := by
  rw [funext same]
  exact steady

/-- What scanning digits leaves is the end of the text. -/
theorem scanDigits_suffix (s : List Char) : (scanDigits s).2 <:+ s := by
  induction s with
  | nil => exact List.suffix_rfl
  | cons c s ih =>
    unfold scanDigits
    split
    · exact ih.trans (List.suffix_cons c s)
    · exact List.suffix_rfl

/-- Digits end where the text ends, if what follows does not go on with a number. -/
theorem scanDigits_append {t : List Char} (ends : Delimits t) (s : List Char) :
    scanDigits (s ++ t) = ((scanDigits s).1, (scanDigits s).2 ++ t) := by
  induction s with
  | nil =>
    cases t with
    | nil => rfl
    | cons c t =>
      have other : c.isDigit = false := by
        have numeral := ends c rfl
        simp only [isNumeral, Bool.or_eq_false_iff] at numeral
        exact numeral.1.1.1.1.1
      simp [scanDigits, other]
  | cons c s ih =>
    simp only [List.cons_append, scanDigits, ih]
    split <;> rfl

/-- A whole part has a digit, and no zero in front of others. -/
theorem scanWhole_eq_some {s r : List Char} {digits : List Nat} :
    scanWhole s = some (digits, r) ↔
      scanDigits s = (digits, r) ∧ digits ≠ [] ∧ ∀ d ds, digits ≠ 0 :: d :: ds := by
  unfold scanWhole
  split
  · next found =>
    rw [found]
    constructor
    · intro none
      cases none
    · rintro ⟨same, some, -⟩
      cases same
      exact absurd rfl some
  · next found =>
    rw [found]
    constructor
    · intro none
      cases none
    · rintro ⟨same, -, strict⟩
      cases same
      exact absurd rfl (strict _ _)
  · next some strict found =>
    rw [found]
    constructor
    · intro same
      cases same
      exact ⟨rfl, some, strict⟩
    · rintro ⟨same, -, -⟩
      cases same
      rfl

theorem steady_whole : Steady scanWhole where
  suffix := by
    intro s r digits scanned
    have left := scanDigits_suffix s
    rwa [(scanWhole_eq_some.1 scanned).1] at left
  append := by
    intro s r t digits scanned ends
    obtain ⟨found, some, strict⟩ := scanWhole_eq_some.1 scanned
    have longer := scanDigits_append ends s
    rw [found] at longer
    exact scanWhole_eq_some.2 ⟨longer, some, strict⟩

/-- At least one digit is read. -/
theorem steady_digits {α : Type} (make : List Nat → α) :
    Steady fun s =>
      match scanDigits s with
      | ([], _) => none
      | (digits, rest) => some (make digits, rest) where
  suffix := by
    intro s r a scanned
    have left := scanDigits_suffix s
    generalize scanDigits s = found at scanned left
    obtain ⟨digits, rest⟩ := found
    cases digits with
    | nil => cases scanned
    | cons d ds =>
      cases scanned
      exact left
  append := by
    intro s r t a scanned ends
    rw [scanDigits_append ends]
    generalize scanDigits s = found at scanned
    obtain ⟨digits, rest⟩ := found
    cases digits with
    | nil => cases scanned
    | cons d ds =>
      cases scanned
      rfl

/-- Making something of what was scanned keeps a scanner steady. -/
theorem Steady.map {α β : Type} {p : List Char → Option (α × List Char)} (first : Steady p)
    (make : α → β) : Steady fun s => (p s).map fun x => (make x.1, x.2) := by
  have same : (fun s => (p s).map fun x => (make x.1, x.2)) =
      fun s => (p s).bind fun x => some (make x.1, x.2) := by
    funext s
    cases p s <;> rfl
  rw [same]
  exact first.bind fun a => .pure (make a)

theorem head?_ne {s : List Char} {mark : Char} (plain : ∀ r, s ≠ mark :: r) :
    ¬ s.head? = some mark := by
  intro first
  cases s with
  | nil => cases first
  | cons c s =>
    cases first
    exact plain s rfl

/-- A mark may stand in front. -/
theorem Steady.mark {α : Type} {p q : List Char → Option (α × List Char)} (mark : Char)
    (numeral : isNumeral mark = true) (behind : Steady p) (without : Steady q) :
    Steady fun s => if s.head? = some mark then p s.tail else q s where
  suffix := by
    intro s r a scanned
    split at scanned
    · exact (behind.suffix scanned).trans (List.tail_suffix s)
    · exact without.suffix scanned
  append := by
    intro s r t a scanned ends
    cases s with
    | nil =>
      -- The mark is none of the characters that may follow.
      have other : ¬ t.head? = some mark := by
        intro first
        have ended := ends mark first
        rw [numeral] at ended
        cases ended
      rw [if_neg (by simp)] at scanned
      rw [List.nil_append, if_neg other]
      exact without.append scanned ends
    | cons c s =>
      by_cases first : c = mark
      · have marked : ∀ l : List Char, (c :: l).head? = some mark := fun _ => congrArg some first
        rw [if_pos (marked s)] at scanned
        rw [List.cons_append, if_pos (marked (s ++ t))]
        exact behind.append scanned ends
      · have other : ∀ l : List Char, ¬ (c :: l).head? = some mark := fun l same =>
          first (Option.some.inj same)
        rw [if_neg (other s)] at scanned
        rw [List.cons_append, if_neg (other (s ++ t))]
        exact without.append scanned ends

/-- A fraction is a point with digits behind it, or nothing. -/
theorem steady_fraction : Steady scanFraction := by
  refine (Steady.mark '.' rfl (steady_digits some) (.pure none)).of_eq fun s => ?_
  unfold scanFraction
  split
  · rfl
  · next plain => exact (if_neg (head?_ne plain)).symm

theorem steady_sign : Steady fun s => some (scanSign s) := by
  have minus := Steady.mark '-' rfl (.pure true) (.pure false)
  refine (Steady.mark '+' rfl (.pure false) minus).of_eq fun s => ?_
  unfold scanSign
  split
  · rfl
  · rfl
  · next plus minus => rw [if_neg (head?_ne plus), if_neg (head?_ne minus)]

theorem steady_power : Steady scanPower :=
  steady_sign.bind fun negative =>
    steady_digits fun digits => if negative then -(spelled digits : Int) else spelled digits

/-- An exponent is its mark with a sign and digits behind it, or nothing. -/
theorem steady_exponent : Steady scanExponent := by
  have upper := Steady.mark 'E' rfl (steady_power.map some) (.pure none)
  refine (Steady.mark 'e' rfl (steady_power.map some) upper).of_eq fun s => ?_
  unfold scanExponent
  split
  · rfl
  · rfl
  · next lower upper => rw [if_neg (head?_ne lower), if_neg (head?_ne upper)]

theorem steady_magnitude (negative : Bool) : Steady (scanMagnitude negative) :=
  steady_whole.bind fun whole => steady_fraction.bind fun fraction =>
    steady_exponent.bind fun exponent =>
      .pure (⟨negative, whole, fraction, exponent⟩ : Literal)

/-- A number is scanned the same way whatever follows, as long as that does not go on with it. -/
theorem steady_number : Steady scanNumber := by
  refine (Steady.mark '-' rfl (steady_magnitude true) (steady_magnitude false)).of_eq fun s => ?_
  unfold scanNumber
  split
  · rfl
  · next plain => exact (if_neg (head?_ne plain)).symm

/-! ## The characters of a number -/

theorem isNumeral_of_isDigit {c : Char} (digit : c.isDigit = true) : isNumeral c = true := by
  simp [isNumeral, digit]

theorem isDigit_naturalText {n : Nat} {c : Char} (inside : c ∈ Decimal.naturalText n) :
    c.isDigit = true :=
  Nat.isDigit_of_mem_toDigits (by decide) (by decide) inside

theorem isNumeral_naturalText {n : Nat} {c : Char} (inside : c ∈ Decimal.naturalText n) :
    isNumeral c = true :=
  isNumeral_of_isDigit (isDigit_naturalText inside)

/-- Positional notation has digits, zeros and a point only. -/
theorem isNumeral_positional {digits : List Char} (numeral : ∀ c ∈ digits, isNumeral c = true)
    {lead : Int} {c : Char} (inside : c ∈ Decimal.positional digits lead) : isNumeral c = true := by
  unfold Decimal.positional at inside
  split at inside
  · simp only [List.mem_append, List.mem_cons, List.not_mem_nil, or_false, List.mem_replicate] at inside
    obtain ((rfl | rfl) | ⟨-, rfl⟩) | known := inside
    · rfl
    · rfl
    · rfl
    · exact numeral c known
  · simp only [List.mem_append, List.mem_cons, List.mem_replicate] at inside
    obtain (known | ⟨-, rfl⟩) | rfl | known := inside
    · exact numeral c (List.mem_of_mem_take known)
    · rfl
    · rfl
    · split at known
      · obtain rfl := List.mem_singleton.1 known
        rfl
      · exact numeral c (List.mem_of_mem_drop known)

/-- Scientific notation has digits, a point, the mark of the exponent and its sign only. -/
theorem isNumeral_scientific {digits : List Char} (numeral : ∀ c ∈ digits, isNumeral c = true)
    {lead : Int} {c : Char} (inside : c ∈ Decimal.scientific digits lead) : isNumeral c = true := by
  simp only [Decimal.scientific, List.mem_append, List.mem_cons, List.not_mem_nil, or_false] at inside
  obtain ((known | known) | rfl | rfl) | known := inside
  · exact numeral c (List.mem_of_mem_take known)
  · split at known
    · cases known
    · obtain rfl | known := List.mem_cons.1 known
      · rfl
      · exact numeral c (List.mem_of_mem_drop known)
  · rfl
  · split <;> rfl
  · exact isNumeral_naturalText known

theorem isNumeral_floatText {x : Float} {c : Char} (inside : c ∈ Decimal.floatText x) :
    isNumeral c = true := by
  obtain sign | magnitude := List.mem_append.1 inside
  · split at sign
    · obtain rfl := List.mem_singleton.1 sign
      rfl
    · cases sign
  · unfold Decimal.Magnitude.text at magnitude
    split at magnitude
    · simp only [List.mem_cons, List.not_mem_nil, or_false] at magnitude
      obtain rfl | rfl | rfl := magnitude <;> rfl
    · unfold Decimal.Digits.text at magnitude
      dsimp only at magnitude
      split at magnitude
      · exact isNumeral_positional (fun _ => isNumeral_naturalText) magnitude
      · exact isNumeral_scientific (fun _ => isNumeral_naturalText) magnitude

theorem isNumeral_integerText {i : Int} {c : Char} (inside : c ∈ Decimal.integerText i) :
    isNumeral c = true := by
  obtain sign | magnitude := List.mem_append.1 inside
  · split at sign
    · obtain rfl := List.mem_singleton.1 sign
      rfl
    · cases sign
  · exact isNumeral_naturalText magnitude

/-- Every character of a written number can stand in a number. -/
theorem isNumeral_chars {n : Number} {c : Char} (inside : c ∈ n.chars) : isNumeral c = true := by
  cases n with
  | int i fits => exact isNumeral_integerText inside
  | float x finite => exact isNumeral_floatText inside

/-! ## A number and its text -/

/-- The number that a document is. -/
def number? : Json → Option Number
  | .num n => some n
  | _ => none

/-- Numbers are not nested, so cutting keeps them and makes no others. -/
theorem number?_cut {j : Json} {limit : Nat} {n : Number} (found : (j.cut limit).number? = some n) :
    j = .num n := by
  cases j with
  | num m =>
    cases limit <;> exact congrArg Json.num (Option.some.inj found)
  | null => cases limit <;> cases found
  | bool b => cases limit <;> cases found
  | str s => cases limit <;> cases found
  | arr items => cases limit <;> cases found
  | obj members => cases limit <;> cases found
  | unreadable => cases limit <;> cases found

theorem not_isBlank_of_isNumeral {c : Char} (numeral : isNumeral c = true) : isBlank c = false := by
  cases blank : isBlank c with
  | false => rfl
  | true =>
    simp only [isBlank, Bool.or_eq_true, decide_eq_true_eq] at blank
    obtain ((rfl | rfl) | rfl) | rfl := blank <;> cases numeral

/-- A text that does not start with a blank has none to skip. -/
theorem skipBlanks_eq_self {s : List Char} (shown : ∀ c ∈ s.head?, isBlank c = false) :
    skipBlanks s = s := by
  cases s with
  | nil => rfl
  | cons c s => exact List.dropWhile_cons_of_neg (by rw [shown c rfl]; exact Bool.false_ne_true)

/-- Characters that start like a number literal are read as one. -/
theorem scanValue_of_numeral {s : List Char} (numeral : ∀ c ∈ s.head?, isNumeral c = true)
    (fuel : Nat) :
    scanValue (fuel + 1) s = (scanNumber s).map fun x => (ofLiteral x.1, x.2) := by
  have shown : skipBlanks s = s :=
    skipBlanks_eq_self fun c first => not_isBlank_of_isNumeral (numeral c first)
  unfold scanValue
  rw [shown]
  split
  · cases numeral _ rfl
  · cases numeral _ rfl
  · cases numeral _ rfl
  · cases numeral _ rfl
  · cases numeral _ rfl
  · cases numeral _ rfl
  · rfl

end Json

/-- The number is what its own text spells. -/
def Number.ReadsBack (n : Number) : Prop :=
  (Json.read? (Json.compact (.num n))).bind Json.number? = some n

instance (n : Number) : Decidable n.ReadsBack := inferInstanceAs (Decidable (_ = _))

namespace Json

/-- A number reads back if its text is scanned to the end and names the number. -/
theorem readsBack_iff {n : Number} :
    n.ReadsBack ↔ ∃ l, scanNumber n.chars = some (l, []) ∧ ofLiteral l = .num n := by
  have scanned := scanValue_of_numeral (s := n.chars)
    (fun c first => isNumeral_chars (List.mem_of_mem_head? first)) n.chars.length
  unfold Number.ReadsBack read? compact compactChars
  rw [String.toList_ofList]
  dsimp only
  rw [scanned]
  constructor
  · intro back
    cases found : scanNumber n.chars with
    | none =>
      rw [found] at back
      cases back
    | some x =>
      obtain ⟨l, rest⟩ := x
      rw [found] at back
      dsimp only [Option.map_some] at back
      split at back
      · next blank =>
        have inside := (steady_number.suffix found).subset
        have shown : skipBlanks rest = rest := skipBlanks_eq_self fun c first =>
          not_isBlank_of_isNumeral (isNumeral_chars (inside (List.mem_of_mem_head? first)))
        rw [shown, List.isEmpty_iff] at blank
        subst blank
        exact ⟨l, rfl, number?_cut back⟩
      · cases back
  · rintro ⟨l, found, number⟩
    rw [found]
    dsimp only [Option.map_some]
    rw [number]
    rfl

/-- A number that reads back is read in front of everything that delimits it. -/
theorem scanValue_chars {n : Number} (back : n.ReadsBack) {t : List Char} (ends : Delimits t)
    (fuel : Nat) : scanValue (fuel + 1) (n.chars ++ t) = some (.num n, t) := by
  obtain ⟨l, found, number⟩ := readsBack_iff.1 back
  have first : ∀ c ∈ (n.chars ++ t).head?, isNumeral c = true := by
    cases start : n.chars with
    | nil =>
      rw [start] at found
      cases found
    | cons c s =>
      intro d head
      cases head
      exact isNumeral_chars (n := n) (by rw [start]; exact List.mem_cons_self)
  rw [scanValue_of_numeral first, steady_number.append found ends, Option.map_some, number]
  rfl

/-! ## Integers -/

/-- A text of digits is scanned to the end. -/
theorem scanDigits_of_isDigit {s : List Char} (digits : ∀ c ∈ s, c.isDigit = true) :
    scanDigits s = (s.map digitValue, []) := by
  induction s with
  | nil => rfl
  | cons c s ih =>
    have rest := ih fun d inside => digits d (List.mem_cons_of_mem c inside)
    simp only [scanDigits, digits c List.mem_cons_self, if_true, rest, List.map_cons]

/-- The digits of a number spell the number. -/
theorem spelled_naturalText (n : Nat) : spelled ((Decimal.naturalText n).map digitValue) = n := by
  have value := Nat.ofDigitChars_toDigits (b := 10) (n := n) (by decide) (by decide)
  rw [Nat.ofDigitChars_eq_foldl] at value
  simp only [spelled, List.foldl_map, digitValue, Nat.mul_comm _ 10]
  exact value

/-- No zero stands in front of other digits. -/
theorem naturalText_strict (n : Nat) :
    ∀ d ds, (Decimal.naturalText n).map digitValue ≠ 0 :: d :: ds := by
  induction n using Nat.strongRecOn with
  | _ n ih =>
    intro d ds zero
    by_cases small : n < 10
    · rw [Decimal.naturalText, Nat.toDigits_of_lt_base small] at zero
      cases (List.cons.inj zero).2
    · have less : n / 10 < n := by omega
      have value := spelled_naturalText (n / 10)
      have strict := ih (n / 10) less
      rw [Decimal.naturalText, Nat.toDigits_of_base_le (by decide) (by omega), List.map_append] at zero
      change (Decimal.naturalText (n / 10)).map digitValue ++ _ = _ at zero
      generalize (Decimal.naturalText (n / 10)).map digitValue = front at zero value strict
      match front with
      | [] =>
        change 0 = n / 10 at value
        omega
      | [a] =>
        change 0 * 10 + a = n / 10 at value
        obtain ⟨rfl, -⟩ := List.cons.inj zero
        omega
      | a :: b :: more =>
        obtain ⟨rfl, -⟩ := List.cons.inj zero
        exact strict b more rfl

/-- Digits of a number of 64 bits are gathered in full. -/
theorem gather_of_fits {digits : List Nat} {m : Nat}
    (fits : digits.foldl (fun n d => n * 10 + d) m < UInt64.size) :
    Decimal.gather m digits = (digits.foldl (fun n d => n * 10 + d) m, 0) := by
  have grows : ∀ (ds : List Nat) (k : Nat), k ≤ ds.foldl (fun n d => n * 10 + d) k := by
    intro ds
    induction ds with
    | nil => exact fun k => Nat.le_refl k
    | cons d ds ih =>
      intro k
      have := ih (k * 10 + d)
      exact Nat.le_trans (by omega) this
  induction digits generalizing m with
  | nil => rfl
  | cons d ds ih =>
    have first : m * 10 + d < UInt64.size := Nat.lt_of_le_of_lt (grows ds _) fits
    rw [Decimal.gather, if_pos first]
    exact ih fits

/-- The digits of a natural number are scanned as a whole number without fraction and exponent. -/
theorem scanMagnitude_naturalText (negative : Bool) (n : Nat) :
    scanMagnitude negative (Decimal.naturalText n) =
      some (⟨negative, (Decimal.naturalText n).map digitValue, none, none⟩, []) := by
  have whole : scanWhole (Decimal.naturalText n) =
      some ((Decimal.naturalText n).map digitValue, []) := by
    refine scanWhole_eq_some.2 ⟨?_, ?_, naturalText_strict n⟩
    · exact scanDigits_of_isDigit fun c => isDigit_naturalText
    · exact fun none => Nat.toDigits_ne_nil (List.map_eq_nil_iff.1 none)
  unfold scanMagnitude
  rw [whole]
  rfl

/-- The sign of an integer is scanned apart from its digits. -/
theorem scanNumber_integerText (i : Int) :
    scanNumber (Decimal.integerText i) =
      some (⟨i < 0, (Decimal.naturalText i.natAbs).map digitValue, none, none⟩, []) := by
  have magnitude := scanMagnitude_naturalText (decide (i < 0)) i.natAbs
  unfold Decimal.integerText
  by_cases negative : i < 0
  · rw [if_pos negative]
    rw [decide_eq_true negative] at magnitude ⊢
    exact magnitude
  · rw [if_neg negative, List.nil_append]
    rw [decide_eq_false negative] at magnitude ⊢
    unfold scanNumber
    split
    · next s start =>
      have digit : '-'.isDigit = true :=
        isDigit_naturalText (n := i.natAbs) (by rw [start]; exact List.mem_cons_self)
      cases digit
    · exact magnitude

/-- An integer is what its own text spells. -/
theorem readsBack_int {i : Int} (fits : -0x8000000000000000 ≤ i ∧ i < 0x10000000000000000) :
    (Number.int i fits).ReadsBack := by
  refine readsBack_iff.2 ⟨_, scanNumber_integerText i, ?_⟩
  have size : UInt64.size = 0x10000000000000000 := rfl
  have value := spelled_naturalText i.natAbs
  have gathered : Decimal.gather 0 ((Decimal.naturalText i.natAbs).map digitValue) =
      (spelled ((Decimal.naturalText i.natAbs).map digitValue), 0) :=
    gather_of_fits (by change spelled _ < _; omega)
  rw [value] at gathered
  have integer : Decimal.Literal.toInteger? ⟨i < 0, (Decimal.naturalText i.natAbs).map digitValue, none, none⟩ =
      some i := by
    simp only [Decimal.Literal.toInteger?, gathered]
    by_cases negative : i < 0
    · have positive : 0 < i.natAbs := by omega
      have low : i.natAbs ≤ 0x8000000000000000 := by omega
      simp only [negative, positive, low, decide_true, Bool.not_true, Bool.false_eq_true, if_false,
        Bool.and_self, if_true, Option.some.injEq]
      omega
    · simp only [negative, decide_false, Bool.not_false, if_true, Option.some.injEq]
      omega
  unfold ofLiteral
  rw [integer]
  exact dif_pos fits

end Json

end Redraw
