import Redraw.Text.Alphabetic
import Redraw.Text.LetterCase
import Redraw.Text.Lowering
import Redraw.Text.Numeric

/-!
# The words of a name

A name such as `BigNumberTotal` or `box plot 300` is read as a sequence of words: runs of letters
and numbers, cut again where the letter case or the kind of character changes. `words` finds them
in one pass over the text, and `snakeCase` joins their lower case with underscores.
-/

namespace Redraw.Text

/-- Letters and numbers make up words; every other character separates them. -/
def isAlphanumeric (c : Char) : Bool := isAlphabetic c || isNumeric c

/-- A new word starts at `c`, which follows `before` inside a run and is followed by `after`: where
numbers and letters meet, at a capital after a small letter, and at the last capital of a row of
capitals when a small letter comes next. -/
def startsWord (before c : Char) (after : Option Char) : Bool :=
  isNumeric before != isNumeric c
    || isLowercase before && isUppercase c
    || isUppercase before && isUppercase c && after.any isLowercase

/-- Words with a piece in front that is one of them unless it is empty. -/
def closeWord (piece : List Char) (rest : List (List Char)) : List (List Char) :=
  if piece.isEmpty then rest else piece :: rest

/-- How a text goes on after the character `before`: the piece that continues the word of `before`,
and the words after it. The piece is empty where that word has ended. -/
def pieces (before : Option Char) : List Char → List Char × List (List Char)
  | [] => ([], [])
  | c :: rest =>
    let (piece, more) := pieces (some c) rest
    if !isAlphanumeric c then ([], closeWord piece more)
    else if before.any fun b => isAlphanumeric b && startsWord b c rest.head? then
      ([], (c :: piece) :: more)
    else (c :: piece, more)

/-- The words of a text, in order. -/
def words (text : List Char) : List (List Char) :=
  let (piece, more) := pieces none text
  closeWord piece more

/-- The words of a text in lower case, joined by underscores. -/
def snakeCase (text : String) : String :=
  String.ofList (['_'].intercalate ((words text.toList).map (·.flatMap lower)))

end Redraw.Text
