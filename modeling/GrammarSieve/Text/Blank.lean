/-
Blank characters and what a text is between them: its words, its stripped middle, its lines.
A word is a maximal run of characters that are not blank.  A line ends at a line feed, a
carriage return, or the two together.
-/
namespace GrammarSieve.Text

/-- The blank characters: the space, the controls that move the cursor or separate records,
and the separators of Unicode. -/
def isBlank (c : Char) : Bool :=
  let n := c.toNat
  (9 ≤ n && n ≤ 13) || (28 ≤ n && n ≤ 32) || n == 0x85 || n == 0xA0 || n == 0x1680 ||
    (0x2000 ≤ n && n ≤ 0x200A) || n == 0x2028 || n == 0x2029 || n == 0x202F ||
    n == 0x205F || n == 0x3000

def words (text : List Char) : List (List Char) :=
  (text.splitOnP isBlank).filter (fun word => !word.isEmpty)

def wordStrings (text : String) : List String :=
  (words text.toList).map String.ofList

def strip (text : List Char) : List Char :=
  ((text.dropWhile isBlank).reverse.dropWhile isBlank).reverse

def stripRight (text : List Char) : List Char :=
  (text.reverse.dropWhile isBlank).reverse

/-- Every line end, however it is written, becomes one line feed. -/
def unifyLineEnds : List Char → List Char
  | [] => []
  | '\r' :: '\n' :: rest => '\n' :: unifyLineEnds rest
  | '\r' :: rest => '\n' :: unifyLineEnds rest
  | c :: rest => c :: unifyLineEnds rest

/-- The lines of a text whose lines end in line feeds.  What follows the last line feed is a
line too, even when it is empty. -/
def lines (text : List Char) : List (List Char) :=
  text.splitOn '\n'

end GrammarSieve.Text
