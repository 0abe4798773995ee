/-
Natural numbers in decimal, with the ten ASCII digits only.  A number and its digits are converted
to each other as long as the digits are not too many.
-/
namespace GrammarSieve.Text

def isDigit (c : Char) : Bool :=
  '0' ≤ c && c ≤ '9'

def decimal (n : Nat) : List Char :=
  Nat.toDigits 10 n

/-- The number that decimal digits spell; zeros may lead. -/
def decimalValue (digits : List Char) : Nat :=
  Nat.ofDigitChars 10 digits 0

/-- The most digits that are converted, whether they are read or written.  Zeros that lead count. -/
def digitLimit : Nat := 4300

/-- The number that decimal digits spell, unless they are too many. -/
def number? (digits : List Char) : Option Nat :=
  if digits.length ≤ digitLimit then some (decimalValue digits) else none

/-- The decimal digits of a number, unless they are too many. -/
def digits? (n : Nat) : Option (List Char) :=
  if (decimal n).length ≤ digitLimit then some (decimal n) else none

theorem decimal_ne_nil (n : Nat) : decimal n ≠ [] :=
  Nat.toDigits_ne_nil

theorem isDigit_of_mem_decimal {n : Nat} {c : Char} (hc : c ∈ decimal n) : isDigit c = true := by
  have h := Nat.isDigit_of_mem_toDigits (by decide) (by decide) hc
  simpa [isDigit, Char.isDigit, Char.le_def] using h

theorem decimalValue_decimal (n : Nat) : decimalValue (decimal n) = n :=
  Nat.ofDigitChars_toDigits (by decide) (by decide)

theorem number?_eq_some_iff {digits : List Char} {n : Nat} :
    number? digits = some n ↔ digits.length ≤ digitLimit ∧ decimalValue digits = n := by
  simp [number?]

theorem number?_eq_none_iff {digits : List Char} :
    number? digits = none ↔ digitLimit < digits.length := by
  simp [number?]

end GrammarSieve.Text
