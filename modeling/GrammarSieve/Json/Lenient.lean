/-
The lenient dialect of JSON, in which record files, settings and console entries are written.
Strings may hold raw controls other than NUL, and every part of a number may lack its digits.
Integers are read in 64 bits: the sum runs modulo 2^64, and only a step that falls is noticed
as too big.  Other numbers are put together from their parts by sums and products.
-/
import GrammarSieve.Json.Strict
import GrammarSieve.Binary64.Arithmetic

namespace GrammarSieve.Json

open Text (isDigit decimalValue)

/-- Adds the digits of a positive integer to a sum of 64 bits. -/
def sumUnsigned? : Nat → List Char → Option Nat
  | sum, [] => some sum
  | sum, digit :: rest =>
      let next := (sum * 10 + (digit.toNat - '0'.toNat)) % Nat.pow 2 64
      if next < sum then none else sumUnsigned? next rest

/-- Adds the digits of a negative integer, whose size must never pass 2^63. -/
def sumNegative? : Nat → List Char → Option Nat
  | sum, [] => some sum
  | sum, digit :: rest =>
      let next := (sum * 10 + (digit.toNat - '0'.toNat)) % Nat.pow 2 64
      if Nat.pow 2 63 < next then none else sumNegative? next rest

def fractionLimit : Nat := 15

/-- The exponent after its mark; without digits it is zero. -/
def lenientExponent (afterMark : List Char) : Int × List Char :=
  let (negative, afterSign) := spanSign afterMark
  let (digits, rest) := spanDigits afterSign
  (signedInteger negative (decimalValue digits), rest)

/-- A number with a point or an exponent, whose whole part has been summed up.  It is put
together from its parts, so it may miss the number nearest to the decimal. -/
def lenientReal (negative : Bool) (whole : Nat) (fraction : List Char) (rest : List Char) :
    Json × List Char :=
  let counted := fraction.take fractionLimit
  let size := Binary64.ofPlaces whole (decimalValue counted) counted.length
  let base := if negative then size.neg else size
  let scaled (afterMark : List Char) : Json × List Char :=
    let (exponent, rest) := lenientExponent afterMark
    (.real (base.mul (Binary64.powerOfTen exponent)), rest)
  match rest with
  | 'e' :: afterMark => scaled afterMark
  | 'E' :: afterMark => scaled afterMark
  | rest => (.real base, rest)

/-- A number without its sign. -/
def lenientMagnitude (negative : Bool) (text : List Char) : Option (Json × List Char) :=
  let (digits, rest) := spanDigits text
  match (if negative then sumNegative? 0 digits else sumUnsigned? 0 digits) with
  | none => none
  | some whole =>
      match rest with
      | '.' :: afterPoint =>
          let (fraction, rest) := spanDigits afterPoint
          some (lenientReal negative whole fraction rest)
      | 'e' :: _ => some (lenientReal negative whole [] rest)
      | 'E' :: _ => some (lenientReal negative whole [] rest)
      | _ => some (.integer (signedInteger negative whole), rest)

/-- A number begins with a minus sign or a digit. -/
def lenientNumber : List Char → Option (Json × List Char)
  | [] => none
  | '-' :: rest => lenientMagnitude true rest
  | c :: rest => if isDigit c then lenientMagnitude false (c :: rest) else none

def lenient : Dialect where
  rawCharacter c := c ≠ '\x00'
  levels := some 1024
  number := lenientNumber

def readLenient? (text : List Char) : Option Json :=
  readText? lenient text

/-- Reads a lenient JSON text that a user has typed or written after a key.  A lone minus
sign, which spells zero in a file of records, is refused here. -/
def readEntry? (text : List Char) : Option Json :=
  if text = ['-'] then none else readLenient? text

end GrammarSieve.Json
