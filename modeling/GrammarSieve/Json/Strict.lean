/-
The strict dialect of JSON: no raw controls in strings, values nested at any depth, and
numbers without leading zeros and with digits on both sides of the point.  An integer may have any
size as long as its digits are not too many.  Beyond the standard, it knows words for the infinities
and for no number.
-/
import GrammarSieve.Json.Reader

namespace GrammarSieve.Json

open Text (isDigit decimalValue)

def spanDigits (text : List Char) : List Char × List Char :=
  (text.takeWhile isDigit, text.dropWhile isDigit)

def spanSign : List Char → Bool × List Char
  | '-' :: rest => (true, rest)
  | '+' :: rest => (false, rest)
  | text => (false, text)

/-- The digits after a decimal point, if there are any. -/
def spanFraction (text : List Char) : List Char × List Char :=
  match text with
  | '.' :: rest =>
      match spanDigits rest with
      | ([], _) => ([], text)
      | found => found
  | _ => ([], text)

/-- The exponent of ten, if one is written in full. -/
def spanExponent (text : List Char) : Option Int × List Char :=
  let read (afterMark : List Char) : Option Int × List Char :=
    let (negative, afterSign) := spanSign afterMark
    match spanDigits afterSign with
    | ([], _) => (none, text)
    | (digits, rest) =>
        let size : Int := decimalValue digits
        (some (if negative then -size else size), rest)
  match text with
  | 'e' :: afterMark => read afterMark
  | 'E' :: afterMark => read afterMark
  | _ => (none, text)

def signedInteger (negative : Bool) (size : Nat) : Int :=
  if negative then -(size : Int) else size

/-- A number whose whole part has been read. -/
def finishNumber (negative : Bool) (whole rest : List Char) : Option (Json × List Char) :=
  let (fraction, rest) := spanFraction rest
  let (exponent, rest) := spanExponent rest
  match fraction, exponent with
  | [], none =>
      (Text.number? whole).map fun size => (.integer (signedInteger negative size), rest)
  | fraction, exponent =>
      let digits := decimalValue (whole ++ fraction)
      some (.real (Binary64.ofDecimal negative digits (exponent.getD 0 - fraction.length)), rest)

/-- A number without its sign: a zero that stands alone before the point, or digits that
begin with another one. -/
def strictMagnitude (negative : Bool) : List Char → Option (Json × List Char)
  | 'I' :: 'n' :: 'f' :: 'i' :: 'n' :: 'i' :: 't' :: 'y' :: rest =>
      some (.real (.infinite negative), rest)
  | '0' :: rest => finishNumber negative ['0'] rest
  | text =>
      match spanDigits text with
      | ([], _) => none
      | (whole, rest) => finishNumber negative whole rest

def strictNumber : List Char → Option (Json × List Char)
  | 'N' :: 'a' :: 'N' :: rest => some (.real .notANumber, rest)
  | '-' :: rest => strictMagnitude true rest
  | text => strictMagnitude false text

def strict : Dialect where
  rawCharacter c := 0x20 ≤ c.toNat
  levels := none
  number := strictNumber

def readStrict? (text : String) : Option Json :=
  readText? strict text.toList

end GrammarSieve.Json
