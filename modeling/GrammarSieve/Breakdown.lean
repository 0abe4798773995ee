/-
How a call breaks off.  Numbers are converted to and from texts only up to a number of digits, and
values are shown only up to a depth of nesting.  A call that runs into one of these limits has no
result, and what it runs into is none of the errors that it reports.
-/
import GrammarSieve.Json.Display
import GrammarSieve.Text.Decimal

namespace GrammarSieve

/-- The limits that a call can run into. -/
inductive Breakdown where
  /-- The digits of a text are too many to be read as a number. -/
  | longDigits (count : Nat)
  /-- A number is too big to be written in decimal. -/
  | longNumber
  /-- A value is nested too deep to be shown. -/
  | deepValue
deriving DecidableEq, Repr

def Breakdown.message : Breakdown → String
  | .longDigits count =>
      "Exceeds the limit (" ++ toString Text.digitLimit ++
        " digits) for integer string conversion: value has " ++ toString count ++ " digits; " ++
        "use sys.set_int_max_str_digits() to increase the limit"
  | .longNumber =>
      "Exceeds the limit (" ++ toString Text.digitLimit ++
        " digits) for integer string conversion; " ++
        "use sys.set_int_max_str_digits() to increase the limit"
  | .deepValue => "maximum recursion depth exceeded while getting the repr of an object"

/-- How a call ends that has no result: with an error that it reports, or broken off. -/
inductive Failure (ε : Type) where
  | reported (cause : ε)
  | brokenOff (cause : Breakdown)
deriving DecidableEq, Repr

namespace Json

mutual

/-- What showing a value runs into when only so many values may be shown within each other.  The
members of an object are as deep as their keys. -/
def breakdown? : Nat → Json → Option Breakdown
  | 0, _ => some .deepValue
  | _ + 1, .integer value =>
      match Text.digits? value.natAbs with
      | some _ => none
      | none => some .longNumber
  | room + 1, .array items => itemsBreakdown? room items
  | room + 1, .object members => membersBreakdown? room members
  | _ + 1, _ => none

def itemsBreakdown? : Nat → List Json → Option Breakdown
  | _, [] => none
  | room, item :: rest => (breakdown? room item).or (itemsBreakdown? room rest)

def membersBreakdown? : Nat → List (String × Json) → Option Breakdown
  | _, [] => none
  | room, (_, value) :: rest => (breakdown? room value).or (membersBreakdown? room rest)

end

end Json

end GrammarSieve
