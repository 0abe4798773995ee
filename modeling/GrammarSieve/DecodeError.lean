/-
The ways in which the text of a tag entry or of an edge can fail to decode, and the message
for each.  Every cause carries the text in which it was found.  Two of them are not always reported
as errors: an index with too many digits never is, and an entry that is no text only where its value
can be shown.
-/
import GrammarSieve.Breakdown

namespace GrammarSieve

inductive DecodeError where
  | tagNotText (entry : Json)
  /-- A tag entry without a hyphen, or with nothing on one side of its first hyphen. -/
  | malformedTag (entry : String)
  | edgeNotText (entry : Json)
  | noOpening (encoding : String)
  /-- The first parenthesis opens at the very start. -/
  | noRelation (encoding : String)
  /-- No hyphen, index and comma end a governor. -/
  | noGovernorIndex (remainder : String)
  /-- The governor ends before it has begun. -/
  | emptyGovernor (remainder : String)
  /-- No parenthesis closes at the very end. -/
  | noClosing (rest : String)
  /-- No digit stands before the closing parenthesis and its apostrophes. -/
  | noDependentIndex (rest : String)
  /-- No hyphen stands before the digits of the dependent. -/
  | noDependentHyphen (rest : String)
  | emptyDependent (rest : String)
  /-- An index has too many digits to be read as a position. -/
  | longIndex (count : Nat)
deriving Repr

/-- The message for a cause: what is wrong, and the text in quotes. -/
def DecodeError.message : DecodeError → String
  | .tagNotText entry => "POS tag entry is not a string: " ++ entry.display
  | .malformedTag entry => "Malformed POS tag entry: " ++ Text.quoted entry
  | .edgeNotText entry => "Grammar dependency entry is not a string: " ++ entry.display
  | .noOpening encoding =>
      "No opening parenthesis in grammar dependency " ++ Text.quoted encoding
  | .noRelation encoding => "No relation in grammar dependency " ++ Text.quoted encoding
  | .noGovernorIndex remainder => "No governor index found in " ++ Text.quoted remainder
  | .emptyGovernor remainder => "Empty governor token in " ++ Text.quoted remainder
  | .noClosing rest => "No closing parenthesis in " ++ Text.quoted rest
  | .noDependentIndex rest => "No dependent index found in " ++ Text.quoted rest
  | .noDependentHyphen rest => "No hyphen before dependent index in " ++ Text.quoted rest
  | .emptyDependent rest => "Empty dependent token in " ++ Text.quoted rest
  | .longIndex count => (Breakdown.longDigits count).message

/-- What the cause makes of a call that can show entries up to a depth. -/
def DecodeError.breakdown? (room : Nat) : DecodeError → Option Breakdown
  | .tagNotText entry => entry.breakdown? room
  | .edgeNotText entry => entry.breakdown? room
  | .longIndex count => some (.longDigits count)
  | _ => none

/-- A call ends in the cause, or is broken off by it. -/
def DecodeError.failure (room : Nat) (cause : DecodeError) : Failure DecodeError :=
  match cause.breakdown? room with
  | some breakdown => .brokenOff breakdown
  | none => .reported cause

end GrammarSieve
