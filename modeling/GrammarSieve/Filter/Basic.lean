/-
Named filters.  A vine passes a filter if it fulfils every one of its conditions, and a
filter without conditions is never passed.  Evaluating a filter writes its name into the log
of a vine that passes.
-/
import GrammarSieve.Filter.Condition

namespace GrammarSieve

structure Filter where
  name : String
  conditions : List Condition
deriving DecidableEq, Repr

namespace Filter

/-- The form that describes the filter as a value. -/
def description (f : Filter) : String :=
  "Filter(" ++ Text.quoted f.name ++ ")"

/-- The vine fulfils all of the conditions.  They are tried in order, up to the first that
it does not fulfil. -/
def allHold (v : Vine) : List Condition → Except FieldError Bool
  | [] => .ok true
  | c :: rest =>
      match c.holds v with
      | .error cause => .error cause
      | .ok false => .ok false
      | .ok true => allHold v rest

def passes (f : Filter) (v : Vine) : Except FieldError Bool :=
  if f.conditions.isEmpty then .ok false else allHold v f.conditions

/-- Tries the filter on a vine, and records its name if the vine passes. -/
def evaluate (f : Filter) (v : Vine) : Except FieldError (Bool × Vine) :=
  match f.passes v with
  | .error cause => .error cause
  | .ok true => .ok (true, v.recordMatch f.name)
  | .ok false => .ok (false, v)

end Filter

end GrammarSieve
