/-
Decoding the text of an edge.  Tokens may hold hyphens, digits, apostrophes, commas and
parentheses of their own, so the reader looks for anchors.  The governor ends at the first
hyphen that is followed by digits, any apostrophes and a comma.  The dependent is read from
the end of the text, and of what stands before its index only the part behind the last comma
is its token.  Apostrophes mark copies of a node and are dropped.
-/
import GrammarSieve.Edge.Basic

namespace GrammarSieve.Edge

open Text (isDigit)

def isCopyMark (c : Char) : Bool :=
  c = '\''

/-- Reads what follows the hyphen of an anchor: digits, any apostrophes, a comma.  Returns
the digits and the text after the comma. -/
def readIndex (text : List Char) : Option (List Char × List Char) :=
  let digits := text.takeWhile isDigit
  if digits = [] then none
  else
    match (text.dropWhile isDigit).dropWhile isCopyMark with
    | ',' :: rest => some (digits, rest)
    | _ => none

/-- What a text is made of around its first anchor. -/
structure Anchored where
  before : List Char
  digits : List Char
  after : List Char
deriving DecidableEq, Repr

/-- The first anchor of a text, if it has one. -/
def firstAnchor? : List Char → Option Anchored
  | [] => none
  | c :: rest =>
      match (if c = '-' then readIndex rest else none) with
      | some (digits, after) => some ⟨[], digits, after⟩
      | none => (firstAnchor? rest).map fun found => { found with before := c :: found.before }

/-- The position that the digits of an index spell. -/
def position (digits : List Char) : Except DecodeError Nat :=
  match Text.number? digits with
  | some position => .ok position
  | none => .error (.longIndex digits.length)

/-- The relation, and the text after the first opening parenthesis. -/
def splitRelation (encoding : List Char) : Except DecodeError (List Char × List Char) :=
  match Text.cutAtFirst '(' encoding with
  | none => .error (.noOpening (String.ofList encoding))
  | some ([], _) => .error (.noRelation (String.ofList encoding))
  | some (relation, remainder) => .ok (relation, remainder)

/-- The governor, and the text after the comma that ends it.  Its position is read first. -/
def scanGovernor (remainder : List Char) : Except DecodeError (EnumeratedToken × List Char) :=
  match firstAnchor? remainder with
  | none => .error (.noGovernorIndex (String.ofList remainder))
  | some ⟨before, digits, after⟩ =>
      match position digits with
      | .error e => .error e
      | .ok position =>
          if before = [] then .error (.emptyGovernor (String.ofList remainder))
          else .ok (⟨String.ofList before, position⟩, after)

/-- The token of the dependent and the digits of its index, read backwards from the closing
parenthesis. -/
def dependentParts (rest : List Char) : Except DecodeError (List Char × List Char) :=
  match rest.reverse with
  | ')' :: backwards =>
      let fromDigits := backwards.dropWhile isCopyMark
      let digits := (fromDigits.takeWhile isDigit).reverse
      if digits = [] then .error (.noDependentIndex (String.ofList rest))
      else
        match fromDigits.dropWhile isDigit with
        | '-' :: beforeHyphen =>
            let token := Text.afterLast ',' beforeHyphen.reverse
            if token = [] then .error (.emptyDependent (String.ofList rest))
            else .ok (token, digits)
        | _ => .error (.noDependentHyphen (String.ofList rest))
  | _ => .error (.noClosing (String.ofList rest))

/-- The dependent.  Its position is read last. -/
def scanDependent (rest : List Char) : Except DecodeError EnumeratedToken :=
  match dependentParts rest with
  | .error e => .error e
  | .ok (token, digits) =>
      match position digits with
      | .error e => .error e
      | .ok position => .ok ⟨String.ofList token, position⟩

def decode (encoding : String) : Except DecodeError Edge :=
  match splitRelation encoding.toList with
  | .error e => .error e
  | .ok (relation, remainder) =>
      match scanGovernor remainder with
      | .error e => .error e
      | .ok (governor, rest) =>
          match scanDependent rest with
          | .error e => .error e
          | .ok dependent => .ok ⟨String.ofList relation, governor, dependent⟩

/-- Decodes an entry of a list of edges, which has to be a string. -/
def ofJson : Json → Except DecodeError Edge
  | .string encoding => decode encoding
  | entry => .error (.edgeNotText entry)

/-- Decodes an entry where values can be shown up to a depth. -/
def parse (room : Nat) (entry : Json) : Except (Failure DecodeError) Edge :=
  (ofJson entry).mapError (·.failure room)

end GrammarSieve.Edge
