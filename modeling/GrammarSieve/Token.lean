/-
Tokens.  An enumerated token carries its position in a parse, which tells repeated words
apart; a tagged token carries its part-of-speech tag.  Both are written with a hyphen
between their parts, and a tagged token is read back by cutting at the first hyphen.
-/
import GrammarSieve.DecodeError
import GrammarSieve.Text.Split
import GrammarSieve.Text.Decimal

namespace GrammarSieve

/-- A token at a position of a parse, counted from zero. -/
structure EnumeratedToken where
  token : String
  position : Nat
deriving DecidableEq, Repr

namespace EnumeratedToken

/-- A token at a position given as an integer; a negative position is refused. -/
def ofInt? (token : String) : Int → Option EnumeratedToken
  | .ofNat position => some ⟨token, position⟩
  | .negSucc _ => none

def negativeMessage : String :=
  "position must be a non-negative integer."

/-- The written form: the token, a hyphen, the position.  There is none if the position has too
many digits. -/
def chars? (t : EnumeratedToken) : Option (List Char) :=
  (Text.digits? t.position).map fun digits => t.token.toList ++ '-' :: digits

def text? (t : EnumeratedToken) : Option String :=
  t.chars?.map String.ofList

def description? (t : EnumeratedToken) : Option String :=
  (Text.digits? t.position).map fun digits =>
    "EnumeratedToken(" ++ Text.quoted t.token ++ ", " ++ String.ofList digits ++ ")"

end EnumeratedToken

/-- A token with its part-of-speech tag. -/
structure TaggedToken where
  tag : String
  token : String
deriving DecidableEq, Repr

namespace TaggedToken

/-- The written form: the tag, a hyphen, the token. -/
def chars (t : TaggedToken) : List Char :=
  t.tag.toList ++ '-' :: t.token.toList

def text (t : TaggedToken) : String :=
  String.ofList t.chars

def description (t : TaggedToken) : String :=
  "TaggedToken(" ++ Text.quoted t.tag ++ ", " ++ Text.quoted t.token ++ ")"

/-- Reads a written form.  Only the first hyphen separates, and neither part is empty. -/
def decode (entry : String) : Except DecodeError TaggedToken :=
  match Text.cutAtFirst '-' entry.toList with
  | some (tag, token) =>
      if tag = [] ∨ token = [] then .error (.malformedTag entry)
      else .ok ⟨String.ofList tag, String.ofList token⟩
  | none => .error (.malformedTag entry)

/-- Reads an entry of a list of tags, which has to be a string. -/
def ofJson : Json → Except DecodeError TaggedToken
  | .string entry => decode entry
  | entry => .error (.tagNotText entry)

end TaggedToken

end GrammarSieve
