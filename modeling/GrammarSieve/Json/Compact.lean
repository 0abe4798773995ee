/-
The stored text of a JSON value: no blanks, members in order, and every character beyond
ASCII as an escape of its UTF-16 units, so that a stored value is always one line of printable
ASCII.  Only integers of 64 bits, signed or unsigned, and finite numbers have a stored text.
-/
import GrammarSieve.Json.Basic
import GrammarSieve.Binary64.Text
import GrammarSieve.Text.Quoted
import GrammarSieve.Text.Decimal

namespace GrammarSieve.Json

/-- The escape of one UTF-16 unit. -/
def escapeUnit (n : Nat) : List Char :=
  '\\' :: 'u' :: Text.hexDigits 4 n

def storedChar (c : Char) : List Char :=
  let n := c.toNat
  if c = '"' || c = '\\' then ['\\', c]
  else if c = '\x08' then ['\\', 'b']
  else if c = '\x0c' then ['\\', 'f']
  else if c = '\n' then ['\\', 'n']
  else if c = '\r' then ['\\', 'r']
  else if c = '\t' then ['\\', 't']
  else if 0x20 ≤ n && n < 0x80 then [c]
  else if n < 0x10000 then escapeUnit n
  else escapeUnit (0xD800 + (n - 0x10000) / 0x400) ++ escapeUnit (0xDC00 + (n - 0x10000) % 0x400)

def storedString (text : String) : List Char :=
  '"' :: text.toList.flatMap storedChar ++ ['"']

def storedInteger (value : Int) : List Char :=
  if value < 0 then '-' :: Text.decimal value.natAbs else Text.decimal value.natAbs

mutual

def compact : Json → List Char
  | .null => ['n', 'u', 'l', 'l']
  | .bool true => ['t', 'r', 'u', 'e']
  | .bool false => ['f', 'a', 'l', 's', 'e']
  | .integer value => storedInteger value
  | .real value => value.stored
  | .string value => storedString value
  | .array [] => ['[', ']']
  | .array (item :: rest) => '[' :: compact item ++ compactItems rest
  | .object [] => ['\x7b', '\x7d']
  | .object ((key, value) :: rest) =>
      '\x7b' :: storedString key ++ ':' :: compact value ++ compactMembers rest

/-- The items after the first one, and the end of the array. -/
def compactItems : List Json → List Char
  | [] => [']']
  | item :: rest => ',' :: compact item ++ compactItems rest

/-- The members after the first one, and the end of the object. -/
def compactMembers : List (String × Json) → List Char
  | [] => ['\x7d']
  | (key, value) :: rest =>
      ',' :: storedString key ++ ':' :: compact value ++ compactMembers rest

end

/-- The integer fits in 64 bits, with a sign or without. -/
def isWord (value : Int) : Bool :=
  -Int.pow 2 63 ≤ value && value < Int.pow 2 64

mutual

/-- The value has a stored text. -/
def isStorable : Json → Bool
  | .integer value => isWord value
  | .real (.finite _ _ _) => true
  | .real _ => false
  | .array items => areStorable items
  | .object members => membersStorable members
  | _ => true

def areStorable : List Json → Bool
  | [] => true
  | item :: rest => isStorable item && areStorable rest

def membersStorable : List (String × Json) → Bool
  | [] => true
  | (_, value) :: rest => isStorable value && membersStorable rest

end

/-- The stored text of a value, if it has one. -/
def store? (value : Json) : Option (List Char) :=
  if value.isStorable then some value.compact else none

end GrammarSieve.Json
