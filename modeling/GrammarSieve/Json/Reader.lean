/-
Reading JSON.  One recursive reader serves two dialects, which differ in the characters that
may stand in a string, in how deep arrays and objects may be nested, and in the form of
numbers.  The reader works on the characters still to be read and returns what it leaves.
Its fuel falls at every nested value and every further item, and twice the length of the text
is always enough, because each of those steps takes at least one character.
-/
import GrammarSieve.Json.Basic
import GrammarSieve.Text.Decimal

namespace GrammarSieve.Json

open Text (isDigit)

/-- What a dialect of JSON decides.  `levels` bounds the arrays and objects that may be open
at the same time, and `number` reads whatever is neither a string, an array, an object nor
one of the three constants. -/
structure Dialect where
  rawCharacter : Char → Bool
  levels : Option Nat
  number : List Char → Option (Json × List Char)

def isGap (c : Char) : Bool :=
  c = ' ' || c = '\t' || c = '\n' || c = '\r'

def skipGaps (text : List Char) : List Char :=
  text.dropWhile isGap

def hexValue? (c : Char) : Option Nat :=
  if isDigit c then some (c.toNat - '0'.toNat)
  else if 'a' ≤ c && c ≤ 'f' then some (c.toNat - 'a'.toNat + 10)
  else if 'A' ≤ c && c ≤ 'F' then some (c.toNat - 'A'.toNat + 10)
  else none

/-- The UTF-16 unit that four hexadecimal digits spell. -/
def unit? (a b c d : Char) : Option Nat :=
  match hexValue? a, hexValue? b, hexValue? c, hexValue? d with
  | some w, some x, some y, some z => some (((w * 16 + x) * 16 + y) * 16 + z)
  | _, _, _, _ => none

def isHighUnit (n : Nat) : Bool :=
  0xD800 ≤ n && n < 0xDC00

def isLowUnit (n : Nat) : Bool :=
  0xDC00 ≤ n && n < 0xE000

def pairedChar (high low : Nat) : Char :=
  Char.ofNat (0x10000 + (high - 0xD800) * 0x400 + (low - 0xDC00))

/-- The character of a code.  A text holds characters only, so half of a pair that stands alone is
replaced, and what is told apart by such halves alone is read as the same. -/
def codeChar (n : Nat) : Char :=
  if isHighUnit n || isLowUnit n then '\uFFFD' else Char.ofNat n

/-- The characters of codes, among which two units that stand together may spell one. -/
def codeChars : List Nat → List Char
  | [] => []
  | [n] => [codeChar n]
  | n :: m :: rest =>
      if isHighUnit n && isLowUnit m then pairedChar n m :: codeChars rest
      else codeChar n :: codeChars (m :: rest)

def escaped? : Char → Option Char
  | '"' => some '"'
  | '\\' => some '\\'
  | '/' => some '/'
  | 'b' => some '\x08'
  | 'f' => some '\x0c'
  | 'n' => some '\n'
  | 'r' => some '\r'
  | 't' => some '\t'
  | _ => none

/-- Puts a code before what has been read of a string. -/
def prepend (code : Nat) : Option (List Nat × List Char) → Option (List Nat × List Char)
  | none => none
  | some (codes, rest) => some (code :: codes, rest)

/-- Reads the codes of a string from after its opening quote to its closing one. -/
def readCodes (raw : Char → Bool) : List Char → Option (List Nat × List Char)
  | [] => none
  | '"' :: rest => some ([], rest)
  | '\\' :: 'u' :: a :: b :: c :: d :: rest =>
      match unit? a b c d with
      | none => none
      | some unit => prepend unit (readCodes raw rest)
  | '\\' :: c :: rest =>
      match escaped? c with
      | none => none
      | some spelled => prepend spelled.toNat (readCodes raw rest)
  | c :: rest => if raw c && c ≠ '\\' then prepend c.toNat (readCodes raw rest) else none

def readString (raw : Char → Bool) (text : List Char) : Option (String × List Char) :=
  match readCodes raw text with
  | none => none
  | some (codes, rest) => some (String.ofList (codeChars codes), rest)

mutual

/-- Reads one value, after any gaps, with room for this many open arrays and objects. -/
def readValue (dialect : Dialect) : Nat → Nat → List Char → Option (Json × List Char)
  | 0, _, _ => none
  | fuel + 1, room, text =>
      match skipGaps text with
      | '"' :: rest =>
          match readString dialect.rawCharacter rest with
          | none => none
          | some (value, rest) => some (.string value, rest)
      | '[' :: rest =>
          match room with
          | 0 => none
          | room + 1 =>
              match skipGaps rest with
              | ']' :: rest => some (.array [], rest)
              | rest =>
                  match readItems dialect fuel room rest with
                  | none => none
                  | some (items, rest) => some (.array items, rest)
      | '\x7b' :: rest =>
          match room with
          | 0 => none
          | room + 1 =>
              match skipGaps rest with
              | '\x7d' :: rest => some (.object [], rest)
              | rest =>
                  match readMembers dialect fuel room rest with
                  | none => none
                  | some (entries, rest) => some (.object (Members.ofList entries), rest)
      | 'n' :: 'u' :: 'l' :: 'l' :: rest => some (.null, rest)
      | 't' :: 'r' :: 'u' :: 'e' :: rest => some (.bool true, rest)
      | 'f' :: 'a' :: 'l' :: 's' :: 'e' :: rest => some (.bool false, rest)
      | text => dialect.number text

/-- Reads the items of an array, of which there is at least one, and its end. -/
def readItems (dialect : Dialect) : Nat → Nat → List Char → Option (List Json × List Char)
  | 0, _, _ => none
  | fuel + 1, room, text =>
      match readValue dialect fuel room text with
      | none => none
      | some (item, rest) =>
          match skipGaps rest with
          | ']' :: rest => some ([item], rest)
          | ',' :: rest =>
              match readItems dialect fuel room rest with
              | none => none
              | some (items, rest) => some (item :: items, rest)
          | _ => none

/-- Reads the members of an object, of which there is at least one, and its end. -/
def readMembers (dialect : Dialect) :
    Nat → Nat → List Char → Option (List (String × Json) × List Char)
  | 0, _, _ => none
  | fuel + 1, room, text =>
      match skipGaps text with
      | '"' :: rest =>
          match readString dialect.rawCharacter rest with
          | none => none
          | some (key, rest) =>
              match skipGaps rest with
              | ':' :: rest =>
                  match readValue dialect fuel room rest with
                  | none => none
                  | some (value, rest) =>
                      let entry := (key, value)
                      match skipGaps rest with
                      | '\x7d' :: rest => some ([entry], rest)
                      | ',' :: rest =>
                          match readMembers dialect fuel room rest with
                          | none => none
                          | some (entries, rest) => some (entry :: entries, rest)
                      | _ => none
              | _ => none
      | _ => none

end

/-- Reads a text that holds one value and nothing else but gaps.  Where a dialect sets no
bound, there is room for as many arrays and objects as the text has characters. -/
def readText? (dialect : Dialect) (text : List Char) : Option Json :=
  match readValue dialect (2 * text.length + 2) (dialect.levels.getD text.length) text with
  | none => none
  | some (value, rest) => if (skipGaps rest).isEmpty then some value else none

end GrammarSieve.Json
