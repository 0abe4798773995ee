/-
The text of a JSON value in messages: strings quoted, lists in brackets, objects in braces
with their members in order, and a word each for the three constants.
-/
import GrammarSieve.Json.Basic
import GrammarSieve.Binary64.Text
import GrammarSieve.Text.Quoted

namespace GrammarSieve.Json

def commaJoined (texts : List String) : String :=
  ", ".intercalate texts

mutual

def display : Json → String
  | .null => "None"
  | .bool true => "True"
  | .bool false => "False"
  | .integer value => toString value
  | .real value => String.ofList value.shown
  | .string value => Text.quoted value
  | .array items => "[" ++ commaJoined (displayItems items) ++ "]"
  | .object members => "\x7b" ++ commaJoined (displayMembers members) ++ "\x7d"

def displayItems : List Json → List String
  | [] => []
  | item :: rest => display item :: displayItems rest

def displayMembers : List (String × Json) → List String
  | [] => []
  | (key, value) :: rest => (Text.quoted key ++ ": " ++ display value) :: displayMembers rest

end

end GrammarSieve.Json
