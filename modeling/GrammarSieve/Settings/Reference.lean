/-
References between settings.  A string that begins with the mark of references stands for the
section or the value at the path after the mark.  References are followed one after the
other, in the order of their places; each finds the settings as the earlier ones have left
them.  A section that a reference leads to is shared, not copied: it stays in its own place,
where the references inside it are followed in their turn.
-/
import GrammarSieve.Settings.Tree

namespace GrammarSieve.Settings

/-- Settings whose references are being followed.  A link leads to the section at a path. -/
inductive Linked where
  | plain (value : Json)
  | list (items : List Linked)
  | object (entries : List (String × Linked))
  | link (path : List String)
deriving Repr

namespace Linked

mutual

/-- Settings without links.  The items of an array are plain, whatever they are. -/
def ofJson : Json → Linked
  | .object members => .object (ofMembers members)
  | .array items => .list (items.map .plain)
  | value => .plain value

def ofMembers : List (String × Json) → List (String × Linked)
  | [] => []
  | (key, value) :: rest => (key, ofJson value) :: ofMembers rest

end

def entry? (key : String) : List (String × Linked) → Option Linked
  | [] => none
  | (name, node) :: rest => if name = key then some node else entry? key rest

/-- What stands at a path that leads through no links. -/
def at? : List String → Linked → Option Linked
  | [], node => some node
  | part :: rest, .object entries =>
      match entry? part entries with
      | some next => at? rest next
      | none => none
  | _ :: _, _ => none

/-- Puts something else at a path that leads through no links. -/
def putAt (new : Linked) : List String → Linked → Linked
  | [], _ => new
  | part :: rest, .object entries =>
      .object (entries.map fun entry =>
        if entry.1 = part then (part, putAt new rest entry.2) else entry)
  | _ :: _, node => node

/-- What a path leads to from the node at the path `here`, through links.  A section is found
as a link to its own place. -/
def find? (root : Linked) : List String → List String → Linked → Option Linked
  | [], here, .object _ => some (.link here)
  | [], _, node => some node
  | part :: rest, here, node =>
      let (here, node) := match node with
        | .link path => (path, (at? path root).getD node)
        | node => (here, node)
      match node with
      | .object entries =>
          match entry? part entries with
          | some next => find? root rest (here ++ [part]) next
          | none => none
      | _ => none

mutual

/-- Settings as a JSON value, in which `expand` tells what a link leads to. -/
def unfold (expand : List String → Json) : Linked → Json
  | .plain value => value
  | .list items => .array (unfoldItems expand items)
  | .object entries => .object (unfoldEntries expand entries)
  | .link path => expand path

def unfoldItems (expand : List String → Json) : List Linked → List Json
  | [] => []
  | item :: rest => unfold expand item :: unfoldItems expand rest

def unfoldEntries (expand : List String → Json) : List (String × Linked) → Members
  | [] => []
  | (key, node) :: rest => (key, unfold expand node) :: unfoldEntries expand rest

end

/-- The section that a link leads to.  Links inside it are expanded, too, but only to a
depth: a section may lie inside itself. -/
def expand (root : Linked) : Nat → List String → Json
  | 0, _ => .object []
  | depth + 1, path =>
      match at? path root with
      | some node => unfold (expand root depth) node
      | none => .object []

end Linked

/-- How many links are expanded one inside the other.  Filters, their conditions and the keys
of these lie three levels below the settings, and nothing is read from below. -/
def linkDepth : Nat := 4

/-- The mark at the beginning of a reference. -/
def referenceMark : List Char := "__SECTION__:".toList

/-- Takes every mark out of a text, after the first `skip` characters are dropped. -/
def eraseMarks (skip : Nat) : List Char → List Char
  | [] => []
  | c :: rest =>
      match skip with
      | skip + 1 => eraseMarks skip rest
      | 0 =>
          if referenceMark.isPrefixOf (c :: rest) then eraseMarks (referenceMark.length - 1) rest
          else c :: eraseMarks 0 rest

/-- A reference may be written as a JSON string inside of a string. -/
def unwrapReference (text : String) : String :=
  if ('"' :: referenceMark).isPrefixOf text.toList then
    match Json.readEntry? text.toList with
    | some (.string value) => value
    | _ => text
  else text

/-- What a value stands for.  A mark has to be at the beginning of a string, and a reference
has to lead somewhere. -/
def follow (root : Linked) : Json → Except SettingsError Linked
  | .string written =>
      let text := unwrapReference written
      if referenceMark.isPrefixOf text.toList then
        match root.find? (pathOf (String.ofList (eraseMarks 0 text.toList))) [] root with
        | some found => .ok found
        | none => .error .invalid
      else if occursIn referenceMark text.toList then .error .invalid
      else .ok (.plain (.string text))
  | value => .ok (.plain value)

def followItems (root : Linked) : List Json → Except SettingsError (List Linked)
  | [] => .ok []
  | item :: rest =>
      match follow root item with
      | .error cause => .error cause
      | .ok found =>
          match followItems root rest with
          | .error cause => .error cause
          | .ok others => .ok (found :: others)

mutual

/-- Follows the references in the value at a path. -/
def followAt (path : List String) : Json → Linked → Except SettingsError Linked
  | .object members, root => followMembers path members root
  | .array items, root =>
      match followItems root items with
      | .error cause => .error cause
      | .ok found => .ok (Linked.putAt (.list found) path root)
  | value, root =>
      match follow root value with
      | .error cause => .error cause
      | .ok found => .ok (Linked.putAt found path root)

/-- Follows the references in the members of the section at a path, in order. -/
def followMembers (path : List String) :
    List (String × Json) → Linked → Except SettingsError Linked
  | [], root => .ok root
  | (key, value) :: rest, root =>
      match followAt (path ++ [key]) value root with
      | .error cause => .error cause
      | .ok root => followMembers path rest root

end

def followAll (settings : Json) : Except SettingsError Json :=
  match followAt [] settings (.ofJson settings) with
  | .error cause => .error cause
  | .ok root => .ok (root.unfold (root.expand linkDepth))

def readLines (lines : List (List Char)) : Except SettingsError Json :=
  match treeOf lines with
  | .error cause => .error cause
  | .ok settings => followAll settings

def read (text : String) : Except SettingsError Json :=
  readLines (Text.lines (Text.unifyLineEnds text.toList))

end GrammarSieve.Settings
