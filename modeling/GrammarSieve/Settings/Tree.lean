/-
Settings as one JSON object.  The name of a section is a path of parts with points between
them, and a section is placed inside the section of its path.  Sections are placed in the
order of their paths, the shallow ones first.  Every value is read as JSON if it can be, and
is plain text otherwise.
-/
import GrammarSieve.Settings.Entries
import GrammarSieve.Json.Lenient
import GrammarSieve.Text.WordCharacter

namespace GrammarSieve.Settings

/-- Takes the quotes off a value that is a JSON string, unless its text is one of the three
constants of JSON. -/
def unquote (text : List Char) : List Char :=
  match Json.readEntry? text with
  | some (.string value) =>
      if value ∈ ["true", "false", "null"] then text else value.toList
  | _ => text

/-- A doubled dollar sign stands for one. -/
def undouble : List Char → Except SettingsError (List Char)
  | [] => .ok []
  | '$' :: '$' :: rest =>
      match undouble rest with
      | .ok text => .ok ('$' :: text)
      | .error cause => .error cause
  | '$' :: _ => .error .strayDollar
  | c :: rest =>
      match undouble rest with
      | .ok text => .ok (c :: text)
      | .error cause => .error cause

def isPlaceholderName (c : Char) : Bool :=
  Text.isWordCharacter c || c = '.' || c = ':'

/-- A placeholder begins here: a dollar sign, and a name in braces. -/
def opensPlaceholder : List Char → Bool
  | '$' :: '\x7b' :: rest =>
      !(rest.takeWhile isPlaceholderName).isEmpty &&
        (rest.dropWhile isPlaceholderName).head? = some '\x7d'
  | _ => false

/-- Some placeholder stands in the text. -/
def holdsPlaceholder : List Char → Bool
  | [] => false
  | c :: rest => opensPlaceholder (c :: rest) || holdsPlaceholder rest

/-- The value that a text spells after its dollar signs have been undoubled.  A JSON string
keeps its quotes if a placeholder stands in it. -/
def spelled (text : List Char) : Json :=
  match Json.readEntry? text with
  | some (.string value) => .string (if holdsPlaceholder text then String.ofList text else value)
  | some value => value
  | none => .string (String.ofList text)

def valueOf (text : List Char) : Except SettingsError Json :=
  match undouble (unquote text) with
  | .error cause => .error cause
  | .ok plain => .ok (spelled plain)

def putEntries : List (String × List Char) → Members → Except SettingsError Members
  | [], members => .ok members
  | (key, text) :: rest, members =>
      match valueOf text with
      | .error cause => .error cause
      | .ok value => putEntries rest (Members.put key value members)

def pathOf (name : String) : List String :=
  (name.toList.splitOn '.').map String.ofList

/-- What makes a path with a star in it sort in the order of the text: the part after a star
counts for nothing.  A part that counts for nothing is no star either. -/
def maskedPath : List String → List (Option String)
  | [] => []
  | part :: rest => some part :: mask (some part) rest
where
  mask (before : Option String) : List String → List (Option String)
    | [] => []
    | part :: rest =>
        let masked := if before = some "*" then none else some part
        masked :: mask masked rest

/-- The order of paths, part by part; a part that counts for nothing comes first. -/
def pathBefore : List (Option String) → List (Option String) → Bool
  | [], _ => true
  | _ :: _, [] => false
  | left :: lefts, right :: rights =>
      if left = right then pathBefore lefts rights
      else
        match left, right with
        | some l, some r => l < r
        | none, _ => true
        | some _, none => false

def occursIn (part : List Char) : List Char → Bool
  | [] => part.isEmpty
  | c :: rest => part.isPrefixOf (c :: rest) || occursIn part rest

/-- Why a part of a path is not found in a value that is no section. -/
def missingIn (part : String) : Json → SettingsError
  | .string text => if occursIn part.toList text.toList then .insideValue else .invalid
  | .array items => if Json.hasString part items then .insideValue else .invalid
  | _ => .insideValue

/-- Why the entries of a section find no place where a value is.  A stray dollar sign among
them is noticed before the value that is in the way. -/
def blocked (entries : List (String × List Char)) : SettingsError :=
  match putEntries entries [] with
  | .error cause => cause
  | .ok _ => .invalid

/-- Places the entries of a section at the end of its path.  The sections on the way have to
be there already, but for starred ones. -/
def place (entries : List (String × List Char)) : List String → Json → Except SettingsError Json
  | [], node => .ok node
  | [part], .object members =>
      match (Members.get? part members).getD (Json.object []) with
      | .object inner =>
          match putEntries entries inner with
          | .error cause => .error cause
          | .ok inner => .ok (.object (Members.put part (.object inner) members))
      | _ => .error (blocked entries)
  | [_], _ => .error (blocked entries)
  | part :: rest, .object members =>
      let found := Members.get? part members
      if found.isNone && part ≠ "*" then .error .invalid
      else
        match place entries rest (found.getD (.object [])) with
        | .error cause => .error cause
        | .ok inner => .ok (.object (Members.put part inner members))
  | part :: _, node =>
      if part = "*" then .error .starInsideValue else .error (missingIn part node)

def placeAll : List (String × List (String × List Char)) → Json → Except SettingsError Json
  | [], tree => .ok tree
  | (name, entries) :: rest, tree =>
      match place entries (pathOf name) tree with
      | .error cause => .error cause
      | .ok tree => placeAll rest tree

/-- The order in which sections are placed: by path, then the shallow ones first. -/
def placingOrder (sections : List (String × List (String × List Char))) :
    List (String × List (String × List Char)) :=
  let byPath := sections.mergeSort fun left right =>
    pathBefore (maskedPath (pathOf left.1)) (maskedPath (pathOf right.1))
  byPath.mergeSort fun left right => (pathOf left.1).length ≤ (pathOf right.1).length

/-- The settings that stand on lines, with every reference as it is written. -/
def treeOf (lines : List (List Char)) : Except SettingsError Json :=
  match readSections lines with
  | .error cause => .error cause
  | .ok sections => placeAll (placingOrder sections) (.object [])

end GrammarSieve.Settings
