/-
The lines of a settings text.  A header in brackets opens a section, and a section holds keys
with values.  A line that is indented deeper than the line of its key continues the value.
Lines that begin with a number sign or a semicolon are comments.  A value may run over blank
lines, and blank lines at its end do not count.
-/
import GrammarSieve.Text.Blank

namespace GrammarSieve

inductive SettingsError where
  /-- A line stands before any header or has no key, a section has no place, or a reference
  leads nowhere. -/
  | invalid
  | repeatedSection (name : String)
  | repeatedKey (name key : String)
  /-- A dollar sign is followed neither by another one nor by a brace. -/
  | strayDollar
  | insideValue
  /-- A starred section lies inside a value that is no section. -/
  | starInsideValue
deriving DecidableEq, Repr

namespace Settings

/-- A section as it is read: its name, and its keys with the lines of their values, the last
line first. -/
structure Section where
  name : String
  entries : List (String × List (List Char))
deriving DecidableEq, Repr

/-- The name of the section whose keys stand outside of all others. -/
def outerName : String := "DEFAULT"

/-- The state of reading lines: the sections read so far in order, the open section and the
key whose value may continue, how deep that key is indented, and whether a line was faulty. -/
structure Reading where
  sections : List Section
  current : Option String
  key : Option String
  indent : Nat
  faulty : Bool
deriving DecidableEq, Repr

def Reading.start : Reading :=
  ⟨[], none, none, 0, false⟩

def Reading.section? (reading : Reading) (name : String) : Option Section :=
  reading.sections.find? (·.name == name)

def Reading.update (reading : Reading) (name : String) (change : Section → Section) : Reading :=
  { reading with
    sections := reading.sections.map fun s => if s.name = name then change s else s }

def Section.addLine (key : String) (line : List Char) (s : Section) : Section :=
  { s with
    entries := s.entries.map fun entry =>
      if entry.1 = key then (entry.1, line :: entry.2) else entry }

def indentOf (line : List Char) : Nat :=
  (line.takeWhile Text.isBlank).length

def isComment : List Char → Bool
  | '#' :: _ => true
  | ';' :: _ => true
  | _ => false

/-- The name in a header: what stands between the opening bracket of the line and the last
closing one. -/
def header? : List Char → Option String
  | '[' :: rest =>
      match (rest.reverse.dropWhile (· ≠ ']')).drop 1 with
      | [] => none
      | name => some (String.ofList name.reverse)
  | _ => none

def cutAtDelimiter (line : List Char) : Option (List Char × List Char) :=
  let isDelimiter (c : Char) : Bool := c = '=' || c = ':'
  match line.dropWhile (!isDelimiter ·) with
  | [] => none
  | _ :: value => some (line.takeWhile (!isDelimiter ·), value)

/-- Opens a section.  Only the outer section may be opened twice. -/
def Reading.openSection (reading : Reading) (name : String) : Except SettingsError Reading :=
  match reading.section? name with
  | none =>
      .ok { reading with
        sections := reading.sections ++ [⟨name, []⟩], current := some name, key := none }
  | some _ =>
      if name = outerName then .ok { reading with current := some name, key := none }
      else .error (.repeatedSection name)

/-- Adds a key to the open section.  An empty key is a fault of the line. -/
def Reading.addKey (reading : Reading) (name key : String) (value : List Char) :
    Except SettingsError Reading :=
  let taken := match reading.section? name with
    | none => false
    | some s => s.entries.any (·.1 == key)
  if taken then .error (.repeatedKey name key)
  else
    let added := reading.update name fun s => { s with entries := s.entries ++ [(key, [value])] }
    .ok { added with
      key := if key.isEmpty then none else some key, faulty := reading.faulty || key.isEmpty }

def Reading.line (reading : Reading) (line : List Char) : Except SettingsError Reading :=
  let value := Text.strip line
  if isComment value then .ok reading
  else
    match reading.current, reading.key with
    | some name, some key =>
        if value.isEmpty then .ok (reading.update name (Section.addLine key []))
        else if reading.indent < indentOf line then
          .ok (reading.update name (Section.addLine key value))
        else fresh value
    | _, _ => if value.isEmpty then .ok reading else fresh value
where
  /-- A line that does not continue a value. -/
  fresh (value : List Char) : Except SettingsError Reading :=
    let reading := { reading with indent := indentOf line }
    match header? value, reading.current with
    | some name, _ => reading.openSection name
    | none, none => .error .invalid
    | none, some name =>
        match cutAtDelimiter value with
        | none => .ok { reading with faulty := true }
        | some (key, value) =>
            reading.addKey name (String.ofList (Text.stripRight key)) (Text.strip value)

def Reading.lines : Reading → List (List Char) → Except SettingsError Reading
  | reading, [] => .ok reading
  | reading, line :: rest =>
      match reading.line line with
      | .error cause => .error cause
      | .ok next => next.lines rest

/-- The text of a value: its lines, without blanks at the end. -/
def joinLines (reversedLines : List (List Char)) : List Char :=
  Text.stripRight (['\n'].intercalate reversedLines.reverse)

/-- Reads the sections that stand on lines, in order, with the text of each value.  Nothing
may stand in the outer section. -/
def readSections (lines : List (List Char)) :
    Except SettingsError (List (String × List (String × List Char))) :=
  match Reading.start.lines lines with
  | .error cause => .error cause
  | .ok reading =>
      let outer := reading.sections.filter (·.name == outerName)
      if reading.faulty || outer.any (!·.entries.isEmpty) then .error .invalid
      else
        .ok ((reading.sections.filter (·.name != outerName)).map fun s =>
          (s.name, s.entries.map fun entry => (entry.1, joinLines entry.2)))

end Settings

end GrammarSieve
