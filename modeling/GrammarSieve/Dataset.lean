/-
Files of vines.  A file of JSON lines holds one document a line, and blank lines do not count
as documents; any other file holds one JSON value, an array of documents or a single one.
Documents that describe no vine are reported and left out.  Vines are written as JSON lines,
together with their logs.  Which texts are JSON, and how values are written, is left open.
-/
import GrammarSieve.Vine.Document
import GrammarSieve.Json.Lenient

namespace GrammarSieve

/-- Why the documents of a file cannot be read. -/
inductive DatasetError where
  /-- A line is no JSON.  Lines are counted from one. -/
  | badLine (number : Nat) (line : String)
  | notJson
  /-- The file holds a JSON value without documents. -/
  | noDocuments
deriving DecidableEq, Repr

def DatasetError.message : DatasetError → String
  | .badLine number line => "Invalid JSON on line " ++ toString number ++ ": " ++ line
  | .notJson | .noDocuments => ""

namespace Dataset

/-- The documents that were read, and what ended the reading early. -/
structure Documents where
  found : List Json
  fault : Option DatasetError
deriving Repr

/-- The documents of JSON lines, up to the first line that is no JSON. -/
def ofLines (dialect : Json.Dialect) : Nat → List (List Char) → Documents
  | _, [] => ⟨[], none⟩
  | number, line :: rest =>
      let entry := Text.strip line
      if entry.isEmpty then ofLines dialect (number + 1) rest
      else
        match Json.readText? dialect entry with
        | none => ⟨[], some (.badLine number (String.ofList entry))⟩
        | some document =>
            let others := ofLines dialect (number + 1) rest
            { others with found := document :: others.found }

/-- The documents of a JSON value.  The characters of a string count as documents, too. -/
def ofValue : Json → Documents
  | .object members => ⟨[.object members], none⟩
  | .array items => ⟨items, none⟩
  | .string text => ⟨text.toList.map fun c => .string (String.ofList [c]), none⟩
  | _ => ⟨[], some .noDocuments⟩

/-- The file holds JSON lines, by its name. -/
def holdsLines (file : String) : Bool :=
  ".jsonl".toList.isSuffixOf file.toList

def documents (dialect : Json.Dialect) (file content : String) : Documents :=
  let text := Text.unifyLineEnds content.toList
  if holdsLines file then ofLines dialect 1 (Text.lines text)
  else
    match Json.readText? dialect text with
    | none => ⟨[], some .notJson⟩
    | some value => ofValue value

/-- The vines that documents describe, and a notice for each document that describes none.  It ends
with the first document whose reading breaks off. -/
def readAll (depths : Depths) : List Json → Except Breakdown (List Vine) × List Notice
  | [] => (.ok [], [])
  | document :: rest =>
      match Vine.read depths document with
      | .error cause => (.error cause, [])
      | .ok (v, notices) =>
          let (others, more) := readAll depths rest
          (others.map (v.toList ++ ·), notices ++ more)

/-- Reads the vines of a file that is written in a dialect of JSON.  A last notice counts the
documents that were left out. -/
def readIn (depths : Depths) (dialect : Json.Dialect) (file content : String) :
    Except (Failure DatasetError) (List Vine) × List Notice :=
  let documents := documents dialect file content
  match readAll depths documents.found with
  | (.error cause, notices) => (.error (.brokenOff cause), notices)
  | (.ok vines, notices) =>
      match documents.fault with
      | some cause => (.error (.reported cause), notices)
      | none =>
          let total := documents.found.length
          let left := total - vines.length
          (.ok vines, if left = 0 then notices else notices ++ [.skipped left total file])

/-- Reads the vines of a file.  Files are written in the lenient dialect. -/
def read (depths : Depths) (file content : String) :
    Except (Failure DatasetError) (List Vine) × List Notice :=
  readIn depths Json.lenient file content

/-- The text of a file of JSON lines with these vines, if the document of each can be written. -/
def writeIn? (write? : Json → Option (List Char)) : List Vine → Option (List Char)
  | [] => some []
  | v :: rest =>
      match write? (.object v.toDocument), writeIn? write? rest with
      | some line, some others => some (line ++ '\n' :: others)
      | _, _ => none

/-- The text of a file of JSON lines with these vines, if each has a stored text. -/
def write? (vines : List Vine) : Option (List Char) :=
  writeIn? Json.store? vines

end Dataset

end GrammarSieve
