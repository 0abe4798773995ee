/-
The console.  It prints a header and the names of the filters, and then reads one document a
line and reports which filters the vine passes.  An entry of `exit`, or the end of the input,
closes it.  How an entry is read as JSON is left open.
-/
import GrammarSieve.Manager.Evaluation
import GrammarSieve.Vine.Document

namespace GrammarSieve.Console

def version : String := "1.0.0"

/-- The entry that closes the console. -/
def closing : List Char := ['e', 'x', 'i', 't']

/-- What the console has printed and reported, the input it has not read, why it broke off, if
it did, and the manager as it leaves it. -/
structure Transcript where
  printed : String
  unread : String
  notices : List Notice
  fault : Option (Failure ManagerError)
  manager : Manager
deriving Repr

def header (m : Manager) : String :=
  "Vine filter version " ++ version ++ "\n" ++
    "Modifier relations are " ++ ", ".intercalate m.modifierRelations ++ "\n\n"

def filterLine (m : Manager) : String :=
  "Filters: " ++
    "; ".intercalate (m.registry.sortedNames.map fun name => "'" ++ name ++ "'") ++ "\n"

def verdict (id : String) (passed : List String) : String :=
  if passed.isEmpty then "Vine '" ++ id ++ "' passed no filters.\n"
  else "Vine '" ++ id ++ "' passed: " ++ "; ".intercalate passed ++ "\n"

def notJson : String := "✘ Entry is not valid JSON.\n"

def notVine : String := "✘ Entry is not a valid vine.\n"

def unreadOf (lines : List (List Char)) : String :=
  String.ofList (['\n'].intercalate lines)

section

variable (depths : Depths) (read? : List Char → Option Json)

/-- Answers entries, one a line, until one closes the console. -/
def answer (m : Manager) : List (List Char) → Transcript
  | [] => ⟨"", "", [], none, m⟩
  | line :: rest =>
      let entry := Text.strip line
      if entry = closing then ⟨"", unreadOf rest, [], none, m⟩
      else if entry.isEmpty then answer m rest
      else
        match read? entry with
        | none =>
            let later := answer m rest
            { later with printed := notJson ++ later.printed }
        | some document =>
            match Vine.read depths document with
            | .error cause => ⟨"", unreadOf rest, [], some (.brokenOff cause), m⟩
            | .ok (none, notices) =>
                let later := answer m rest
                { later with
                  printed := notVine ++ later.printed, notices := notices ++ later.notices }
            | .ok (some vine, notices) =>
                match Trial.evaluate ⟨m, vine⟩ with
                | .error cause after =>
                    ⟨"", unreadOf rest, notices, some (.reported cause), after.manager⟩
                | .ok passed after =>
                    let later := answer after.manager rest
                    { later with
                      printed := verdict vine.id passed ++ later.printed
                      notices := notices ++ later.notices }

def run (m : Manager) (input : String) : Transcript :=
  if m.registry.isEmpty then ⟨header m, input, [], some (.reported .noFilters), m⟩
  else
    let later := answer depths read? m (Text.lines input.toList)
    { later with printed := header m ++ filterLine m ++ "\nFilter mode\n\n" ++ later.printed }

end

end GrammarSieve.Console
