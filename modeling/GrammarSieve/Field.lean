/-
The parts of a vine that a condition can address.  A part is named by its key or by its full
name, in any case and with blanks around it.
-/
import GrammarSieve.Text.Blank
import GrammarSieve.Text.Lowercase
import GrammarSieve.Text.Quoted

namespace GrammarSieve

inductive Field where
  | text
  | scrubbedText
  | posTags
  | governor
  | dependent
deriving DecidableEq, Repr

namespace Field

/-- Every field, in the order in which names are compared with them. -/
def all : List Field :=
  [.text, .scrubbedText, .posTags, .governor, .dependent]

def key : Field → String
  | .text => "text"
  | .scrubbedText => "scrubbed_text"
  | .posTags => "pos_tags"
  | .governor => "governor"
  | .dependent => "dependent"

def fullName : Field → String
  | .text => "TEXT"
  | .scrubbedText => "SCRUBBED_TEXT"
  | .posTags => "POS_TAGS"
  | .governor => "GRAMMAR_DEPENDENCY_GOVERNOR"
  | .dependent => "GRAMMAR_DEPENDENCY_DEPENDENT"

/-- The field with this full name, letter by letter. -/
def ofFullName? (name : String) : Option Field :=
  all.find? (·.fullName == name)

/-- The field goes by this name, which is stripped and in lower case. -/
def answersTo (field : Field) (name : List Char) : Bool :=
  name == field.key.toList || name == Text.lower field.fullName.toList

/-- The field of a name as a user writes it. -/
def ofName? (name : String) : Option Field :=
  all.find? (·.answersTo (Text.lower (Text.strip name.toList)))

end Field

inductive FieldError where
  | unknown (name : String)
  /-- The field is not an endpoint of an edge. -/
  | notAnEndpoint (field : Field)
deriving DecidableEq, Repr

def FieldError.message : FieldError → String
  | .unknown name => "Unknown field type " ++ Text.quoted name
  | .notAnEndpoint field => "Not a grammar dependency field: FieldType." ++ field.fullName

/-- The field of a name, or the complaint that there is none. -/
def Field.ofName (name : String) : Except FieldError Field :=
  match Field.ofName? name with
  | some field => .ok field
  | none => .error (.unknown name)

end GrammarSieve
