/-
What reading a file gives.  The documents of the file are told apart into those that describe a
vine and those that are refused.  The vines are returned in order, each refusal is a notice, and a
last notice counts the refusals if there are any.  An entry that is no JSON ends the reading with
the notices so far, and a value without documents ends it with none.  So does a document whose
refusal breaks off, and it does so before any entry behind it is looked at.
-/
import GrammarSieve.Proofs.Dataset.Lines
import GrammarSieve.Proofs.Vine.Refusal

namespace GrammarSieve

/-- The value is neither a string, nor an array, nor an object. -/
def Json.IsScalar : Json → Prop
  | .null => True
  | .bool _ => True
  | .integer _ => True
  | .real _ => True
  | .string _ => False
  | .array _ => False
  | .object _ => False

namespace Dataset

/-- The vines that documents describe. -/
def vinesOf (documents : List Json) : List Vine :=
  documents.filterMap fun document => (Vine.ofDocument document).toOption

/-- The notice about a document that describes no vine. -/
def refusal? (document : Json) : Option Notice :=
  match Vine.ofDocument document with
  | .ok _ => none
  | .error cause => some (.refused (Vine.label document) cause)

def refusals (documents : List Json) : List Notice :=
  documents.filterMap refusal?

/-- The number of documents that describe no vine. -/
def refusedCount (documents : List Json) : Nat :=
  (refusals documents).length

/-- The result for documents that could all be read. -/
def whole (file : String) (documents : List Json) :
    Except (Failure DatasetError) (List Vine) × List Notice :=
  (.ok (vinesOf documents),
    refusals documents ++
      if refusedCount documents = 0 then []
      else [.skipped (refusedCount documents) documents.length file])

/-- The characters of a string, each one a string of its own. -/
def characters (text : String) : List Json :=
  text.toList.map fun c => .string (String.ofList [c])

theorem read_of_clear {depths : Depths} {document : Json}
    (h : Clear (Document.BreaksOff depths) document) :
    Vine.read depths document =
      .ok ((Vine.ofDocument document).toOption, (refusal? document).toList) := by
  cases hread : Vine.ofDocument document with
  | ok v =>
      rw [Vine.read_of_ok hread]
      simp [refusal?, hread, Except.toOption]
  | error reason =>
      rw [Vine.read_of_clear h hread]
      simp [refusal?, hread, Except.toOption]

theorem readAll_cons_of_clear {depths : Depths} {document : Json}
    (h : Clear (Document.BreaksOff depths) document) (rest : List Json) :
    readAll depths (document :: rest) =
      ((readAll depths rest).1.map (vinesOf [document] ++ ·),
        refusals [document] ++ (readAll depths rest).2) := by
  have hvines : vinesOf [document] = (Vine.ofDocument document).toOption.toList := by
    cases hvine : (Vine.ofDocument document).toOption <;> simp [vinesOf, hvine]
  have hrefusals : refusals [document] = (refusal? document).toList := by
    cases hrefusal : refusal? document <;> simp [refusals, hrefusal]
  rw [readAll, read_of_clear h, hvines, hrefusals]

/-- The reading goes on behind documents whose reading does not break off. -/
theorem readAll_append_of_clear {depths : Depths} {before : List Json}
    (h : ∀ document ∈ before, Clear (Document.BreaksOff depths) document) (after : List Json) :
    readAll depths (before ++ after) =
      ((readAll depths after).1.map (vinesOf before ++ ·),
        refusals before ++ (readAll depths after).2) := by
  induction before with
  | nil =>
      cases hresult : (readAll depths after).1 <;>
        simp [vinesOf, refusals, Prod.ext_iff, hresult, Except.map]
  | cons document rest ih =>
      obtain ⟨hdocument, hrest⟩ := List.forall_mem_cons.mp h
      have hvines : vinesOf (document :: rest) = vinesOf [document] ++ vinesOf rest := by
        rw [vinesOf, vinesOf, vinesOf, ← List.filterMap_append, List.singleton_append]
      have hrefusals : refusals (document :: rest) = refusals [document] ++ refusals rest := by
        rw [refusals, refusals, refusals, ← List.filterMap_append, List.singleton_append]
      rw [List.cons_append, readAll_cons_of_clear hdocument, ih hrest, hvines, hrefusals]
      cases hresult : (readAll depths after).1 <;> simp [Except.map]

theorem readAll_of_clear {depths : Depths} {documents : List Json}
    (h : ∀ document ∈ documents, Clear (Document.BreaksOff depths) document) :
    readAll depths documents = (.ok (vinesOf documents), refusals documents) := by
  simpa [readAll, Except.map] using readAll_append_of_clear h []

theorem readAll_of_breaksOff {depths : Depths} {before : List Json} {document : Json}
    {cause : Breakdown} (hbefore : ∀ earlier ∈ before, Clear (Document.BreaksOff depths) earlier)
    (h : Document.BreaksOff depths document cause) (after : List Json) :
    readAll depths (before ++ document :: after) = (.error cause, refusals before) := by
  have hhere : readAll depths (document :: after) = (.error cause, []) := by
    rw [readAll, h.read_eq]
  rw [readAll_append_of_clear hbefore, hhere]
  simp [Except.map]

/-- Each document either describes a vine or is refused. -/
theorem length_vinesOf_add_refusedCount (documents : List Json) :
    (vinesOf documents).length + refusedCount documents = documents.length := by
  induction documents with
  | nil => rfl
  | cons document rest ih =>
      cases hread : Vine.ofDocument document with
      | ok v =>
          simp [vinesOf, refusedCount, refusals, refusal?, hread, Except.toOption] at ih ⊢
          omega
      | error cause =>
          simp [vinesOf, refusedCount, refusals, refusal?, hread, Except.toOption] at ih ⊢
          omega

theorem exists_refused_of_mem_refusals {documents : List Json} {notice : Notice}
    (h : notice ∈ refusals documents) :
    ∃ document ∈ documents, ∃ cause, notice = .refused (Vine.label document) cause := by
  rcases List.mem_filterMap.mp h with ⟨document, hdocument, hnotice⟩
  rw [refusal?] at hnotice
  split at hnotice
  · contradiction
  · next cause _ => exact ⟨document, hdocument, cause, (Option.some.inj hnotice).symm⟩

/-- What the content of a file lists: the documents of its lines, up to the first line that is no
JSON, or what its one JSON value holds. -/
inductive Lists (dialect : Json.Dialect) (file content : String) : Documents → Prop where
  | lines {found : List (List Char)} {documents : List Json}
      (hfile : ".jsonl".toList <:+ file.toList) (hlines : Text.Lined content.toList found)
      (h : List.Forall₂ (ReadsAs dialect) (entries found) documents) :
      Lists dialect file content ⟨documents, none⟩
  | badLine {found : List (List Char)} {before after : List (Nat × List Char)} {number : Nat}
      {line : List Char} {documents : List Json}
      (hfile : ".jsonl".toList <:+ file.toList) (hlines : Text.Lined content.toList found)
      (hsplit : entries found = before ++ (number, line) :: after)
      (hbefore : List.Forall₂ (ReadsAs dialect) before documents)
      (hbad : Json.readText? dialect line = none) :
      Lists dialect file content ⟨documents, some (.badLine number (String.ofList line))⟩
  | array {items : List Json} (hfile : ¬ ".jsonl".toList <:+ file.toList)
      (h : Json.readText? dialect (Text.unifyLineEnds content.toList) = some (.array items)) :
      Lists dialect file content ⟨items, none⟩
  | object {members : Members} (hfile : ¬ ".jsonl".toList <:+ file.toList)
      (h : Json.readText? dialect (Text.unifyLineEnds content.toList) = some (.object members)) :
      Lists dialect file content ⟨[.object members], none⟩
  | string {text : String} (hfile : ¬ ".jsonl".toList <:+ file.toList)
      (h : Json.readText? dialect (Text.unifyLineEnds content.toList) = some (.string text)) :
      Lists dialect file content ⟨characters text, none⟩
  | scalar {value : Json} (hfile : ¬ ".jsonl".toList <:+ file.toList)
      (h : Json.readText? dialect (Text.unifyLineEnds content.toList) = some value)
      (hscalar : value.IsScalar) :
      Lists dialect file content ⟨[], some .noDocuments⟩
  | notJson (hfile : ¬ ".jsonl".toList <:+ file.toList)
      (h : Json.readText? dialect (Text.unifyLineEnds content.toList) = none) :
      Lists dialect file content ⟨[], some .notJson⟩

/-- The results of reading a file that lists documents. -/
inductive Yields (depths : Depths) (file : String) :
    Documents → Except (Failure DatasetError) (List Vine) × List Notice → Prop where
  | whole {found : List Json} (h : ∀ document ∈ found, Clear (Document.BreaksOff depths) document) :
      Yields depths file ⟨found, none⟩ (whole file found)
  | fault {found : List Json} {cause : DatasetError}
      (h : ∀ document ∈ found, Clear (Document.BreaksOff depths) document) :
      Yields depths file ⟨found, some cause⟩ (.error (.reported cause), refusals found)
  | brokenOff {before after : List Json} {document : Json} {fault : Option DatasetError}
      {cause : Breakdown} (hbefore : ∀ earlier ∈ before, Clear (Document.BreaksOff depths) earlier)
      (h : Document.BreaksOff depths document cause) :
      Yields depths file ⟨before ++ document :: after, fault⟩
        (.error (.brokenOff cause), refusals before)

section

variable {depths : Depths} {dialect : Json.Dialect} {file content : String}

theorem holdsLines_iff : holdsLines file = true ↔ ".jsonl".toList <:+ file.toList :=
  List.isSuffixOf_iff_suffix

theorem documents_of_lines (hfile : ".jsonl".toList <:+ file.toList) {found : List (List Char)}
    (hlines : Text.Lined content.toList found) :
    documents dialect file content = ofLines dialect 1 found := by
  rw [documents, if_pos (holdsLines_iff.mpr hfile), hlines.lines_eq]

/-- JSON lines list what their entries are read as. -/
theorem Reads.documents_eq (hfile : ".jsonl".toList <:+ file.toList) {found : List (List Char)}
    (hlines : Text.Lined content.toList found) {read : Documents}
    (h : Reads dialect (entries found) read) : documents dialect file content = read := by
  rw [documents_of_lines hfile hlines]
  exact (reads_ofLines dialect 1 found).unique h

theorem documents_of_value (hfile : ¬ ".jsonl".toList <:+ file.toList) {value : Json}
    (h : Json.readText? dialect (Text.unifyLineEnds content.toList) = some value) :
    documents dialect file content = ofValue value := by
  rw [documents, if_neg (mt holdsLines_iff.mp hfile), h]

theorem Lists.documents_eq {found : Documents} (h : Lists dialect file content found) :
    documents dialect file content = found := by
  cases h with
  | lines hfile hlines h => exact (Reads.all h).documents_eq hfile hlines
  | badLine hfile hlines hsplit hbefore hbad =>
      exact (Reads.upTo hsplit hbefore hbad).documents_eq hfile hlines
  | array hfile h => exact documents_of_value hfile h
  | object hfile h => exact documents_of_value hfile h
  | string hfile h => exact documents_of_value hfile h
  | @scalar value hfile h hscalar =>
      rw [documents_of_value hfile h]
      cases value with
      | string text => exact hscalar.elim
      | array items => exact hscalar.elim
      | object members => exact hscalar.elim
      | _ => rfl
  | notJson hfile h => rw [documents, if_neg (mt holdsLines_iff.mp hfile), h]

theorem Lists.readIn_eq {found : Documents} (h : Lists dialect file content found)
    {result : Except (Failure DatasetError) (List Vine) × List Notice}
    (hresult : Yields depths file found result) :
    readIn depths dialect file content = result := by
  rw [readIn, h.documents_eq]
  cases hresult with
  | @whole found hclear =>
      have hcount := length_vinesOf_add_refusedCount found
      have hleft : found.length - (vinesOf found).length = refusedCount found := by omega
      simp only [readAll_of_clear hclear, hleft, Dataset.whole]
      split
      · rw [List.append_nil]
      · rfl
  | fault hclear => simp only [readAll_of_clear hclear]
  | brokenOff hbefore hbreaks => simp only [readAll_of_breaksOff hbefore hbreaks]

/-- Documents of which none breaks the reading off yield the whole result. -/
theorem Yields.eq_whole {found : List Json}
    {result : Except (Failure DatasetError) (List Vine) × List Notice}
    (hclear : ∀ document ∈ found, Clear (Document.BreaksOff depths) document)
    (h : Yields depths file ⟨found, none⟩ result) : result = Dataset.whole file found := by
  cases h with
  | whole => rfl
  | @brokenOff before after document _ cause _ hbreaks =>
      exact absurd hbreaks (hclear document (by simp) cause)

/-- Listed documents yield a result: either the reading of none breaks off, or of a first one. -/
theorem exists_yields (depths : Depths) (file : String) (found : Documents) :
    ∃ result, Yields depths file found result := by
  rcases found with ⟨documents, fault⟩
  rcases forall_clear_or_firstFound (Document.BreaksOff depths) documents with
    hclear | ⟨cause, hfirst⟩
  · cases fault with
    | none => exact ⟨_, .whole hclear⟩
    | some cause => exact ⟨_, .fault hclear⟩
  · obtain ⟨before, document, after, rfl, hbefore, hbreaks⟩ := hfirst
    exact ⟨_, .brokenOff hbefore hbreaks⟩

/-- The first line is blank and counts, and the refusal on the second one has been noticed when the
third one ends the reading. -/
example : read ⟨900, 900⟩ "a.jsonl" "\n[]\r\n x \n[]" =
    (.error (.reported (.badLine 3 "x")), [.refused .null (.notObject .array)]) := by cbv

end

/-- A document with a single edge is stored as a line that is read as the document. -/
theorem lineOf_ofEdge (encoding : String) :
    LineOf Json.lenient (Document.ofEdge encoding).compact (Document.ofEdge encoding) := by
  have hfits : (Document.ofEdge encoding).Fits 1024 := by simp [Document.ofEdge, Json.Fits]
  exact lineOf_compact (Document.exact_ofEdge encoding) hfits

end Dataset

end GrammarSieve
