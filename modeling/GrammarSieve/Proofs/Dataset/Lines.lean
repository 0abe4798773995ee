/-
The lines of a file and the entries in them.  A line ends at a line feed, at a carriage return, or
at a carriage return with a line feed behind it, and nothing else ends one.  An entry is what is
left of a line without the blanks around it, and lines of which nothing is left hold no entry,
although they count when lines are numbered.
-/
import GrammarSieve.Proofs.Dataset.RoundTrip

namespace GrammarSieve

namespace Text

/-- Nothing in the text ends a line. -/
structure Unbroken (line : List Char) : Prop where
  feed_not_mem : '\n' ∉ line
  return_not_mem : '\r' ∉ line

/-- The text has these lines.  The last one ends with the text, and may be empty. -/
inductive Lined : List Char → List (List Char) → Prop where
  | last {line : List Char} (h : Unbroken line) : Lined line [line]
  | lineFeed {line rest : List Char} {others : List (List Char)} (h : Unbroken line)
      (hrest : Lined rest others) : Lined (line ++ '\n' :: rest) (line :: others)
  | returnFeed {line rest : List Char} {others : List (List Char)} (h : Unbroken line)
      (hrest : Lined rest others) : Lined (line ++ '\r' :: '\n' :: rest) (line :: others)
  | carriageReturn {line rest : List Char} {others : List (List Char)} (h : Unbroken line)
      (hrest : Lined rest others) (hfeed : rest.head? ≠ some '\n') :
      Lined (line ++ '\r' :: rest) (line :: others)

theorem unifyLineEnds_cons {c : Char} (hc : c ≠ '\r') (rest : List Char) :
    unifyLineEnds (c :: rest) = c :: unifyLineEnds rest := by
  rw [unifyLineEnds]
  · exact fun _ heq _ => hc heq
  · exact hc

theorem unifyLineEnds_append {line : List Char} (h : '\r' ∉ line) (rest : List Char) :
    unifyLineEnds (line ++ rest) = line ++ unifyLineEnds rest := by
  induction line with
  | nil => rfl
  | cons c line ih =>
      rw [List.mem_cons, not_or] at h
      rw [List.cons_append, unifyLineEnds_cons (Ne.symm h.1), ih h.2, List.cons_append]

theorem unifyLineEnds_return {rest : List Char} (h : rest.head? ≠ some '\n') :
    unifyLineEnds ('\r' :: rest) = '\n' :: unifyLineEnds rest := by
  cases rest with
  | nil => rfl
  | cons c rest =>
      rw [unifyLineEnds]
      rintro other ⟨⟩
      exact h rfl

theorem lines_append {line : List Char} (h : '\n' ∉ line) (rest : List Char) :
    lines (line ++ '\n' :: rest) = line :: lines rest :=
  List.splitOn_append_cons_self_of_not_mem h rest

theorem Lined.lines_eq {text : List Char} {found : List (List Char)} (h : Lined text found) :
    lines (unifyLineEnds text) = found := by
  induction h with
  | last h =>
      rw [unifyLineEnds_eq_self h.return_not_mem]
      exact List.splitOn_eq_singleton h.feed_not_mem
  | lineFeed h _ ih =>
      rw [unifyLineEnds_append h.return_not_mem, unifyLineEnds_cons (by decide),
        lines_append h.feed_not_mem, ih]
  | returnFeed h _ ih =>
      rw [unifyLineEnds_append h.return_not_mem, unifyLineEnds, lines_append h.feed_not_mem, ih]
  | carriageReturn h _ hfeed ih =>
      rw [unifyLineEnds_append h.return_not_mem, unifyLineEnds_return hfeed,
        lines_append h.feed_not_mem, ih]

theorem Unbroken.cons {c : Char} {line : List Char} (h : Unbroken line) (hfeed : c ≠ '\n')
    (hreturn : c ≠ '\r') : Unbroken (c :: line) where
  feed_not_mem := by simp [h.feed_not_mem, Ne.symm hfeed]
  return_not_mem := by simp [h.return_not_mem, Ne.symm hreturn]

theorem unbroken_nil : Unbroken [] :=
  ⟨List.not_mem_nil, List.not_mem_nil⟩

end Text

namespace Dataset

/-- The entries of lines that are numbered from here on, each with the number of its line. -/
def entriesFrom (number : Nat) (lines : List (List Char)) : List (Nat × List Char) :=
  ((lines.zipIdx number).map fun (line, n) => (n, Text.strip line)).filter (·.2 ≠ [])

/-- The entries of lines that are counted from one. -/
def entries (lines : List (List Char)) : List (Nat × List Char) :=
  entriesFrom 1 lines

theorem entriesFrom_cons (number : Nat) (line : List Char) (rest : List (List Char)) :
    entriesFrom number (line :: rest) =
      (if Text.strip line = [] then [] else [(number, Text.strip line)]) ++
        entriesFrom (number + 1) rest := by
  by_cases h : Text.strip line = [] <;> simp [entriesFrom, h]

/-- The entry is read as this document. -/
def ReadsAs (dialect : Json.Dialect) (entry : Nat × List Char) (document : Json) : Prop :=
  Json.readText? dialect entry.2 = some document

/-- The entries are read in order, up to the first one that is no JSON. -/
inductive Reads (dialect : Json.Dialect) (entries : List (Nat × List Char)) : Documents → Prop where
  | all {documents : List Json} (h : List.Forall₂ (ReadsAs dialect) entries documents) :
      Reads dialect entries ⟨documents, none⟩
  | upTo {before after : List (Nat × List Char)} {number : Nat} {line : List Char}
      {documents : List Json} (hsplit : entries = before ++ (number, line) :: after)
      (hbefore : List.Forall₂ (ReadsAs dialect) before documents)
      (hbad : Json.readText? dialect line = none) :
      Reads dialect entries ⟨documents, some (.badLine number (String.ofList line))⟩

theorem Reads.cons {dialect : Json.Dialect} {entry : Nat × List Char}
    {entries : List (Nat × List Char)} {document : Json} {found : Documents}
    (h : ReadsAs dialect entry document) (hrest : Reads dialect entries found) :
    Reads dialect (entry :: entries) { found with found := document :: found.found } := by
  cases hrest with
  | all hall => exact .all (.cons h hall)
  | upTo hsplit hbefore hbad =>
      exact .upTo (by rw [hsplit, List.cons_append]) (.cons h hbefore) hbad

theorem Reads.eq_of_nil {dialect : Json.Dialect} {found : Documents} (h : Reads dialect [] found) :
    found = ⟨[], none⟩ := by
  cases h with
  | all hall =>
      cases hall
      rfl
  | upTo hsplit => simp at hsplit

/-- The first entry is no JSON and ends the reading, or it is read and the others are, too. -/
theorem Reads.of_cons {dialect : Json.Dialect} {entry : Nat × List Char}
    {entries : List (Nat × List Char)} {found : Documents}
    (h : Reads dialect (entry :: entries) found) :
    (Json.readText? dialect entry.2 = none ∧
      found = ⟨[], some (.badLine entry.1 (String.ofList entry.2))⟩) ∨
    ∃ document others, ReadsAs dialect entry document ∧ Reads dialect entries others ∧
      found = { others with found := document :: others.found } := by
  cases h with
  | all hall =>
      rcases hall with _ | ⟨hentry, hrest⟩
      exact .inr ⟨_, _, hentry, .all hrest, rfl⟩
  | @upTo before after number line documents hsplit hbefore hbad =>
      rcases hbefore with _ | ⟨hentry, hrest⟩
      · rcases List.cons.inj hsplit with ⟨rfl, -⟩
        exact .inl ⟨hbad, rfl⟩
      · rcases List.cons.inj hsplit with ⟨rfl, hothers⟩
        exact .inr ⟨_, _, hentry, .upTo hothers hrest hbad, rfl⟩

/-- Entries are read in one way. -/
theorem Reads.unique {dialect : Json.Dialect} {entries : List (Nat × List Char)}
    {found found' : Documents} (h : Reads dialect entries found)
    (h' : Reads dialect entries found') : found = found' := by
  induction entries generalizing found found' with
  | nil => rw [h.eq_of_nil, h'.eq_of_nil]
  | cons entry entries ih =>
      rcases h.of_cons with ⟨hbad, rfl⟩ | ⟨document, others, hread, hrest, rfl⟩
      · rcases h'.of_cons with ⟨-, rfl⟩ | ⟨document, others, hread, -, -⟩
        · rfl
        · rw [ReadsAs, hbad] at hread
          contradiction
      · rcases h'.of_cons with ⟨hbad, -⟩ | ⟨document', others', hread', hrest', rfl⟩
        · rw [ReadsAs, hbad] at hread
          contradiction
        · rw [ReadsAs, hread, Option.some.injEq] at hread'
          rw [ih hrest hrest', hread']

theorem reads_ofLines (dialect : Json.Dialect) (number : Nat) (lines : List (List Char)) :
    Reads dialect (entriesFrom number lines) (ofLines dialect number lines) := by
  induction lines generalizing number with
  | nil => exact .all .nil
  | cons line rest ih =>
      rw [entriesFrom_cons, ofLines]
      by_cases hblank : Text.strip line = []
      · simpa [hblank] using ih (number + 1)
      · simp only [hblank, List.isEmpty_iff, ↓reduceIte, List.singleton_append]
        cases hread : Json.readText? dialect (Text.strip line) with
        | none => exact .upTo (List.nil_append _).symm .nil hread
        | some document => exact (ih (number + 1)).cons hread

end Dataset

end GrammarSieve
