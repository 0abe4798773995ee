/-
Writing vines to a file and reading the file again.  A stored document is one line without blanks
around it, so the lines of the file are the stored documents and an empty rest, and each line is
read as its document.  Only the logs are lost on the way.
-/
import GrammarSieve.Dataset
import GrammarSieve.Proofs.Json.RoundTrip
import GrammarSieve.Proofs.Vine.Rereading

namespace GrammarSieve

namespace Text

theorem unifyLineEnds_eq_self {text : List Char} (h : '\r' ∉ text) : unifyLineEnds text = text := by
  induction text with
  | nil => rfl
  | cons c rest ih =>
      obtain ⟨hc, hrest⟩ : '\r' ≠ c ∧ '\r' ∉ rest := by simpa using h
      rw [unifyLineEnds, ih hrest]
      · exact fun _ heq _ => hc heq.symm
      · exact fun heq => hc heq.symm

/-- Lines that are written one after the other are found again, with an empty one behind them. -/
theorem lines_flatMap {texts : List (List Char)} (h : ∀ line ∈ texts, '\n' ∉ line) :
    lines (texts.flatMap (· ++ ['\n'])) = texts ++ [[]] := by
  induction texts with
  | nil => rfl
  | cons line rest ih =>
      obtain ⟨hline, hrest⟩ := List.forall_mem_cons.mp h
      have hlines := ih hrest
      rw [lines] at hlines
      rw [lines, List.flatMap_cons, List.append_assoc, List.singleton_append,
        List.splitOn_append_cons_self_of_not_mem hline, hlines, List.cons_append]

theorem strip_eq_self {first last : Char} (hfirst : isBlank first = false)
    (hlast : isBlank last = false) (inside : List Char) :
    strip (first :: (inside ++ [last])) = first :: (inside ++ [last]) := by
  rw [strip, List.dropWhile_cons_of_neg (by simp [hfirst]), List.reverse_cons,
    List.reverse_append, List.reverse_singleton, List.singleton_append, List.cons_append,
    List.dropWhile_cons_of_neg (by simp [hlast])]
  simp

end Text

/-- A text that can stand in a line of its own, and is all that counts there. -/
structure Text.IsEntry (line : List Char) : Prop where
  feed_not_mem : '\n' ∉ line
  return_not_mem : '\r' ∉ line
  strip_eq : Text.strip line = line
  ne_nil : line ≠ []

namespace Json

/-- A document in which nothing is lost when it is written, and which is nested no deeper than the
dialect allows. -/
structure Dialect.Keeps (dialect : Dialect) (document : Json) : Prop where
  isExact : document.Exact
  fits : ∀ levels ∈ dialect.levels, document.Fits levels

/-- What is asked of a writer so that a dialect reads what it writes.  The text of a document is
compact and printed ASCII, from its first brace to its last one, and it is read as the document. -/
structure Dialect.Inverts (dialect : Dialect) (write? : Json → Option (List Char)) : Prop where
  exists_inside : ∀ members, dialect.Keeps (.object members) →
    ∃ inside, write? (.object members) = some ('\x7b' :: (inside ++ ['\x7d'])) ∧
      ∀ c ∈ inside, IsPrinted c
  readText?_eq : ∀ members text, dialect.Keeps (.object members) →
    write? (.object members) = some text → readText? dialect text = some (.object members)

/-- A printed text between braces makes a line. -/
theorem isEntry_of_braces {inside : List Char} (h : ∀ c ∈ inside, IsPrinted c) :
    Text.IsEntry ('\x7b' :: (inside ++ ['\x7d'])) := by
  have hinside {c : Char} (hc : ¬ IsPrinted c) : c ∉ inside := fun hmem => hc (h c hmem)
  exact
    { feed_not_mem := by simp [hinside (c := '\n') (by simp [IsPrinted])]
      return_not_mem := by simp [hinside (c := '\r') (by simp [IsPrinted])]
      strip_eq := Text.strip_eq_self (by decide) (by decide) inside
      ne_nil := List.cons_ne_nil _ _ }

/-- The stored text of an exact object stands between braces and is printed. -/
theorem exists_compact_eq_braces {members : Members} (h : Exact (.object members)) :
    ∃ inside, (Json.object members).compact = '\x7b' :: (inside ++ ['\x7d']) ∧
      ∀ c ∈ inside, IsPrinted c := by
  obtain ⟨inside, hinside⟩ := exists_compact_object_eq members
  refine ⟨inside, hinside, ?_⟩
  intro c hc
  apply isPrinted_of_mem_compact h c
  simp [hinside, hc]

theorem isEntry_compact {members : Members} (h : Exact (.object members)) :
    Text.IsEntry (Json.object members).compact := by
  obtain ⟨inside, hinside, hprinted⟩ := exists_compact_eq_braces h
  rw [hinside]
  exact isEntry_of_braces hprinted

/-- The lenient dialect reads stored texts, whatever nesting it allows. -/
theorem inverts_store? (levels : Option Nat) : Dialect.Inverts { lenient with levels } store? where
  exists_inside := by
    intro members h
    obtain ⟨inside, hinside, hprinted⟩ := exists_compact_eq_braces h.isExact
    exact ⟨inside, by rw [h.isExact.store?_eq, hinside], hprinted⟩
  readText?_eq := by
    intro members text h htext
    rw [h.isExact.store?_eq, Option.some.injEq] at htext
    rw [← htext]
    exact readText?_compact (readsStored_lenient levels) h.isExact h.fits

end Json

/-- The line says the document and nothing else. -/
structure Dataset.LineOf (dialect : Json.Dialect) (line : List Char) (document : Json) : Prop where
  isEntry : Text.IsEntry line
  readText?_eq : Json.readText? dialect line = some document

/-- The stored text of an exact document that fits is a line of it. -/
theorem Dataset.lineOf_compact {members : Members} (h : Json.Exact (.object members))
    (hfits : Json.Fits 1024 (.object members)) :
    LineOf Json.lenient (Json.object members).compact (.object members) where
  isEntry := Json.isEntry_compact h
  readText?_eq := Json.readText?_compact (Json.readsStored_lenient (some 1024)) h
    (by simpa using hfits)

theorem Json.Dialect.Inverts.exists_line {dialect : Json.Dialect}
    {write? : Json → Option (List Char)} (h : dialect.Inverts write?) {members : Members}
    (hkept : dialect.Keeps (.object members)) :
    ∃ line, write? (.object members) = some line ∧
      Dataset.LineOf dialect line (.object members) := by
  obtain ⟨inside, hline, hprinted⟩ := h.exists_inside members hkept
  exact ⟨_, hline, isEntry_of_braces hprinted, h.readText?_eq members _ hkept hline⟩

/-- The vine was read from a document that the dialect keeps, and any names may have been recorded
since. -/
def Vine.Writable (dialect : Json.Dialect) (v : Vine) : Prop :=
  ∃ document source names, Vine.ofDocument document = .ok source ∧ v = source.logged names ∧
    dialect.Keeps document

namespace Vine

/-- The document of a writable vine is kept as well, log and all, and it describes the vine. -/
theorem Writable.keeps_toDocument {dialect : Json.Dialect} {v : Vine} (h : v.Writable dialect) :
    dialect.Keeps (.object v.toDocument) ∧ ofDocument (.object v.toDocument) = .ok v.reread := by
  obtain ⟨document, source, names, hsource, rfl, hkept⟩ := h
  obtain ⟨members, rfl, hread⟩ := ofDocument_eq_ok_iff.mp hsource
  refine ⟨⟨?_, ?_⟩, hread.ofDocument_toDocument names⟩
  · apply exact_toDocument
    rw [logged, hread.document_eq]
    exact hkept.isExact
  · intro levels hlevels
    exact hread.fits_toDocument names (hkept.fits levels hlevels)

/-- So writable vines are written as lines, one for each. -/
theorem exists_lines {dialect : Json.Dialect} {write? : Json → Option (List Char)}
    (hwrite : dialect.Inverts write?) {vines : List Vine} (h : ∀ v ∈ vines, v.Writable dialect) :
    ∃ texts : List (List Char),
      (vines.map fun v => write? (.object v.toDocument)) = texts.map some ∧
      List.Forall₂ (Dataset.LineOf dialect) texts (vines.map fun v => .object v.toDocument) ∧
      List.Forall₂ (fun document v => ofDocument document = .ok v)
        (vines.map fun v => .object v.toDocument) (vines.map reread) := by
  induction vines with
  | nil => exact ⟨[], rfl, .nil, .nil⟩
  | cons v rest ih =>
      obtain ⟨hv, hrest⟩ := List.forall_mem_cons.mp h
      obtain ⟨hkept, hdescribes⟩ := hv.keeps_toDocument
      obtain ⟨line, hwritten, hline⟩ := hwrite.exists_line hkept
      obtain ⟨texts, htexts, hlines, hdescribed⟩ := ih hrest
      exact ⟨line :: texts, by simp [hwritten, htexts], .cons hline hlines,
        .cons hdescribes hdescribed⟩

end Vine

namespace Dataset

/-- Lines that are read as documents one by one are read as these documents. -/
theorem ofLines_eq {dialect : Json.Dialect} {texts : List (List Char)} {documents : List Json}
    (h : List.Forall₂ (LineOf dialect) texts documents) (number : Nat) :
    ofLines dialect number (texts ++ [[]]) = ⟨documents, none⟩ := by
  induction h generalizing number with
  | nil =>
      -- the rest behind the last line feed is blank
      simp [ofLines, Text.strip]
  | @cons line document texts documents hline _ ih =>
      obtain ⟨hentry, hread⟩ := hline
      have hfull : line.isEmpty = false := by simpa using hentry.ne_nil
      rw [List.cons_append, ofLines]
      simp [hentry.strip_eq, hfull, hread, ih]

/-- Documents that all describe vines are read without a notice. -/
theorem readAll_eq (depths : Depths) {documents : List Json} {vines : List Vine}
    (h : List.Forall₂ (fun document v => Vine.ofDocument document = .ok v) documents vines) :
    readAll depths documents = (.ok vines, []) := by
  induction h with
  | nil => rfl
  | cons hread _ ih => simp [readAll, Vine.read, hread, ih, Except.map]

theorem holdsLines_append (stem : String) : holdsLines (stem ++ ".jsonl") = true := by
  rw [holdsLines, List.isSuffixOf_iff_suffix, String.toList_append]
  exact List.suffix_append _ _

/-- A file of lines that are read as the documents of vines gives these vines. -/
theorem readIn_eq (depths : Depths) {dialect : Json.Dialect} (stem : String)
    {texts : List (List Char)} {documents : List Json} {vines : List Vine}
    (hlines : List.Forall₂ (LineOf dialect) texts documents)
    (hvines : List.Forall₂ (fun document v => Vine.ofDocument document = .ok v) documents vines) :
    readIn depths dialect (stem ++ ".jsonl") (String.ofList (texts.flatMap (· ++ ['\n']))) =
      (.ok vines, []) := by
  have hentries : ∀ line ∈ texts, Text.IsEntry line := by
    intro line hline
    obtain ⟨document, -, hdocument⟩ := exists_mem_of_forall₂ hlines hline
    exact hdocument.isEntry
  have hreturn : '\r' ∉ texts.flatMap (· ++ ['\n']) := by
    intro hmem
    obtain ⟨line, hline, hc⟩ := List.mem_flatMap.mp hmem
    exact (hentries line hline).return_not_mem (by simpa using hc)
  have hcontent : Dataset.documents dialect (stem ++ ".jsonl")
      (String.ofList (texts.flatMap (· ++ ['\n']))) = ⟨documents, none⟩ := by
    rw [Dataset.documents, String.toList_ofList, Text.unifyLineEnds_eq_self hreturn,
      Text.lines_flatMap fun line hline => (hentries line hline).feed_not_mem]
    simp only [holdsLines_append, ↓reduceIte]
    exact ofLines_eq hlines 1
  simp [readIn, hcontent, readAll_eq depths hvines, hvines.length_eq]

theorem writeIn?_eq {write? : Json → Option (List Char)} {vines : List Vine}
    {texts : List (List Char)}
    (h : (vines.map fun v => write? (.object v.toDocument)) = texts.map some) :
    writeIn? write? vines = some (texts.flatMap (· ++ ['\n'])) := by
  induction vines generalizing texts with
  | nil =>
      obtain rfl : texts = [] := List.map_eq_nil_iff.mp h.symm
      rfl
  | cons v rest ih =>
      cases texts with
      | nil => simp at h
      | cons line others =>
          obtain ⟨hv, hrest⟩ : write? (.object v.toDocument) = some line ∧
              (rest.map fun v => write? (.object v.toDocument)) = others.map some := by
            simpa using h
          rw [writeIn?, hv, ih hrest]
          simp

/-- Writing vines and reading them again loses nothing but their logs, whenever the dialect reads
what the writer writes.  The file is the texts of the documents, each with a line feed behind it,
and a file of that name gives as many vines in the same order, without a notice.  There is no bound
on nesting in a dialect that sets none. -/
theorem readIn_write_loses_only_logs (depths : Depths) {dialect : Json.Dialect}
    {write? : Json → Option (List Char)} (hwrite : dialect.Inverts write?) (stem : String)
    {vines : List Vine} (hvines : ∀ v ∈ vines, v.Writable dialect) :
    ∃ (texts : List (List Char)) (again : List Vine),
      (vines.map fun v => write? (.object v.toDocument)) = texts.map some ∧
      writeIn? write? vines = some (texts.flatMap (· ++ ['\n'])) ∧
      readIn depths dialect (stem ++ ".jsonl")
        (String.ofList (texts.flatMap (· ++ ['\n']))) = (.ok again, []) ∧
      List.Forall₂ Vine.ReadBackAs vines again := by
  obtain ⟨texts, hwritten, hlines, hdescribed⟩ := Vine.exists_lines hwrite hvines
  refine ⟨texts, vines.map Vine.reread, hwritten, writeIn?_eq hwritten,
    readIn_eq depths stem hlines hdescribed, ?_⟩
  rw [List.forall₂_map_right_iff, List.forall₂_same]
  exact fun v _ => v.readBackAs_reread

/-- Two vines of one document, one of which has passed a filter since. -/
theorem readIn_write_loses_only_logs_basil :
    let document := Json.object [("id", .string "7"), ("url", .string "v/7"),
      ("text", .string "Caf\u00e9\u2028🌿 \"basil\"\n"), ("scrubbed_text", .string "basil"),
      ("good_filters", .array [.string "stale"]), ("pos_tags", .array [.string "NN-basil"]),
      ("grammar_dependencies", .array [.string "root(ROOT-0, basil-1)"]),
      ("loops", .array [.integer 18446744073709551615, .null])]
    ∃ v, Vine.ofDocument document = .ok v ∧
      (∀ w ∈ [v.logged ["herbs"], v], w.Writable Json.lenient) ∧
      ∃ text again, write? [v.logged ["herbs"], v] = some text ∧
        read ⟨900, 900⟩ "vines.jsonl" (String.ofList text) = (.ok again, []) ∧
          List.Forall₂ Vine.ReadBackAs [v.logged ["herbs"], v] again := by
  intro document
  obtain ⟨v, hv⟩ : ∃ v, Vine.ofDocument document = .ok v := ⟨_, rfl⟩
  have hloops : Json.Exact (.array [.integer 18446744073709551615, .null]) := by
    have hword : Json.Exact (.integer 18446744073709551615) := Json.exact_integer (by decide)
    exact Json.exact_array (by simp [hword, Json.exact_null])
  have hexact : document.Exact := by
    refine Json.exact_object (by decide) ?_
    simp [Json.exact_string, Json.exact_array, hloops]
  have hfits : document.Fits 1024 := by
    have hthree : document.Fits 3 := by simp [document, Json.Fits]
    exact hthree.mono (by decide)
  have hkept : Json.lenient.Keeps document := ⟨hexact, by simpa [Json.lenient] using hfits⟩
  have hvines : ∀ w ∈ [v.logged ["herbs"], v], w.Writable Json.lenient := by
    intro w hw
    have hnames : ∃ names, w = v.logged names := by
      rcases List.mem_pair.mp hw with rfl | rfl
      · exact ⟨["herbs"], rfl⟩
      · exact ⟨[], (Vine.logged_nil _).symm⟩
    obtain ⟨names, rfl⟩ := hnames
    exact ⟨document, v, names, hv, rfl, hkept⟩
  obtain ⟨texts, again, -, hwrite, hread, hback⟩ :=
    readIn_write_loses_only_logs ⟨900, 900⟩ (Json.inverts_store? (some 1024)) "vines" hvines
  exact ⟨v, hv, hvines, _, again, hwrite, hread, hback⟩

end Dataset

end GrammarSieve
