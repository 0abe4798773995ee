/-
The two kinds of files agree.  Texts of documents give the same vines and the same notices when
they stand in lines, one in each, and when they stand in an array with commas between them.  Line
ends, blank lines and the blanks around a text do not matter, and neither do characters within a
string that other splitters take for line ends.  The array has to be open, too, while its texts are
read, so the texts may have one level less than a file may have.
-/
import GrammarSieve.Proofs.Dataset.Reading
import GrammarSieve.Proofs.Json.ArrayText

namespace GrammarSieve

namespace Text

/-- Stripping leaves the kernel of a text. -/
theorem strip_kernel {before kernel after : List Char} (h : Json.IsKernel kernel)
    (hbefore : ∀ c ∈ before, isBlank c = true) (hafter : ∀ c ∈ after, isBlank c = true) :
    strip (before ++ (kernel ++ after)) = kernel := by
  have hfront : (before ++ (kernel ++ after)).dropWhile isBlank = kernel ++ after := by
    apply dropWhile_append_of_stop hbefore
    rcases h.first with ⟨c, rest, rfl, hc, -⟩
    rintro d ⟨⟩
    exact hc
  have hback : (after.reverse ++ kernel.reverse).dropWhile isBlank = kernel.reverse := by
    apply dropWhile_append_of_stop
    · intro c hc
      exact hafter c (List.mem_reverse.mp hc)
    · rw [List.head?_reverse]
      exact h.last
  rw [strip, hfront, List.reverse_append, hback, List.reverse_reverse]

theorem strip_of_blank {line : List Char} (h : ∀ c ∈ line, isBlank c = true) : strip line = [] := by
  have hnil : line.dropWhile isBlank = [] := List.dropWhile_eq_nil_iff.mpr h
  rw [strip, hnil]
  rfl

/-- A character that is no line feed can be cut off together with what is behind it. -/
theorem unifyLineEnds_append_cons {c : Char} (hc : c ≠ '\n') (text rest : List Char) :
    unifyLineEnds (text ++ c :: rest) = unifyLineEnds text ++ unifyLineEnds (c :: rest) := by
  fun_induction unifyLineEnds text with
  | case1 => rfl
  | case2 text ih => rw [List.cons_append, List.cons_append, unifyLineEnds, ih, List.cons_append]
  | case3 text hfeed ih =>
      have hhead : (text ++ c :: rest).head? ≠ some '\n' := by
        cases text with
        | nil => simpa using hc
        | cons d text =>
            rintro ⟨⟩
            exact hfeed text rfl
      rw [List.cons_append, unifyLineEnds_return hhead, ih, List.cons_append]
  | case4 d text _ hreturn ih =>
      rw [List.cons_append, unifyLineEnds_cons hreturn, ih, List.cons_append]

theorem unifyLineEnds_arrayText (texts : List (List Char)) :
    unifyLineEnds (Json.arrayText texts) = Json.arrayText (texts.map unifyLineEnds) := by
  have hitems : unifyLineEnds (List.intercalate [','] texts ++ [']']) =
      List.intercalate [','] (texts.map unifyLineEnds) ++ [']'] := by
    induction texts with
    | nil => rfl
    | cons text rest ih =>
        cases rest with
        | nil =>
            simp only [List.map_cons, List.map_nil, List.intercalate_singleton]
            rw [unifyLineEnds_append_cons (by decide)]
            rfl
        | cons next rest =>
            simp only [List.map_cons, List.intercalate_cons_cons, List.append_assoc,
              List.cons_append, List.nil_append] at ih ⊢
            rw [unifyLineEnds_append_cons (by decide), unifyLineEnds_cons (by decide), ih]
  rw [Json.arrayText, unifyLineEnds_cons (by decide), hitems, Json.arrayText]

theorem Lined.unbroken {text line : List Char} {found : List (List Char)} (h : Lined text found)
    (hline : line ∈ found) : Unbroken line := by
  induction h with
  | last h => exact List.mem_singleton.mp hline ▸ h
  | lineFeed h _ ih => exact (List.mem_cons.mp hline).elim (fun heq => heq ▸ h) ih
  | returnFeed h _ ih => exact (List.mem_cons.mp hline).elim (fun heq => heq ▸ h) ih
  | carriageReturn h _ _ ih => exact (List.mem_cons.mp hline).elim (fun heq => heq ▸ h) ih

end Text

/-- The same notice about another file. -/
def Notice.inFile (file : String) : Notice → Notice
  | .refused label cause => .refused label cause
  | .skipped count total _ => .skipped count total file

namespace Dataset

/-- The lines hold the texts in order, one in each, with blanks around them and blank lines
anywhere. -/
inductive Holds : List (List Char) → List (List Char) → Prop where
  | nil : Holds [] []
  | blank {line : List Char} {lines texts : List (List Char)}
      (hline : ∀ c ∈ line, Text.isBlank c = true) (hrest : Holds lines texts) :
      Holds (line :: lines) texts
  | text {before text after : List Char} {lines texts : List (List Char)}
      (hbefore : ∀ c ∈ before, Text.isBlank c = true)
      (hafter : ∀ c ∈ after, Text.isBlank c = true) (hrest : Holds lines texts) :
      Holds ((before ++ (text ++ after)) :: lines) (text :: texts)

/-- The texts are read as the values in turn. -/
def ReadTexts (dialect : Json.Dialect) (texts : List (List Char)) (values : List Json) : Prop :=
  List.Forall₂ (fun text value => Json.readText? dialect text = some value) texts values

theorem Holds.return_not_mem {lines texts : List (List Char)} (h : Holds lines texts)
    (hlines : ∀ line ∈ lines, '\r' ∉ line) : ∀ text ∈ texts, '\r' ∉ text := by
  induction h with
  | nil => exact List.forall_mem_nil _
  | blank _ _ ih => exact ih (List.forall_mem_of_forall_mem_cons hlines)
  | text _ _ _ ih =>
      rw [List.forall_mem_cons] at hlines ⊢
      refine ⟨fun hmem => hlines.1 ?_, ih hlines.2⟩
      simp [hmem]

section

variable {dialect : Json.Dialect} {levels : Option Nat}

theorem le_of_mem_map_succ {room n : Nat} (hn : n ∈ levels.map (· + 1)) :
    levels.getD room ≤ n := by
  cases levels with
  | none => contradiction
  | some m =>
      rcases Option.some.inj hn with rfl
      exact Nat.le_succ m

/-- A text that is read is also read with a level more. -/
theorem readText?_map_succ (hnumbers : dialect.TakesNumbers) {text : List Char} {value : Json}
    (hread : Json.readText? { dialect with levels } text = some value) :
    Json.readText? { dialect with levels := levels.map (· + 1) } text = some value := by
  have hnumbers : ({ dialect with levels } : Json.Dialect).TakesNumbers := hnumbers
  exact (Json.spells_of_readText? hnumbers hread).readText?_eq hnumbers fun _ => le_of_mem_map_succ

/-- So it is without the blanks around it. -/
theorem readText?_strip (hnumbers : dialect.TakesNumbers) {before text after : List Char}
    {value : Json} (hread : Json.readText? { dialect with levels } text = some value)
    (hbefore : ∀ c ∈ before, Text.isBlank c = true)
    (hafter : ∀ c ∈ after, Text.isBlank c = true) :
    Text.strip (before ++ (text ++ after)) ≠ [] ∧
      Json.readText? { dialect with levels := levels.map (· + 1) }
        (Text.strip (before ++ (text ++ after))) = some value := by
  have hnumbers : ({ dialect with levels } : Json.Dialect).TakesNumbers := hnumbers
  rcases Json.spells_of_readText? hnumbers hread with
    ⟨front, kernel, back, rfl, hfront, hback, hreads⟩
  have hleft : ∀ c ∈ before ++ front, Text.isBlank c = true :=
    List.forall_mem_append.mpr ⟨hbefore, fun c hc => Json.isBlank_of_isGap (hfront c hc)⟩
  have hright : ∀ c ∈ back ++ after, Text.isBlank c = true :=
    List.forall_mem_append.mpr ⟨fun c hc => Json.isBlank_of_isGap (hback c hc), hafter⟩
  have hstrip := Text.strip_kernel hreads.isKernel hleft hright
  simp only [List.append_assoc] at hstrip ⊢
  rw [hstrip]
  constructor
  · rcases hreads.isKernel.first with ⟨c, rest, rfl, -⟩
    exact List.cons_ne_nil c rest
  · exact hreads.spells.readText?_eq hnumbers fun _ => le_of_mem_map_succ

/-- The entries of the lines are the texts without the blanks around them. -/
theorem Holds.forall₂_readsAs (hnumbers : dialect.TakesNumbers) {lines texts : List (List Char)}
    (h : Holds lines texts) {values : List Json}
    (hread : ReadTexts { dialect with levels } texts values) (number : Nat) :
    List.Forall₂ (ReadsAs { dialect with levels := levels.map (· + 1) })
      (entriesFrom number lines) values := by
  induction h generalizing values number with
  | nil =>
      cases hread
      exact .nil
  | blank hline _ ih =>
      rw [entriesFrom_cons, if_pos (Text.strip_of_blank hline), List.nil_append]
      exact ih hread (number + 1)
  | text hbefore hafter _ ih =>
      rcases hread with _ | ⟨htext, hrest⟩
      have hstrip := readText?_strip hnumbers htext hbefore hafter
      rw [entriesFrom_cons, if_neg hstrip.1, List.singleton_append]
      exact .cons hstrip.2 (ih hrest (number + 1))

theorem lists_lines (hnumbers : dialect.TakesNumbers) {texts : List (List Char)}
    {values : List Json} (hread : ReadTexts { dialect with levels } texts values)
    {content file : String} {lines : List (List Char)} (hfile : ".jsonl".toList <:+ file.toList)
    (hlines : Text.Lined content.toList lines) (hholds : Holds lines texts) :
    Lists { dialect with levels := levels.map (· + 1) } file content ⟨values, none⟩ :=
  .lines hfile hlines (hholds.forall₂_readsAs hnumbers hread 1)

theorem lists_arrayText (hnumbers : dialect.TakesNumbers) {texts : List (List Char)}
    {values : List Json}
    (hread : ReadTexts { dialect with levels } (texts.map Text.unifyLineEnds) values)
    {file : String} (hfile : ¬ ".jsonl".toList <:+ file.toList) :
    Lists { dialect with levels := levels.map (· + 1) } file
      (String.ofList (Json.arrayText texts)) ⟨values, none⟩ := by
  apply Lists.array hfile
  rw [String.toList_ofList, Text.unifyLineEnds_arrayText]
  exact Json.readText?_arrayText hnumbers hread

end

/-- Only the count of the refusals names the file. -/
theorem map_inFile_refusals (file : String) (documents : List Json) :
    (refusals documents).map (·.inFile file) = refusals documents := by
  have hkept : ∀ notice ∈ refusals documents, notice.inFile file = id notice := by
    intro notice hnotice
    rcases exists_refused_of_mem_refusals hnotice with ⟨document, -, cause, rfl⟩
    rfl
  rw [List.map_congr_left hkept, List.map_id]

theorem map_inFile_whole (file lined : String) (documents : List Json) :
    (whole lined documents).2.map (·.inFile file) = (whole file documents).2 := by
  simp only [whole, List.map_append, map_inFile_refusals]
  split
  · rfl
  · rfl

/-- What documents yield in one file they yield in another one, but for its name. -/
theorem Yields.inFile {depths : Depths} {lined : String} {documents : List Json}
    {outcome : Except (Failure DatasetError) (List Vine)} {notices : List Notice}
    (h : Yields depths lined ⟨documents, none⟩ (outcome, notices)) (file : String) :
    Yields depths file ⟨documents, none⟩ (outcome, notices.map (·.inFile file)) := by
  cases h with
  | whole hclear =>
      have hwhole : Yields depths file ⟨documents, none⟩ (Dataset.whole file documents) :=
        .whole hclear
      rw [← Prod.eta (Dataset.whole file documents), ← map_inFile_whole file lined] at hwhole
      exact hwhole
  | @brokenOff before after document _ cause hbefore hbreaks =>
      rw [map_inFile_refusals]
      exact .brokenOff hbefore hbreaks

/-- JSON lines that hold texts, however the lines end and whatever blanks stand around the texts
and between them, give what the array of these texts gives, the vines and the notices, except that
each file has its own name; if a refusal breaks off, it ends both readings with the notices before
it.  An object is read as the array of it.  Whichever dialect the files are written in, they may
have one level more than the texts, for the array: where files may have 1024 levels, the texts may
have 1023, and in a dialect that sets no bound they may have any number. -/
theorem readIn_lines_agrees_with_array (depths : Depths) {dialect : Json.Dialect}
    (hnumbers : dialect.TakesNumbers) (levels : Option Nat) :
    (∀ (texts : List (List Char)) (values : List Json) (lines : List (List Char))
      (content lined file : String),
      ReadTexts { dialect with levels } texts values →
      Text.Lined content.toList lines → Holds lines texts →
      ".jsonl".toList <:+ lined.toList → ¬ ".jsonl".toList <:+ file.toList →
        ∃ outcome notices,
          Yields depths lined ⟨values, none⟩ (outcome, notices) ∧
          readIn depths { dialect with levels := levels.map (· + 1) } lined content =
            (outcome, notices) ∧
          readIn depths { dialect with levels := levels.map (· + 1) } file
              (String.ofList (Json.arrayText texts)) =
            (outcome, notices.map (·.inFile file))) ∧
    ∀ (text file : String) (members : Members),
      Json.readText? { dialect with levels } (Text.unifyLineEnds text.toList) =
        some (.object members) →
      ¬ ".jsonl".toList <:+ file.toList →
        ∃ result,
          Yields depths file ⟨[.object members], none⟩ result ∧
          readIn depths { dialect with levels := levels.map (· + 1) } file text = result ∧
          readIn depths { dialect with levels := levels.map (· + 1) } file
              (String.ofList (Json.arrayText [text.toList])) = result := by
  constructor
  · intro texts values lines content lined file hread hlines hholds hlined hfile
    have hreturn : ∀ text ∈ texts, '\r' ∉ text :=
      hholds.return_not_mem fun line hline => (hlines.unbroken hline).return_not_mem
    have hsame : texts.map Text.unifyLineEnds = texts := by
      rw [List.map_congr_left fun text htext => Text.unifyLineEnds_eq_self (hreturn text htext)]
      exact List.map_id _
    obtain ⟨⟨outcome, notices⟩, hyields⟩ := exists_yields depths lined ⟨values, none⟩
    refine ⟨outcome, notices, hyields, ?_, ?_⟩
    · exact (lists_lines hnumbers hread hlined hlines hholds).readIn_eq hyields
    · exact (lists_arrayText hnumbers (hsame.symm ▸ hread) hfile).readIn_eq (hyields.inFile file)
  · intro text file members hread hfile
    obtain ⟨result, hyields⟩ := exists_yields depths file ⟨[.object members], none⟩
    refine ⟨result, hyields, ?_, ?_⟩
    · have hmore := readText?_map_succ hnumbers hread
      exact (Lists.object hfile hmore).readIn_eq hyields
    · have hreads : ReadTexts { dialect with levels } ([text.toList].map Text.unifyLineEnds)
          [.object members] := .cons hread .nil
      exact (lists_arrayText hnumbers hreads hfile).readIn_eq hyields

/-- The document of a vine without tokens. -/
def briefMembers : Members :=
  [("id", .string "1"), ("url", .string ""), ("text", .string "a"), ("scrubbed_text", .string ""),
    ("pos_tags", .array []), ("grammar_dependencies", .array [])]

def briefText : List Char :=
  (Json.object briefMembers).compact

/-- The text of an array that holds a line separator. -/
def separatorText : List Char :=
  ['[', '"', '\u2028', '"', ']']

/-- The vine stands between blank lines, with blanks around it, and the last line holds the array,
which is refused. -/
theorem readIn_lines_agrees_with_array_separator :
    let v : Vine := ⟨briefMembers, "1", "", "a", "", [], [], []⟩
    let lines := [[], [' ', ' '] ++ (briefText ++ ['\t']), [], [] ++ (separatorText ++ [])]
    let content := '\n' :: ([' ', ' '] ++ (briefText ++ ['\t'])) ++ '\r' :: '\n' :: '\r' ::
      separatorText
    Text.Lined content lines ∧ Holds lines [briefText, separatorText] ∧
    (∃ notices,
      read ⟨900, 900⟩ "a.jsonl" (String.ofList content) = (.ok [v], notices) ∧
      read ⟨900, 900⟩ "a.json" (String.ofList (Json.arrayText [briefText, separatorText])) =
        (.ok [v], notices.map (·.inFile "a.json"))) ∧
    read ⟨900, 900⟩ "a.json" (String.ofList briefText) = (.ok [v], []) ∧
      read ⟨900, 900⟩ "a.json"
          (String.ofList (Json.arrayText [(String.ofList briefText).toList])) = (.ok [v], []) := by
  intro v lines content
  have hexact : Json.Exact (.object briefMembers) := by
    refine Json.exact_object (by decide) ?_
    simp [briefMembers, Json.exact_string, Json.exact_array]
  have hfits : Json.Fits 1023 (.object briefMembers) := by
    have htwo : Json.Fits 2 (.object briefMembers) := by simp [briefMembers, Json.Fits]
    exact htwo.mono (by decide)
  have hentry : Text.IsEntry briefText := Json.isEntry_compact hexact
  have htext : Json.readText? { Json.lenient with levels := some 1023 } briefText =
      some (.object briefMembers) :=
    Json.readText?_compact (Json.readsStored_lenient (some 1023)) hexact (by simpa using hfits)
  have hread : ReadTexts { Json.lenient with levels := some 1023 } [briefText, separatorText]
      [.object briefMembers, .array [.string "\u2028"]] :=
    .cons htext (.cons (by rfl) .nil)
  have hbrief : Text.Unbroken ([' ', ' '] ++ (briefText ++ ['\t'])) :=
    ⟨by simp [hentry.feed_not_mem], by simp [hentry.return_not_mem]⟩
  have hseparator : Text.Unbroken separatorText := ⟨by decide, by decide⟩
  have hlines : Text.Lined content lines :=
    .lineFeed Text.unbroken_nil (.returnFeed hbrief
      (.carriageReturn Text.unbroken_nil (.last hseparator) (by decide)))
  have hspaces : ∀ c ∈ [' ', ' '], Text.isBlank c = true := by simp [Text.isBlank]
  have htab : ∀ c ∈ ['\t'], Text.isBlank c = true := by simp [Text.isBlank]
  have hnone : ∀ c ∈ [], Text.isBlank c = true := List.forall_mem_nil _
  have hholds : Holds lines [briefText, separatorText] :=
    .blank hnone (.text hspaces htab (.blank hnone (.text hnone hnone .nil)))
  have hlined : ".jsonl".toList <:+ "a.jsonl".toList := by decide
  have hfile : ¬ ".jsonl".toList <:+ "a.json".toList := by decide
  have hvine : Clear (Document.BreaksOff ⟨900, 900⟩) (.object briefMembers) :=
    Document.clear_of_ok (v := v) rfl
  have hitems : Clear (Document.BreaksOff ⟨900, 900⟩) (.array [.string "\u2028"]) :=
    Document.clear_of_not_object (by decide) (by simp [Json.kind])
  have hlenient :
      Json.lenient = { Json.lenient with levels := (some 1023).map (· + 1) } := rfl
  refine ⟨hlines, hholds, ?_⟩
  simp only [read]
  rw [hlenient]
  constructor
  · obtain ⟨outcome, notices, hyields, hlinesRead, harrayRead⟩ :=
      (readIn_lines_agrees_with_array ⟨900, 900⟩ Json.takesNumbers_lenient (some 1023)).1
        _ _ _ (String.ofList content) _ _ hread (String.toList_ofList ▸ hlines) hholds hlined hfile
    obtain ⟨rfl, -⟩ := Prod.mk.inj (hyields.eq_whole (by simp [hvine, hitems]))
    exact ⟨notices, hlinesRead, harrayRead⟩
  · have hunified : Text.unifyLineEnds (String.ofList briefText).toList = briefText := by
      rw [String.toList_ofList, Text.unifyLineEnds_eq_self hentry.return_not_mem]
    obtain ⟨result, hyields, hobjectRead, harrayRead⟩ :=
      (readIn_lines_agrees_with_array ⟨900, 900⟩ Json.takesNumbers_lenient (some 1023)).2
        (String.ofList briefText) _ _ (hunified ▸ htext) hfile
    obtain rfl := hyields.eq_whole (by simp [hvine])
    exact ⟨hobjectRead, harrayRead⟩

section

variable {file : String}

theorem unbroken_brackets (n : Nat) : Text.Unbroken (Json.brackets n) where
  feed_not_mem := by simp [Json.brackets]
  return_not_mem := by simp [Json.brackets]

theorem strip_brackets (n : Nat) : Text.strip (Json.brackets (n + 1)) = Json.brackets (n + 1) := by
  have h := Text.strip_kernel (Json.readsKernel_brackets Json.lenient n).isKernel
    (List.forall_mem_nil _) (List.forall_mem_nil _)
  rwa [List.nil_append, List.append_nil] at h

/-- On one line, arrays within each other are a document as long as the levels allow for them. -/
theorem readIn_brackets_lines {depths : Depths} (hlabel : 0 < depths.label)
    (dialect : Json.Dialect) {n levels : Nat} (hlevels : n < levels)
    (hfile : ".jsonl".toList <:+ file.toList) :
    readIn depths { dialect with levels := some levels } file
      (String.ofList (Json.brackets (n + 1))) = whole file [Json.nested n] := by
  have hentries : entries [Json.brackets (n + 1)] = [(1, Json.brackets (n + 1))] := by
    rw [entries, entriesFrom_cons, strip_brackets, if_neg (by simp [Json.brackets_succ])]
    rfl
  have hlists : Lists { dialect with levels := some levels } file
      (String.ofList (Json.brackets (n + 1))) ⟨[Json.nested n], none⟩ := by
    apply Lists.lines hfile
    · rw [String.toList_ofList]
      exact .last (unbroken_brackets (n + 1))
    · rw [hentries]
      refine .cons ?_ .nil
      rw [ReadsAs, Json.readText?_brackets, if_pos hlevels]
  refine hlists.readIn_eq (.whole ?_)
  rw [List.forall_mem_singleton]
  apply Document.clear_of_not_object hlabel
  cases n <;> simp [Json.nested, Json.kind]

/-- The array of a text that takes all levels is no JSON. -/
theorem readIn_brackets_array (depths : Depths) (dialect : Json.Dialect) (levels : Nat)
    (hfile : ¬ ".jsonl".toList <:+ file.toList) :
    readIn depths { dialect with levels := some levels } file
      (String.ofList (Json.arrayText [Json.brackets levels])) =
        (.error (.reported .notJson), []) := by
  have hlists : Lists { dialect with levels := some levels } file
      (String.ofList (Json.arrayText [Json.brackets levels])) ⟨[], some .notJson⟩ := by
    apply Lists.notJson hfile
    rw [String.toList_ofList, Json.arrayText_brackets,
      Text.unifyLineEnds_eq_self (unbroken_brackets _).return_not_mem, Json.readText?_brackets,
      if_neg (Nat.lt_irrefl levels)]
  exact hlists.readIn_eq (.fault (List.forall_mem_nil _))

end

/-- A text that takes 1024 levels leaves none for the array, and the first integer of more than 64
bits is read neither in a line nor in an array. -/
theorem readIn_lines_differs_from_array :
    (read ⟨900, 900⟩ "v.jsonl" (String.ofList (Json.brackets 1024)) =
        (.ok [], [.refused .null (.notObject .array), .skipped 1 1 "v.jsonl"]) ∧
      read ⟨900, 900⟩ "v.json" (String.ofList (Json.arrayText [Json.brackets 1024])) =
        (.error (.reported .notJson), [])) ∧
    Json.readText? Json.strict "18446744073709551616".toList =
        some (.integer 18446744073709551616) ∧
      read ⟨900, 900⟩ "v.jsonl" "18446744073709551616" =
        (.error (.reported (.badLine 1 "18446744073709551616")), []) ∧
      read ⟨900, 900⟩ "v.json"
          (String.ofList (Json.arrayText ["18446744073709551616".toList])) =
        (.error (.reported .notJson), []) := by
  have hlined : ".jsonl".toList <:+ "v.jsonl".toList := by decide
  have hfile : ¬ ".jsonl".toList <:+ "v.json".toList := by decide
  refine ⟨⟨?_, ?_⟩, ?_, ?_, ?_⟩
  · exact readIn_brackets_lines (by decide) Json.lenient (Nat.lt_succ_self 1023) hlined
  · exact readIn_brackets_array _ Json.lenient 1024 hfile
  · exact Json.readText?_number (by decide) (by decide) rfl
  · have hline : Text.Unbroken "18446744073709551616".toList := ⟨by decide, by decide⟩
    have hbad : Json.readText? Json.lenient "18446744073709551616".toList = none :=
      Json.readText?_number_eq_none (by decide) (by decide) rfl
    have hlists : Lists Json.lenient "v.jsonl" "18446744073709551616"
        ⟨[], some (.badLine 1 "18446744073709551616")⟩ :=
      .badLine hlined (.last hline) rfl .nil hbad
    exact hlists.readIn_eq (.fault (List.forall_mem_nil _))
  · have hlists : Lists Json.lenient "v.json"
        (String.ofList (Json.arrayText ["18446744073709551616".toList])) ⟨[], some .notJson⟩ := by
      apply Lists.notJson hfile
      rw [String.toList_ofList, Text.unifyLineEnds_eq_self (by decide)]
      exact Json.readText?_arrayText_number (by decide) (by decide) rfl
    exact hlists.readIn_eq (.fault (List.forall_mem_nil _))

end Dataset

end GrammarSieve
