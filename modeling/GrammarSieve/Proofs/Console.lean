/-
What a session at the console comes to.  An entry is answered by one report, and the report depends
on nothing but the entry and the registered filters: trying them on a vine leaves the manager as it
is, and the vine is forgotten.  So the transcript of a whole session is put together from the
reports on its entries, one by one.
-/
import GrammarSieve.Console
import GrammarSieve.Proofs.Dataset.Reading
import GrammarSieve.Proofs.Manager.Trial

namespace GrammarSieve.Console

/-- What is said about an entry. -/
inductive Report where
  | notJson
  | notVine (refusal : Notice)
  /-- The filters that the vine of this name has passed, if there are any. -/
  | tried (id : String) (passed : List String)
deriving Repr

namespace Report

def text : Report → String
  | .notJson => "✘ Entry is not valid JSON.\n"
  | .notVine _ => "✘ Entry is not a valid vine.\n"
  | .tried id [] => "Vine '" ++ id ++ "' passed no filters.\n"
  | .tried id passed => "Vine '" ++ id ++ "' passed: " ++ "; ".intercalate passed ++ "\n"

def notices : Report → List Notice
  | .notVine refusal => [refusal]
  | _ => []

end Report

/-- What has to be said about an entry where these filters are registered. -/
inductive Reports (read? : List Char → Option Json) (filters : Registry) (entry : List Char) :
    Report → Prop where
  | notJson (hjson : read? entry = none) : Reports read? filters entry .notJson
  | notVine {document : Json} {cause : VineError} (hjson : read? entry = some document)
      (hvine : Vine.ofDocument document = .error cause) :
      Reports read? filters entry (.notVine (.refused (Vine.label document) cause))
  | tried {document : Json} {v : Vine} (hjson : read? entry = some document)
      (hvine : Vine.ofDocument document = .ok v) :
      Reports read? filters entry (.tried v.id (filters.admitted v))

/-- The entry is read as a document whose refusal runs into this. -/
def BreaksOff (depths : Depths) (read? : List Char → Option Json) (entry : List Char)
    (cause : Breakdown) : Prop :=
  ∃ document, read? entry = some document ∧ Document.BreaksOff depths document cause

section

variable {depths : Depths} {read? : List Char → Option Json}

theorem clear_of_none {entry : List Char} (h : read? entry = none) :
    Clear (BreaksOff depths read?) entry := by
  rintro cause ⟨document, hjson, -⟩
  rw [h] at hjson
  contradiction

theorem clear_of_some {entry : List Char} {document : Json} (h : read? entry = some document)
    (hclear : Clear (Document.BreaksOff depths) document) :
    Clear (BreaksOff depths read?) entry := by
  rintro cause ⟨other, hjson, hbreaks⟩
  rw [h, Option.some.injEq] at hjson
  exact hclear cause (hjson ▸ hbreaks)

theorem Reports.exists (read? : List Char → Option Json) (filters : Registry)
    (entry : List Char) : ∃ report, Reports read? filters entry report := by
  cases hjson : read? entry with
  | none => exact ⟨_, .notJson hjson⟩
  | some document =>
      cases hvine : Vine.ofDocument document with
      | error cause => exact ⟨_, .notVine hjson hvine⟩
      | ok v => exact ⟨_, .tried hjson hvine⟩

/-- There is one thing to be said about an entry. -/
theorem Reports.unique {filters : Registry} {entry : List Char} {report other : Report}
    (h : Reports read? filters entry report) (hother : Reports read? filters entry other) :
    report = other := by
  cases h with
  | notJson hjson =>
      cases hother with
      | notJson => rfl
      | notVine hjson' => simp [hjson] at hjson'
      | tried hjson' => simp [hjson] at hjson'
  | notVine hjson hvine =>
      cases hother with
      | notJson hjson' => simp [hjson] at hjson'
      | notVine hjson' hvine' =>
          obtain rfl := Option.some.inj (hjson.symm.trans hjson')
          obtain rfl := Except.error.inj (hvine.symm.trans hvine')
          rfl
      | tried hjson' hvine' =>
          obtain rfl := Option.some.inj (hjson.symm.trans hjson')
          simp [hvine] at hvine'
  | tried hjson hvine =>
      cases hother with
      | notJson hjson' => simp [hjson] at hjson'
      | notVine hjson' hvine' =>
          obtain rfl := Option.some.inj (hjson.symm.trans hjson')
          simp [hvine] at hvine'
      | tried hjson' hvine' =>
          obtain rfl := Option.some.inj (hjson.symm.trans hjson')
          obtain rfl := Except.ok.inj (hvine.symm.trans hvine')
          rfl

/-- The entries that are answered: those before the first one that closes the console, but for
blank ones. -/
def entries (lines : List (List Char)) : List (List Char) :=
  ((lines.map Text.strip).takeWhile (· ≠ closing)).filter (· ≠ [])

theorem entries_cons (line : List Char) (rest : List (List Char)) :
    entries (line :: rest) =
      if Text.strip line = closing then []
      else if Text.strip line = [] then entries rest
      else Text.strip line :: entries rest := by
  by_cases hclosing : Text.strip line = closing
  · simp [entries, hclosing]
  · by_cases hblank : Text.strip line = []
    · have hopen : ([] : List Char) ≠ closing := hblank ▸ hclosing
      simp [entries, hopen, hblank]
    · simp [entries, hclosing, hblank]

/-- The lines behind the first one that closes the console. -/
def unheard (lines : List (List Char)) : List (List Char) :=
  (lines.dropWhile fun line => Text.strip line ≠ closing).tail

theorem unheard_cons (line : List Char) (rest : List (List Char)) :
    unheard (line :: rest) = if Text.strip line = closing then rest else unheard rest := by
  by_cases hclosing : Text.strip line = closing <;> simp [unheard, hclosing]

/-- Nothing behind these lines is heard once they have closed the console. -/
theorem entries_append {before : List (List Char)}
    (h : ∀ line ∈ before, Text.strip line ≠ closing) (rest : List (List Char)) :
    entries (before ++ rest) = entries before ++ entries rest := by
  induction before with
  | nil => rfl
  | cons line before ih =>
      obtain ⟨hline, hbefore⟩ := List.forall_mem_cons.mp h
      rw [List.cons_append, entries_cons, entries_cons, if_neg hline, if_neg hline, ih hbefore]
      split
      · rfl
      · rw [List.cons_append]

variable {m : Manager} {line : List Char} {rest : List (List Char)}

theorem verdict_eq_text (id : String) (passed : List String) :
    verdict id passed = (Report.tried id passed).text := by
  cases passed <;> rfl

/-- An entry is answered by the report on it, and the console goes on as if it had begun with the
next line. -/
theorem answer_entry (hconfigured : m.registry.Configured) (hne : m.registry ≠ [])
    (hopen : Text.strip line ≠ closing) (hentry : Text.strip line ≠ [])
    (hclear : Clear (BreaksOff depths read?) (Text.strip line)) {report : Report}
    (hreport : Reports read? m.registry (Text.strip line) report) :
    answer depths read? m (line :: rest) =
      { answer depths read? m rest with
        printed := report.text ++ (answer depths read? m rest).printed
        notices := report.notices ++ (answer depths read? m rest).notices } := by
  have hnonempty : (Text.strip line).isEmpty = false := by simpa using hentry
  cases hreport with
  | notJson hjson =>
      simp only [answer, hopen, hnonempty, hjson]
      rfl
  | @notVine document cause hjson hvine =>
      have hreads : Clear (Document.BreaksOff depths) document :=
        fun breakdown hbreaks => hclear breakdown ⟨document, hjson, hbreaks⟩
      simp only [answer, hopen, hnonempty, hjson, Vine.read_of_clear hreads hvine]
      rfl
  | tried hjson hvine =>
      simp only [answer, hopen, hnonempty, hjson, Vine.read_of_ok hvine,
        Trial.evaluate_eq_ok hconfigured hne, verdict_eq_text]
      rfl

/-- Lines of which none closes the console are answered by the reports on their entries, and the
console goes on with the lines behind them. -/
theorem exists_answer_append_eq (hconfigured : m.registry.Configured) (hne : m.registry ≠ [])
    {before : List (List Char)} (hopen : ∀ line ∈ before, Text.strip line ≠ closing)
    (hclear : ∀ entry ∈ entries before, Clear (BreaksOff depths read?) entry)
    (rest : List (List Char)) :
    ∃ reports, List.Forall₂ (Reports read? m.registry) (entries before) reports ∧
      answer depths read? m (before ++ rest) =
        { answer depths read? m rest with
          printed := String.join (reports.map Report.text) ++ (answer depths read? m rest).printed
          notices := reports.flatMap Report.notices ++ (answer depths read? m rest).notices } := by
  induction before with
  | nil => exact ⟨[], .nil, by simp⟩
  | cons line before ih =>
      obtain ⟨hline, hbefore⟩ := List.forall_mem_cons.mp hopen
      rw [entries_cons, if_neg hline] at hclear ⊢
      by_cases hblank : Text.strip line = []
      · rw [if_pos hblank] at hclear ⊢
        obtain ⟨reports, hreports, hanswer⟩ := ih hbefore hclear
        refine ⟨reports, hreports, ?_⟩
        rw [List.cons_append, answer, if_neg hline, if_pos (by rw [hblank]; rfl), hanswer]
      · rw [if_neg hblank] at hclear ⊢
        obtain ⟨hentry, hlater⟩ := List.forall_mem_cons.mp hclear
        obtain ⟨reports, hreports, hanswer⟩ := ih hbefore hlater
        obtain ⟨report, hreport⟩ := Reports.exists read? m.registry (Text.strip line)
        refine ⟨report :: reports, .cons hreport hreports, ?_⟩
        rw [List.cons_append, answer_entry hconfigured hne hline hblank hentry hreport, hanswer,
          List.map_cons, String.join_cons, List.flatMap_cons, String.append_assoc,
          List.append_assoc]

theorem entries_of_closing {before : List (List Char)}
    (hopen : ∀ line ∈ before, Text.strip line ≠ closing) (hclosing : Text.strip line = closing) :
    entries (before ++ line :: rest) = entries before := by
  rw [entries_append hopen, entries_cons, if_pos hclosing, List.append_nil]

theorem unheard_of_open {lines : List (List Char)}
    (hopen : ∀ line ∈ lines, Text.strip line ≠ closing) : unheard lines = [] := by
  induction lines with
  | nil => rfl
  | cons line lines ih =>
      obtain ⟨hline, hlines⟩ := List.forall_mem_cons.mp hopen
      rw [unheard_cons, if_neg hline, ih hlines]

theorem unheard_of_closing {before : List (List Char)}
    (hopen : ∀ line ∈ before, Text.strip line ≠ closing) (hclosing : Text.strip line = closing) :
    unheard (before ++ line :: rest) = rest := by
  induction before with
  | nil => rw [List.nil_append, unheard_cons, if_pos hclosing]
  | cons first before ih =>
      obtain ⟨hfirst, hbefore⟩ := List.forall_mem_cons.mp hopen
      rw [List.cons_append, unheard_cons, if_neg hfirst, ih hbefore]

/-- Lines are answered by the reports on their entries. -/
theorem exists_answer_eq (hconfigured : m.registry.Configured) (hne : m.registry ≠ [])
    (lines : List (List Char))
    (hclear : ∀ entry ∈ entries lines, Clear (BreaksOff depths read?) entry) :
    ∃ reports, List.Forall₂ (Reports read? m.registry) (entries lines) reports ∧
      answer depths read? m lines = {
        printed := String.join (reports.map Report.text)
        unread := unreadOf (unheard lines)
        notices := reports.flatMap Report.notices
        fault := none
        manager := m } := by
  cases hfind : lines.find? (Text.strip · = closing) with
  | none =>
      have hopen : ∀ line ∈ lines, Text.strip line ≠ closing := by
        simpa using List.find?_eq_none.mp hfind
      obtain ⟨reports, hreports, hanswer⟩ :=
        exists_answer_append_eq hconfigured hne hopen hclear []
      refine ⟨reports, hreports, ?_⟩
      rw [List.append_nil] at hanswer
      rw [hanswer, unheard_of_open hopen]
      simp [answer, unreadOf]
  | some line =>
      obtain ⟨hline, before, rest, rfl, hbefore⟩ := List.find?_eq_some_iff_append.mp hfind
      have hclosing : Text.strip line = closing := by simpa using hline
      have hopen : ∀ earlier ∈ before, Text.strip earlier ≠ closing := by simpa using hbefore
      rw [entries_of_closing hopen hclosing] at hclear ⊢
      obtain ⟨reports, hreports, hanswer⟩ :=
        exists_answer_append_eq hconfigured hne hopen hclear (line :: rest)
      refine ⟨reports, hreports, ?_⟩
      rw [hanswer, unheard_of_closing hopen hclosing]
      simp [answer, hclosing]

/-- An entry whose refusal breaks off ends the session there. -/
theorem answer_of_breaksOff (hopen : Text.strip line ≠ closing) (hentry : Text.strip line ≠ [])
    {cause : Breakdown} (hbreaks : BreaksOff depths read? (Text.strip line) cause) :
    answer depths read? m (line :: rest) =
      ⟨"", unreadOf rest, [], some (.brokenOff cause), m⟩ := by
  obtain ⟨document, hjson, hdocument⟩ := hbreaks
  have hnonempty : (Text.strip line).isEmpty = false := by simpa using hentry
  simp only [answer, hopen, hnonempty, hjson, hdocument.read_eq]
  rfl

/-- A session at the console of a manager whose filters were built from sections.  Behind a header
that is always the same it consists of the reports on its entries, one on each in their order, up
to the line that closes it or the end of the input; the report on an entry is determined by the
entry and the filters alone.  It says that the entry is not JSON, or that there is no vine of its
document, or which of the filters the vine passes.  Only an entry whose refusal breaks off ends the
session before, behind the reports on the entries before it.  What is behind the last line that is
heard stays unread, and the manager stays as it is.  Where no filters are registered, the console
says so and reads nothing. -/
theorem run_reports_each_entry (depths : Depths) (read? : List Char → Option Json)
    (hconfigured : m.registry.Configured) (input : String) :
    (∀ entry, ∃! report, Reports read? m.registry entry report) ∧
    (m.registry ≠ [] →
      ((∀ entry ∈ entries (Text.lines input.toList), Clear (BreaksOff depths read?) entry) →
        ∃ reports,
          List.Forall₂ (Reports read? m.registry) (entries (Text.lines input.toList)) reports ∧
          run depths read? m input = {
            printed := header m ++ filterLine m ++ "\nFilter mode\n\n" ++
              String.join (reports.map Report.text)
            unread := unreadOf (unheard (Text.lines input.toList))
            notices := reports.flatMap Report.notices
            fault := none
            manager := m }) ∧
      ∀ before line rest cause, Text.lines input.toList = before ++ line :: rest →
        (∀ earlier ∈ before, Text.strip earlier ≠ closing) →
        (∀ entry ∈ entries before, Clear (BreaksOff depths read?) entry) →
        Text.strip line ≠ closing → Text.strip line ≠ [] →
        BreaksOff depths read? (Text.strip line) cause →
          ∃ reports, List.Forall₂ (Reports read? m.registry) (entries before) reports ∧
            run depths read? m input = {
              printed := header m ++ filterLine m ++ "\nFilter mode\n\n" ++
                String.join (reports.map Report.text)
              unread := unreadOf rest
              notices := reports.flatMap Report.notices
              fault := some (.brokenOff cause)
              manager := m }) ∧
    (m.registry = [] → run depths read? m input = {
      printed := header m
      unread := input
      notices := []
      fault := some (.reported .noFilters)
      manager := m }) := by
  refine ⟨?_, ?_, ?_⟩
  · intro entry
    obtain ⟨report, hreport⟩ := Reports.exists read? m.registry entry
    exact ⟨report, hreport, fun other hother => hother.unique hreport⟩
  · intro hne
    constructor
    · intro hclear
      obtain ⟨reports, hreports, hanswer⟩ :=
        exists_answer_eq hconfigured hne (Text.lines input.toList) hclear
      exact ⟨reports, hreports, by simp [run, hne, hanswer]⟩
    · intro before line rest cause hlines hbefore hclear hopen hentry hbreaks
      obtain ⟨reports, hreports, hanswer⟩ :=
        exists_answer_append_eq hconfigured hne hbefore hclear (line :: rest)
      rw [answer_of_breaksOff hopen hentry hbreaks] at hanswer
      exact ⟨reports, hreports, by simp [run, hne, hlines, hanswer]⟩
  · intro hempty
    simp [run, hempty]

/-- A session with a text that is not JSON, a vine, a blank line and a document of which there is no
vine.  The line behind the closing one stays unread. -/
theorem run_reports_each_entry_supper :
    let objects : Filter := ⟨"objects", [.relation ["dobj"]]⟩
    let m : Manager := ⟨["amod", "nn"], 1, by decide, false, [.ordinary objects]⟩
    let supper : Members := [("id", .string "1"), ("url", .string ""), ("text", .string ""),
      ("scrubbed_text", .string ""), ("pos_tags", .array []),
      ("grammar_dependencies", .array [.string "dobj(eat-0,pepper-1)"])]
    let lines := [['e', 'a', 't'], (Json.object supper).compact, [' '], ['[', ']'],
      [' ', 'e', 'x', 'i', 't'], ['b', 'y', 'e']]
    run ⟨900, 900⟩ Json.readEntry? m (unreadOf lines) = {
      printed := header m ++ filterLine m ++ "\nFilter mode\n\n" ++
        "✘ Entry is not valid JSON.\nVine '1' passed: objects\n✘ Entry is not a valid vine.\n"
      unread := "bye"
      notices := [.refused .null (.notObject .array)]
      fault := none
      manager := m } := by
  intro objects m supper lines
  have hconfigured : m.registry.Configured :=
    .cons ⟨["amod", "nn"], "objects", .object [("edge", .object
      [("type", .string "grammar_dependency"), ("relations", .string "dobj")])], rfl⟩ .nil
  have hexact : Json.Exact (.object supper) := by
    refine Json.exact_object (by decide) ?_
    simp [supper, Json.exact_string, Json.exact_array]
  have hread := Json.readEntry?_compact hexact (by simp [supper, Json.Fits])
  obtain ⟨inside, hinside⟩ := Json.exists_compact_object_eq supper
  have hentry := Json.isEntry_compact hexact
  have hopen : (Json.object supper).compact ≠ ['e', 'x', 'i', 't'] := by simp [hinside]
  have hlines : Text.lines (unreadOf lines).toList = lines := by
    rw [unreadOf, String.toList_ofList, Text.lines, List.splitOn_intercalate]
    · simp [lines, hentry.feed_not_mem]
    · simp [lines]
  have hstrip : Text.strip ['e', 'a', 't'] = ['e', 'a', 't'] ∧ Text.strip [' '] = [] ∧
      Text.strip ['[', ']'] = ['[', ']'] ∧
      Text.strip [' ', 'e', 'x', 'i', 't'] = ['e', 'x', 'i', 't'] := by decide
  have hentries : entries lines = [['e', 'a', 't'], (Json.object supper).compact, ['[', ']']] := by
    simp [entries_cons, lines, hstrip, hentry.strip_eq, hentry.ne_nil, hopen, closing]
  have hunheard : unheard lines = [['b', 'y', 'e']] := by
    simp [unheard_cons, lines, hstrip, hentry.strip_eq, hopen, closing]
  obtain ⟨v, hv, hid, hadmitted⟩ : ∃ v, Vine.ofDocument (.object supper) = .ok v ∧ v.id = "1" ∧
      m.registry.admitted v = ["objects"] := ⟨_, rfl, rfl, rfl⟩
  have heat : Json.readEntry? ['e', 'a', 't'] = none := by cbv
  have hitems : Json.readEntry? ['[', ']'] = some (.array []) := by cbv
  have hexpected : List.Forall₂ (Reports Json.readEntry? m.registry) (entries lines)
      [.notJson, .tried v.id (m.registry.admitted v),
        .notVine (.refused .null (.notObject .array))] := by
    rw [hentries]
    have hlist : Vine.ofDocument (.array []) = .error (.notObject .array) := by rfl
    exact .cons (.notJson heat) (.cons (.tried hread hv) (.cons (.notVine hitems hlist) .nil))
  have hclear : ∀ entry ∈ entries lines, Clear (BreaksOff ⟨900, 900⟩ Json.readEntry?) entry := by
    have hlist : Clear (Document.BreaksOff ⟨900, 900⟩) (.array []) :=
      Document.clear_of_not_object (by decide) (by simp [Json.kind])
    simp only [hentries, List.forall_mem_cons]
    exact ⟨clear_of_none heat, clear_of_some hread (Document.clear_of_ok hv),
      clear_of_some hitems hlist, List.forall_mem_nil _⟩
  obtain ⟨reports, hreports, hrun⟩ :=
    ((run_reports_each_entry ⟨900, 900⟩ Json.readEntry? hconfigured (unreadOf lines)).2.1
      (by simp [m])).1 (hlines.symm ▸ hclear)
  rw [hlines] at hreports hrun
  obtain rfl := List.right_unique_forall₂' (fun _ _ _ h => h.unique) hreports hexpected
  rw [hrun, hunheard, hid, hadmitted]
  rfl

/-- A document is entered of which there is no vine, and the session does not come to its end. -/
theorem run_breaks_off :
    let document := Document.ofEdge (Edge.padded Text.digitLimit)
    let m : Manager :=
      ⟨["amod", "nn"], 1, by decide, false, [.ordinary ⟨"objects", [.relation ["dobj"]]⟩]⟩
    (∃ cause, Vine.ofDocument document = .error cause) ∧
      run ⟨900, 900⟩ Json.readEntry? m (unreadOf [document.compact, closing]) = {
        printed := header m ++ filterLine m ++ "\nFilter mode\n\n"
        unread := "exit"
        notices := []
        fault := some (.brokenOff (.longDigits (Text.digitLimit + 1)))
        manager := m } := by
  intro document m
  have hlimit := Nat.le_refl Text.digitLimit
  have hrefused := Vine.ofDocument_ofEdge (Edge.decode_padded hlimit)
  have hline : Dataset.LineOf Json.lenient document.compact document := Dataset.lineOf_ofEdge _
  have hstrip := hline.isEntry.strip_eq
  obtain ⟨inside, hinside⟩ : ∃ inside, document.compact = '\x7b' :: (inside ++ ['\x7d']) :=
    Json.exists_compact_object_eq _
  have hopen : document.compact ≠ closing := by simp [hinside, closing]
  have hread : Json.readEntry? document.compact = some document := by
    rw [ Json.readEntry?, if_neg (by simp [hinside])]
    exact hline.readText?_eq
  have hbreaks : BreaksOff ⟨900, 900⟩ Json.readEntry? (Text.strip document.compact)
      (.longDigits (Text.digitLimit + 1)) :=
    ⟨document, hstrip.symm ▸ hread, Document.breaksOff_ofEdge_padded _ hlimit⟩
  have hlines : Text.lines (unreadOf [document.compact, closing]).toList =
      [document.compact, closing] := by
    rw [unreadOf, String.toList_ofList, Text.lines, List.splitOn_intercalate]
    · simp [hline.isEntry.feed_not_mem, closing]
    · simp
  have hanswer := @answer_of_breaksOff _ _ m _ [closing] (hstrip.symm ▸ hopen)
    (hstrip.symm ▸ hline.isEntry.ne_nil) _ hbreaks
  refine ⟨⟨_, hrefused⟩, ?_⟩
  have hunread : unreadOf [closing] = "exit" := rfl
  rw [run, hlines, hanswer, if_neg (by simp [m])]
  simp only [hunread, String.append_empty]

end

end GrammarSieve.Console
