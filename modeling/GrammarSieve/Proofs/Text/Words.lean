/-
The words of a text are its maximal runs of characters that are not blank.  A text is taken apart
at its first blank: what stands before it is one word, or none if nothing does, and the other words
are those of the rest.
-/
import GrammarSieve.Text.Blank

namespace GrammarSieve.Text

/-- The run stands in the text, has no blank in it, and cannot be made longer: on either side of it
the text ends or a blank follows. -/
structure MaximalRun (text run : List Char) : Prop where
  ne_nil : run ≠ []
  not_blank : ∀ c ∈ run, isBlank c = false
  exists_around : ∃ before after, text = before ++ run ++ after ∧
    (∀ c ∈ before.getLast?, isBlank c = true) ∧ ∀ c ∈ after.head?, isBlank c = true

theorem words_append_blank {b : Char} (hb : isBlank b = true) (front rest : List Char) :
    words (front ++ b :: rest) = words front ++ words rest := by
  rw [words, List.splitOnP_append_cons front rest hb, List.filter_append]
  rfl

theorem words_eq_singleton {run : List Char} (hne : run ≠ [])
    (hrun : ∀ c ∈ run, isBlank c = false) : words run = [run] := by
  rw [words, List.splitOnP_eq_singleton hrun]
  simp [hne]

/-- A text without blanks, or one that is cut at its first blank. -/
theorem exists_first_blank (text : List Char) :
    (∀ c ∈ text, isBlank c = false) ∨
      ∃ front b rest, text = front ++ b :: rest ∧ (∀ c ∈ front, isBlank c = false) ∧
        isBlank b = true := by
  induction text with
  | nil => exact Or.inl (by simp)
  | cons c text ih =>
      cases hc : isBlank c with
      | true => exact Or.inr ⟨[], c, text, rfl, by simp, hc⟩
      | false =>
          rcases ih with hnone | ⟨front, b, rest, rfl, hfront, hb⟩
          · exact Or.inl (List.forall_mem_cons.mpr ⟨hc, hnone⟩)
          · exact Or.inr ⟨c :: front, b, rest, rfl, List.forall_mem_cons.mpr ⟨hc, hfront⟩, hb⟩

theorem maximalRun_self {run : List Char} (hne : run ≠ []) (hrun : ∀ c ∈ run, isBlank c = false) :
    MaximalRun run run :=
  ⟨hne, hrun, [], [], by simp, by simp, by simp⟩

/-- A run before a blank stays maximal in the whole text, and so does one behind a blank. -/
theorem MaximalRun.append_blank {front run : List Char} (h : MaximalRun front run) {b : Char}
    (hb : isBlank b = true) (rest : List Char) : MaximalRun (front ++ b :: rest) run := by
  obtain ⟨hne, hrun, before, after, rfl, hbefore, hafter⟩ := h
  refine ⟨hne, hrun, before, after ++ b :: rest, by simp, hbefore, ?_⟩
  cases after with
  | nil => simpa using hb
  | cons c after => simpa using hafter

theorem MaximalRun.blank_append {rest run : List Char} (h : MaximalRun rest run) {b : Char}
    (hb : isBlank b = true) (front : List Char) : MaximalRun (front ++ b :: rest) run := by
  obtain ⟨hne, hrun, before, after, rfl, hbefore, hafter⟩ := h
  refine ⟨hne, hrun, front ++ b :: before, after, by simp, ?_, hafter⟩
  cases before with
  | nil => simpa using hb
  | cons c before => simpa [List.getLast?_cons_cons] using hbefore

theorem maximalRun_of_mem_words {text run : List Char} (h : run ∈ words text) :
    MaximalRun text run := by
  rcases exists_first_blank text with hnone | ⟨front, b, rest, rfl, hfront, hb⟩
  · have hne : text ≠ [] := by
      rintro rfl
      simp [words] at h
    obtain rfl : run = text := by simpa [words_eq_singleton hne hnone] using h
    exact maximalRun_self hne hnone
  · rw [words_append_blank hb, List.mem_append] at h
    rcases h with hbefore | hbehind
    · have hne : front ≠ [] := by
        rintro rfl
        simp [words] at hbefore
      obtain rfl : run = front := by simpa [words_eq_singleton hne hfront] using hbefore
      exact (maximalRun_self hne hfront).append_blank hb rest
    · exact (maximalRun_of_mem_words hbehind).blank_append hb front
termination_by text.length

theorem MaximalRun.mem_words {text run : List Char} (h : MaximalRun text run) :
    run ∈ words text := by
  obtain ⟨hne, hrun, before, after, rfl, hbefore, hafter⟩ := h
  -- what follows the run adds words behind it, and what stands before it adds words in front
  have hends : run ∈ words (run ++ after) := by
    cases after with
    | nil => simp [words_eq_singleton hne hrun]
    | cons b rest =>
        rw [words_append_blank (hafter b rfl), words_eq_singleton hne hrun]
        exact List.mem_cons_self
  cases hlast : before.getLast? with
  | none =>
      obtain rfl : before = [] := List.getLast?_eq_none_iff.mp hlast
      simpa using hends
  | some b =>
      obtain ⟨front, rfl⟩ := List.getLast?_eq_some_iff.mp hlast
      have hsplit : front ++ [b] ++ run ++ after = front ++ b :: (run ++ after) := by simp
      rw [hsplit, words_append_blank (hbefore b hlast)]
      exact List.mem_append_right _ hends

theorem mem_words_iff {text run : List Char} : run ∈ words text ↔ MaximalRun text run :=
  ⟨maximalRun_of_mem_words, MaximalRun.mem_words⟩

end GrammarSieve.Text
