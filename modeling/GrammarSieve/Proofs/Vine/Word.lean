/-
Looking for a word in a text.  A word is found if some maximal run of the text has its lower-case
form.  Lower-casing keeps blanks and empties no text, so what is empty or has a blank in it has the
lower-case form of no run: it is found nowhere, and a condition can do without it.
-/
import GrammarSieve.Filter.Condition
import GrammarSieve.Proofs.Text.Words
import GrammarSieve.Proofs.Text.Lowercase

namespace GrammarSieve

namespace Text

/-- The word is empty or has a blank in it. -/
def Scattered (word : List Char) : Prop :=
  word = [] ∨ ∃ c ∈ word, isBlank c = true

theorem scattered_lower_iff {word : List Char} : Scattered (lower word) ↔ Scattered word := by
  rw [Scattered, Scattered, lower, lowerAfter_eq_nil_iff, exists_isBlank_lowerAfter_iff]

theorem MaximalRun.not_scattered {text run : List Char} (h : MaximalRun text run) :
    ¬ Scattered run := by
  rintro (hnil | ⟨c, hc, hblank⟩)
  · exact h.ne_nil hnil
  · rw [h.not_blank c hc] at hblank
    contradiction

end Text

namespace Vine

open Text (MaximalRun Scattered lower)

theorem containsWord_iff_exists_run {v : Vine} {word : String} {scrubbed : Bool} :
    v.containsWord word scrubbed = true ↔
      ∃ run, MaximalRun (if scrubbed then v.scrubbedText else v.text).toList run ∧
        lower run = lower word.toList := by
  simp only [containsWord, List.any_eq_true, Text.mem_words_iff, beq_iff_eq]

theorem containsWord_of_scattered {word : String} (h : Scattered word.toList) (v : Vine)
    (scrubbed : Bool) : v.containsWord word scrubbed = false := by
  rw [Bool.eq_false_iff]
  intro hfound
  obtain ⟨run, hrun, hlower⟩ := containsWord_iff_exists_run.mp hfound
  apply hrun.not_scattered
  rwa [← Text.scattered_lower_iff, hlower, Text.scattered_lower_iff]

/-- A word is found in the text, or in the scrubbed text, exactly if a maximal run of characters
that are not blank has the same lower-case form.  So it does not matter in which case the word is
written; and a word that is empty or has a blank in it is found in no text, and makes no difference
to a condition. -/
theorem containsWord_exact (word : String) :
    (∀ (v : Vine) (scrubbed : Bool),
      (v.containsWord word scrubbed = true ↔
        ∃ run, MaximalRun (if scrubbed then v.scrubbedText else v.text).toList run ∧
          lower run = lower word.toList) ∧
      v.containsWord (String.ofList (lower word.toList)) scrubbed = v.containsWord word scrubbed) ∧
    (word = "" ∨ (∃ c ∈ word.toList, Text.isBlank c = true) →
      (∀ (v : Vine) (scrubbed : Bool), v.containsWord word scrubbed = false) ∧
      ∀ (v : Vine) (front rest : List String) (field : Field),
        (Condition.word (front ++ word :: rest) field).holds v =
          (Condition.word (front ++ rest) field).holds v) := by
  constructor
  · intro v scrubbed
    refine ⟨containsWord_iff_exists_run, ?_⟩
    rw [Bool.eq_iff_iff, containsWord_iff_exists_run, containsWord_iff_exists_run,
      String.toList_ofList, Text.lower_lower]
  · intro hword
    have hscattered : Scattered word.toList := by simpa [Scattered] using hword
    refine ⟨containsWord_of_scattered hscattered, ?_⟩
    intro v front rest field
    simp [Condition.holds, containsWord_of_scattered hscattered]

/-- A word that ends in a capital sigma, before a wide blank.  It is found with the sigma that
closes a word and not with the plain one, and not together with the word before it. -/
theorem containsWord_exact_street :
    let v : Vine := ⟨[], "1", "", "Η ΟΔΟΣ\u2003ΕΔΩ", "", [], [], []⟩
    v.containsWord "Οδος" false = true ∧ v.containsWord "Οδοσ" false = false ∧
      v.containsWord (String.ofList (lower "ΟΔΟΣ".toList)) false = v.containsWord "ΟΔΟΣ" false ∧
      v.containsWord "Η ΟΔΟΣ" false = false ∧
      (Condition.word ["ΑΛΛΟΥ", "Η ΟΔΟΣ", "Οδος"] .text).holds v =
        (Condition.word ["ΑΛΛΟΥ", "Οδος"] .text).holds v := by
  intro v
  have hrun : MaximalRun v.text.toList "ΟΔΟΣ".toList := Text.mem_words_iff.mp (by decide +kernel)
  have hlower : lower "ΟΔΟΣ".toList = lower "Οδος".toList := by decide +kernel
  have hplain : v.containsWord "Οδοσ" false = false := by decide +kernel
  obtain ⟨hfound, -⟩ := containsWord_exact "Οδος"
  obtain ⟨hcase, -⟩ := containsWord_exact "ΟΔΟΣ"
  obtain ⟨-, hdead⟩ := containsWord_exact "Η ΟΔΟΣ"
  obtain ⟨hnone, hspare⟩ := hdead (Or.inr ⟨' ', by decide, by decide⟩)
  exact ⟨(hfound v false).1.mpr ⟨_, hrun, hlower⟩, hplain, (hcase v false).2, hnone v false,
    hspare v ["ΑΛΛΟΥ"] ["Οδος"] .text⟩

end Vine

end GrammarSieve
