/-
The text of an array.  Texts of values that are written between square brackets, with commas
between them, are the text of the array of these values, because each of them is read there as it
is read alone.  The array itself is one more that is open, so it needs room for one more, and
arrays within arrays show that it does.
-/
import GrammarSieve.Proofs.Json.Locality
import Mathlib.Data.List.Forall2

namespace GrammarSieve

namespace Json

/-- The text is a kernel of the value with gaps around it. -/
def Spells (dialect : Dialect) (room : Nat) (text : List Char) (value : Json) : Prop :=
  ∃ before kernel after, text = before ++ (kernel ++ after) ∧ (∀ c ∈ before, isGap c = true) ∧
    (∀ c ∈ after, isGap c = true) ∧ ReadsKernel dialect room kernel value

/-- The texts with commas between them, in square brackets. -/
def arrayText (texts : List (List Char)) : List Char :=
  '[' :: (List.intercalate [','] texts ++ [']'])

variable {dialect : Dialect} {room : Nat}

theorem Spells.mono {text : List Char} {value : Json} {larger : Nat}
    (h : Spells dialect room text value) (hle : room ≤ larger) : Spells dialect larger text value := by
  rcases h with ⟨before, kernel, after, htext, hbefore, hafter, hreads⟩
  exact ⟨before, kernel, after, htext, hbefore, hafter, hreads.mono hle⟩

theorem ReadsKernel.spells {kernel : List Char} {value : Json}
    (h : ReadsKernel dialect room kernel value) : Spells dialect room kernel value :=
  ⟨[], kernel, [], (List.append_nil kernel).symm, List.forall_mem_nil _, List.forall_mem_nil _, h⟩

theorem skipGaps_isEmpty_iff {rest : List Char} :
    (skipGaps rest).isEmpty = true ↔ ∀ c ∈ rest, isGap c = true := by
  rw [List.isEmpty_iff, skipGaps, List.dropWhile_eq_nil_iff]

/-- A value never needs more room than its kernel is long. -/
theorem ReadsKernel.within_length (hnumbers : dialect.TakesNumbers) {kernel : List Char}
    {value : Json} (h : ReadsKernel dialect room kernel value) :
    ReadsKernel dialect (min room kernel.length) kernel value := by
  have hread := h.readValue_append dialect.levels kernel.length room [] le_rfl le_rfl
    (endsValue_of_gaps (List.forall_mem_nil _))
  rcases (localizes hnumbers _).value hread with ⟨kernel', hkernel, hreads⟩
  rcases h.isKernel.first with ⟨c, rest, rfl, hblank, -⟩
  rw [List.append_nil, List.append_nil, skipGaps_cons (isGap_eq_false_of_isBlank hblank)] at hkernel
  rw [hkernel]
  exact hreads

/-- A text that is read as a value spells it. -/
theorem spells_of_readText? (hnumbers : dialect.TakesNumbers) {text : List Char} {value : Json}
    (h : readText? dialect text = some value) :
    Spells dialect (dialect.levels.getD text.length) text value := by
  rw [readText?] at h
  split at h
  · contradiction
  · next found rest hread =>
      split at h
      · next hrest =>
          rcases Option.some.inj h with rfl
          rcases (localizes hnumbers _).value hread with ⟨kernel, hkernel, hreads⟩
          rcases exists_gaps text with ⟨before, hbefore, htext⟩
          rw [hkernel] at htext
          exact ⟨before, kernel, rest, htext, hbefore, skipGaps_isEmpty_iff.mp hrest,
            hreads.mono (Nat.min_le_left _ _)⟩
      · contradiction

/-- A text that spells a value is read as this value, if the levels leave it its room. -/
theorem Spells.readText?_eq (hnumbers : dialect.TakesNumbers) {text : List Char} {value : Json}
    (h : Spells dialect room text value) {levels : Option Nat} (hroom : ∀ n ∈ levels, room ≤ n) :
    readText? { dialect with levels } text = some value := by
  rcases h with ⟨before, kernel, after, rfl, hbefore, hafter, hreads⟩
  have hlength : kernel.length ≤ (before ++ (kernel ++ after)).length := by
    simp only [List.length_append]
    omega
  have henough : min room kernel.length ≤ levels.getD (before ++ (kernel ++ after)).length := by
    cases levels with
    | none => exact (Nat.min_le_right _ _).trans hlength
    | some n => exact (Nat.min_le_left _ _).trans (hroom n rfl)
  have hread := (hreads.within_length hnumbers).readValue_append levels
    (2 * (before ++ (kernel ++ after)).length + 2) _ after (by omega) henough
    (endsValue_of_gaps hafter)
  rw [readText?, readValue_gaps hbefore, hread]
  simp only [skipGaps_isEmpty_iff.mpr hafter, ↓reduceIte]

/-- Texts with commas between them are read as items, up to the bracket behind them. -/
theorem readsItems_texts {first : List Char} {texts : List (List Char)} {value : Json}
    {values : List Json} (hfirst : Spells dialect room first value)
    (hrest : List.Forall₂ (Spells dialect room) texts values) :
    ReadsItems dialect room (List.intercalate [','] (first :: texts) ++ [']']) (value :: values) := by
  induction hrest generalizing first value with
  | nil =>
      rcases hfirst with ⟨before, kernel, after, rfl, hbefore, hafter, hreads⟩
      simpa using readsItems_last hbefore hafter hreads
  | cons hnext _ ih =>
      rcases hfirst with ⟨before, kernel, after, rfl, hbefore, hafter, hreads⟩
      simpa using readsItems_cons hbefore hafter hreads (ih hnext)

theorem IsKernel.head?_append {kernel : List Char} (h : IsKernel kernel) (rest : List Char) :
    ∀ c ∈ (kernel ++ rest).head?, isGap c = false ∧ c ≠ ']' := by
  rcases h.first with ⟨c, others, rfl, hblank, hclosing, -⟩
  rintro d ⟨⟩
  exact ⟨isGap_eq_false_of_isBlank hblank, hclosing⟩

/-- What stands before the first text stands before all of them. -/
theorem intercalate_append (before text : List Char) (texts : List (List Char)) :
    List.intercalate [','] ((before ++ text) :: texts) =
      before ++ List.intercalate [','] (text :: texts) := by
  cases texts with
  | nil => simp
  | cons next rest => simp

theorem exists_intercalate_eq (text : List Char) (texts : List (List Char)) :
    ∃ behind, List.intercalate [','] (text :: texts) = text ++ behind := by
  have h := intercalate_append text [] texts
  rw [List.append_nil] at h
  exact ⟨_, h⟩

/-- In the array of such texts, the gaps before the first one stand behind the opening bracket. -/
theorem readsKernel_arrayText {texts : List (List Char)} {values : List Json}
    (h : List.Forall₂ (Spells dialect room) texts values) :
    ReadsKernel dialect (room + 1) (arrayText texts) (.array values) := by
  cases h with
  | nil => exact (readsKernel_array_nil (List.forall_mem_nil _)).mono (by omega)
  | @cons _ value texts values hfirst hrest =>
      rcases hfirst with ⟨before, kernel, after, rfl, hbefore, hafter, hreads⟩
      have hbare : Spells dialect room (kernel ++ after) value :=
        ⟨[], kernel, after, rfl, List.forall_mem_nil _, hafter, hreads⟩
      have hitems := readsItems_texts hbare hrest
      rw [arrayText, intercalate_append, List.append_assoc]
      apply readsKernel_array hbefore _ hitems
      rcases exists_intercalate_eq (kernel ++ after) texts with ⟨behind, hbehind⟩
      rw [hbehind, List.append_assoc, List.append_assoc]
      exact hreads.isKernel.head?_append _

theorem length_le_intercalate {text : List Char} {texts : List (List Char)} (h : text ∈ texts) :
    text.length ≤ (List.intercalate [','] texts).length := by
  induction texts with
  | nil => exact absurd h List.not_mem_nil
  | cons first rest ih =>
      rcases List.mem_cons.mp h with rfl | hrest
      · rcases exists_intercalate_eq text rest with ⟨behind, hbehind⟩
        simp [hbehind]
      · have hle := ih hrest
        cases rest with
        | nil => exact absurd hrest List.not_mem_nil
        | cons next others =>
            simp only [List.intercalate_cons_cons, List.length_append]
            omega

/-- Texts that are read as values are read in an array of them, if the array may have one level
more. -/
theorem readText?_arrayText (hnumbers : dialect.TakesNumbers) {levels : Option Nat}
    {texts : List (List Char)} {values : List Json}
    (h : List.Forall₂ (fun text value => readText? { dialect with levels } text = some value)
      texts values) :
    readText? { dialect with levels := levels.map (· + 1) } (arrayText texts) =
      some (.array values) := by
  have hnumbers : ({ dialect with levels } : Dialect).TakesNumbers := hnumbers
  have hspells : List.Forall₂
      (Spells { dialect with levels } (levels.getD (List.intercalate [','] texts).length))
      texts values := by
    have hall : ∀ text ∈ texts, text ∈ texts := fun _ => id
    apply ((List.forall₂_and_left _ _).mpr ⟨hall, h⟩).imp
    rintro text value ⟨hmem, hread⟩
    apply (spells_of_readText? hnumbers hread).mono
    cases levels with
    | none => exact length_le_intercalate hmem
    | some levels => exact le_rfl
  apply (readsKernel_arrayText hspells).spells.readText?_eq hnumbers
  rintro n hn
  cases levels with
  | none => contradiction
  | some levels =>
      rcases Option.some.inj hn with rfl
      exact le_rfl

section Nesting

/-- An array that holds so many others, each one in the one before. -/
def nested : Nat → Json
  | 0 => .array []
  | n + 1 => .array [nested n]

def brackets (n : Nat) : List Char :=
  List.replicate n '[' ++ List.replicate n ']'

theorem brackets_succ (n : Nat) : brackets (n + 1) = '[' :: (brackets n ++ [']']) := by
  rw [brackets, brackets, List.replicate_succ, List.replicate_succ', List.cons_append,
    List.append_assoc]

theorem arrayText_brackets (n : Nat) : arrayText [brackets n] = brackets (n + 1) := by
  rw [brackets_succ, arrayText, List.intercalate_singleton]

theorem readsKernel_brackets (dialect : Dialect) (n : Nat) :
    ReadsKernel dialect (n + 1) (brackets (n + 1)) (nested n) := by
  induction n with
  | zero => exact readsKernel_array_nil (List.forall_mem_nil _)
  | succ n ih =>
      have hitems := readsItems_last (List.forall_mem_nil _) (List.forall_mem_nil _) ih
      rw [brackets_succ (n + 1)]
      apply readsKernel_array (List.forall_mem_nil _) _ hitems
      rw [brackets_succ n]
      rintro c ⟨⟩
      decide

/-- Without room for the innermost of them, no array is read. -/
theorem readValue_brackets_eq_none (dialect : Dialect) (room fuel : Nat) (rest : List Char) :
    readValue dialect fuel room (List.replicate (room + 1) '[' ++ rest) = none := by
  induction room generalizing fuel with
  | zero =>
      cases fuel with
      | zero => rfl
      | succ fuel => simp [readValue, skipGaps, isGap]
  | succ room ih =>
      have hopen : skipGaps (List.replicate (room + 1) '[' ++ rest) =
          List.replicate (room + 1) '[' ++ rest := skipGaps_cons (by decide) _
      have hhead : ∀ c ∈ (skipGaps (List.replicate (room + 1) '[' ++ rest)).head?, c ≠ ']' := by
        rw [hopen]
        rintro c ⟨⟩
        decide
      cases fuel with
      | zero => rfl
      | succ fuel =>
          rw [List.replicate_succ, List.cons_append, readValue_array dialect hhead, hopen]
          cases fuel with
          | zero => rfl
          | succ fuel => rw [readItems, ih, Option.map_none]

/-- A dialect reads as many arrays within each other as it has levels. -/
theorem readText?_brackets (dialect : Dialect) (n levels : Nat) :
    readText? { dialect with levels := some levels } (brackets (n + 1)) =
      if n < levels then some (nested n) else none := by
  by_cases hlevels : n < levels
  · have hread := (readsKernel_brackets dialect n).readValue_append (some levels)
      (2 * (brackets (n + 1)).length + 2) levels [] (by omega) hlevels
      (endsValue_of_gaps (List.forall_mem_nil _))
    rw [List.append_nil] at hread
    rw [if_pos hlevels, readText?, Option.getD_some, hread]
    rfl
  · have hsplit : brackets (n + 1) = List.replicate (levels + 1) '[' ++
        (List.replicate (n - levels) '[' ++ List.replicate (n + 1) ']') := by
      rw [← List.append_assoc, List.replicate_append_replicate, brackets]
      congr 2
      omega
    rw [if_neg hlevels, readText?, Option.getD_some, hsplit, readValue_brackets_eq_none]

end Nesting

section Numbers

variable {first : Char} {more : List Char}

theorem readText?_number (hlow : 0x2D ≤ first.toNat) (hhigh : first.toNat ≤ 0x39) {value : Json}
    (h : dialect.number (first :: more) = some (value, [])) :
    readText? dialect (first :: more) = some value := by
  rw [readText?, readValue_number hlow hhigh, h]
  rfl

theorem readText?_number_eq_none (hlow : 0x2D ≤ first.toNat) (hhigh : first.toNat ≤ 0x39)
    (h : dialect.number (first :: more) = none) : readText? dialect (first :: more) = none := by
  rw [readText?, readValue_number hlow hhigh, h]

/-- A number that is not read is not read in an array either. -/
theorem readText?_arrayText_number (hlow : 0x2D ≤ first.toNat) (hhigh : first.toNat ≤ 0x39)
    (h : dialect.number (first :: (more ++ [']'])) = none) :
    readText? dialect (arrayText [first :: more]) = none := by
  have hopening := isOpening_of_toNat hlow hhigh
  have hskip := skipGaps_cons hopening.1 (more ++ [']'])
  have hhead : ∀ c ∈ (skipGaps (first :: (more ++ [']']))).head?, c ≠ ']' := by
    rw [hskip]
    rintro c ⟨⟩
    exact hopening.2.1
  rw [readText?, arrayText, List.intercalate_singleton, List.cons_append]
  cases dialect.levels.getD ('[' :: first :: (more ++ [']'])).length with
  | zero =>
      rw [readValue, skipGaps_cons (by decide)]
      rfl
  | succ room =>
      rw [readValue_array dialect hhead, hskip, List.length_cons, Nat.mul_succ, readItems,
        readValue_number hlow hhigh, h, Option.map_none]

end Numbers

end Json

end GrammarSieve
