/-
Lower-casing a whole text.  The lower-case form of a character is settled: lower-cased once more,
wherever it stands, it stays what it is.  So the lower-case form of a text is its own, although a
capital sigma looks at its neighbours.  Characters with another lower-case form are never blank,
and neither are their forms, so that a text has blanks exactly if its lower-case form has.
-/
import GrammarSieve.Text.Lowercase
import GrammarSieve.Text.Blank

namespace GrammarSieve.Text

section Table

/-- No code point lies in both of the ranges. -/
def apart (range other : Nat × Nat) : Bool :=
  range.2.blt other.1 || other.2.blt range.1

theorem not_apart {range other : Nat × Nat} (h : apart range other = true) {n : Nat}
    (hn : range.1 ≤ n ∧ n ≤ range.2) : ¬ (other.1 ≤ n ∧ n ≤ other.2) := by
  simp only [apart, Bool.or_eq_true, Nat.blt_eq] at h
  omega

namespace CaseRun

/-- The range of the code points that the run moves. -/
def source (run : CaseRun) : Nat × Nat :=
  (run.first, run.last)

/-- The range of the code points that they become. -/
def images (run : CaseRun) : Nat × Nat :=
  (run.target, run.target + (run.last - run.first))

/-- The other run moves nothing that the run gives: the ranges lie apart, or one of every two code
points is moved and the others are given. -/
def misses (run other : CaseRun) : Bool :=
  apart run.images other.source ||
    ((run.step == 2 || run.first == run.last) && other.step == 2 &&
      (run.target + other.first) % 2 == 1)

variable {run other : CaseRun} {n : Nat}

theorem moves_iff : run.moves n = true ↔
    (run.first ≤ n ∧ n ≤ run.last) ∧ (n - run.first) % run.step = 0 := by
  simp [moves]

theorem image_mem_images (h : run.moves n = true) :
    run.images.1 ≤ run.image n ∧ run.image n ≤ run.images.2 := by
  have hsource := (moves_iff.mp h).1
  simp only [images, image]
  omega

theorem moves_image_eq_false (h : run.misses other = true) (hn : run.moves n = true) :
    other.moves (run.image n) = false := by
  rw [Bool.eq_false_iff]
  intro hmoved
  have himage := image_mem_images hn
  obtain ⟨hsource, hstep⟩ := moves_iff.mp hn
  obtain ⟨hother, hstep'⟩ := moves_iff.mp hmoved
  simp only [misses, Bool.or_eq_true, Bool.and_eq_true, beq_iff_eq] at h
  rcases h with hapart | ⟨⟨hrun, htwo⟩, hodd⟩
  · exact not_apart hapart himage hother
  · -- all that the run gives is as odd or even as its target
    have heven : (n - run.first) % 2 = 0 := by
      rcases hrun with hrun | hrun
      · rwa [hrun] at hstep
      · omega
    rw [htwo, image] at hstep'
    rw [image] at hother
    omega

end CaseRun

theorem misses_of_mem_lowerRuns {run other : CaseRun} (h : run ∈ lowerRuns)
    (hother : other ∈ lowerRuns) : run.misses other = true := by
  have hall : (lowerRuns.all fun run => lowerRuns.all run.misses) = true := by decide +kernel
  exact List.all_eq_true.mp (List.all_eq_true.mp hall run h) other hother

/-- The ranges of blank characters. -/
def blankRanges : CodeRanges := [
  (0x0009, 0x000D), (0x001C, 0x0020), (0x0085, 0x0085), (0x00A0, 0x00A0), (0x1680, 0x1680),
  (0x2000, 0x200A), (0x2028, 0x2029), (0x202F, 0x202F), (0x205F, 0x205F), (0x3000, 0x3000)]

theorem exists_blankRange {c : Char} (h : isBlank c = true) :
    ∃ range ∈ blankRanges, range.1 ≤ c.toNat ∧ c.toNat ≤ range.2 := by
  simp only [isBlank, Bool.or_eq_true, Bool.and_eq_true, decide_eq_true_eq, beq_iff_eq] at h
  simp only [blankRanges, List.mem_cons, List.not_mem_nil, exists_eq_or_imp, false_and,
    exists_false]
  omega

theorem apart_blankRanges {run : CaseRun} (h : run ∈ lowerRuns) {range : Nat × Nat}
    (hrange : range ∈ blankRanges) :
    apart run.source range = true ∧ apart run.images range = true := by
  have hall : (lowerRuns.all fun run => blankRanges.all fun range =>
      apart run.source range && apart run.images range) = true := by
    decide +kernel
  simpa using List.all_eq_true.mp (List.all_eq_true.mp hall run h) range hrange

/-- What the runs give are characters, and the dotted capital I is not among them. -/
theorem images_of_mem_lowerRuns {run : CaseRun} (h : run ∈ lowerRuns) :
    apart run.images (0xD800, 0xDFFF) = true ∧ run.images.2 < 0x110000 ∧
      apart run.images (0x0130, 0x0130) = true := by
  have hall : (lowerRuns.all fun run => apart run.images (0xD800, 0xDFFF) &&
      run.images.2.blt 0x110000 && apart run.images (0x0130, 0x0130)) = true := by
    decide +kernel
  simpa [and_assoc] using List.all_eq_true.mp hall run h

theorem lowerPoint?_eq_some {n m : Nat} (h : lowerPoint? n = some m) :
    ∃ run ∈ lowerRuns, run.moves n = true ∧ m = run.image n := by
  obtain ⟨run, hfind, rfl⟩ := Option.map_eq_some_iff.mp h
  have hmoves : run.moves n = true := by simpa using List.find?_some hfind
  exact ⟨run, List.mem_of_find?_eq_some hfind, hmoves, rfl⟩

theorem lowerPoint?_image {run : CaseRun} (h : run ∈ lowerRuns) {n : Nat}
    (hn : run.moves n = true) : lowerPoint? (run.image n) = none := by
  rw [lowerPoint?, Option.map_eq_none_iff, List.find?_eq_none]
  intro other hother
  rw [CaseRun.moves_image_eq_false (misses_of_mem_lowerRuns h hother) hn]
  exact Bool.false_ne_true

theorem toNat_ofNat_image {run : CaseRun} (h : run ∈ lowerRuns) {n : Nat}
    (hn : run.moves n = true) : (Char.ofNat (run.image n)).toNat = run.image n := by
  obtain ⟨hsurrogate, hlimit, -⟩ := images_of_mem_lowerRuns h
  have himage := CaseRun.image_mem_images hn
  have hnot := not_apart hsurrogate himage
  have hvalid : (run.image n).isValidChar := by
    rw [Nat.isValidChar]
    omega
  rw [Char.ofNat, dif_pos hvalid]
  rfl

end Table

/-- The character is its own lower-case form. -/
def Settled (c : Char) : Prop :=
  lowerChar c = [c]

instance (c : Char) : Decidable (Settled c) :=
  inferInstanceAs (Decidable (_ = _))

theorem settled_of_lowerPoint? {c : Char} (hdotted : c ≠ '\u0130')
    (h : lowerPoint? c.toNat = none) : Settled c := by
  rw [Settled, lowerChar, if_neg hdotted, h]

/-- The lower-case form of a character that is not its own. -/
theorem lowerChar_cases (c : Char) :
    Settled c ∨ (c = '\u0130' ∧ lowerChar c = ['i', '\u0307']) ∨
      ∃ run ∈ lowerRuns, run.moves c.toNat = true ∧
        lowerChar c = [Char.ofNat (run.image c.toNat)] := by
  by_cases hdotted : c = '\u0130'
  · exact Or.inr (Or.inl ⟨hdotted, by rw [lowerChar, if_pos hdotted]⟩)
  · cases hpoint : lowerPoint? c.toNat with
    | none => exact Or.inl (settled_of_lowerPoint? hdotted hpoint)
    | some m =>
        obtain ⟨run, hrun, hmoves, rfl⟩ := lowerPoint?_eq_some hpoint
        refine Or.inr (Or.inr ⟨run, hrun, hmoves, ?_⟩)
        rw [lowerChar, if_neg hdotted, hpoint]

theorem not_settled_capitalSigma : ¬ Settled capitalSigma := by
  decide +kernel

/-- The form that a character takes inside a text: there is something of it, all of it is settled,
and it is blank where the character is. -/
structure IsForm (c : Char) (form : List Char) : Prop where
  ne_nil : form ≠ []
  settled : ∀ d ∈ form, Settled d
  isBlank_eq : ∀ d ∈ form, isBlank d = isBlank c

theorem isBlank_eq_false {c : Char} {range : Nat × Nat}
    (h : ∀ blank ∈ blankRanges, apart range blank = true)
    (hc : range.1 ≤ c.toNat ∧ c.toNat ≤ range.2) : isBlank c = false := by
  rw [Bool.eq_false_iff]
  intro hblank
  obtain ⟨blank, hmem, hbounds⟩ := exists_blankRange hblank
  exact not_apart (h blank hmem) hc hbounds

theorem isForm_lowerChar (c : Char) : IsForm c (lowerChar c) := by
  rcases lowerChar_cases c with hsettled | ⟨rfl, hform⟩ | ⟨run, hrun, hmoves, hform⟩
  · have hself : lowerChar c = [c] := hsettled
    rw [hself]
    exact ⟨by simp, by simpa using hsettled, by simp⟩
  · have hletter : Settled 'i' := by decide +kernel
    have hdot : Settled '\u0307' := by decide +kernel
    rw [hform]
    refine ⟨by simp, ?_, ?_⟩
    · exact List.forall_mem_cons.mpr ⟨hletter, List.forall_mem_singleton.mpr hdot⟩
    · exact List.forall_mem_cons.mpr ⟨rfl, List.forall_mem_singleton.mpr rfl⟩
  · have hnat := toNat_ofNat_image hrun hmoves
    have himage := CaseRun.image_mem_images hmoves
    rw [← hnat] at himage
    obtain ⟨-, -, hdotted⟩ := images_of_mem_lowerRuns hrun
    rw [hform]
    refine ⟨by simp, ?_, ?_⟩
    · rw [List.forall_mem_singleton]
      apply settled_of_lowerPoint?
      · intro heq
        rw [heq] at himage
        exact not_apart hdotted himage (by decide)
      · rw [hnat]
        exact lowerPoint?_image hrun hmoves
    · rw [List.forall_mem_singleton,
        isBlank_eq_false (fun _ hmem => (apart_blankRanges hrun hmem).2) himage,
        isBlank_eq_false (fun _ hmem => (apart_blankRanges hrun hmem).1)
          (CaseRun.moves_iff.mp hmoves).1]

theorem isForm_lowerSigma (before after : List Char) :
    IsForm capitalSigma [lowerSigma before after] := by
  have hsmall : Settled smallSigma := by decide +kernel
  have hfinal : Settled finalSigma := by decide +kernel
  refine ⟨by simp, ?_, ?_⟩
  · rw [List.forall_mem_singleton, lowerSigma]
    split
    · exact hfinal
    · exact hsmall
  · rw [List.forall_mem_singleton, lowerSigma]
    split <;> rfl

/-- Lower-casing replaces the first character of a text by a form of it and goes on. -/
theorem exists_form (before : List Char) (c : Char) (rest : List Char) :
    ∃ form, IsForm c form ∧
      lowerAfter before (c :: rest) = form ++ lowerAfter (c :: before) rest := by
  by_cases hsigma : c = capitalSigma
  · subst hsigma
    exact ⟨_, isForm_lowerSigma before rest, by rw [lowerAfter, if_pos rfl]⟩
  · exact ⟨_, isForm_lowerChar c, by rw [lowerAfter, if_neg hsigma]⟩

theorem settled_of_mem_lowerAfter {before text : List Char} :
    ∀ d ∈ lowerAfter before text, Settled d := by
  induction text generalizing before with
  | nil => simp [lowerAfter]
  | cons c rest ih =>
      obtain ⟨form, hform, heq⟩ := exists_form before c rest
      rw [heq]
      intro d hd
      rcases List.mem_append.mp hd with hfirst | hrest
      · exact hform.settled d hfirst
      · exact ih d hrest

theorem lowerAfter_of_settled {text : List Char} (h : ∀ c ∈ text, Settled c)
    (before : List Char) : lowerAfter before text = text := by
  induction text generalizing before with
  | nil => rfl
  | cons c rest ih =>
      obtain ⟨hc, hrest⟩ := List.forall_mem_cons.mp h
      have hsigma : c ≠ capitalSigma := by
        rintro rfl
        exact not_settled_capitalSigma hc
      rw [lowerAfter, if_neg hsigma, hc, ih hrest, List.singleton_append]

/-- Lower-casing a second time changes nothing. -/
theorem lower_lower (text : List Char) : lower (lower text) = lower text :=
  lowerAfter_of_settled settled_of_mem_lowerAfter []

theorem lowerAfter_eq_nil_iff {before text : List Char} :
    lowerAfter before text = [] ↔ text = [] := by
  cases text with
  | nil => simp [lowerAfter]
  | cons c rest =>
      obtain ⟨form, hform, heq⟩ := exists_form before c rest
      simp [heq, hform.ne_nil]

theorem exists_isBlank_lowerAfter_iff {before text : List Char} :
    (∃ d ∈ lowerAfter before text, isBlank d = true) ↔ ∃ c ∈ text, isBlank c = true := by
  induction text generalizing before with
  | nil => simp [lowerAfter]
  | cons c rest ih =>
      obtain ⟨form, hform, heq⟩ := exists_form before c rest
      have hfirst : (∃ d ∈ form, isBlank d = true) ↔ isBlank c = true := by
        constructor
        · rintro ⟨d, hd, hblank⟩
          rwa [hform.isBlank_eq d hd] at hblank
        · intro hblank
          obtain ⟨d, hd⟩ := List.exists_mem_of_ne_nil form hform.ne_nil
          exact ⟨d, hd, by rw [hform.isBlank_eq d hd, hblank]⟩
      simp only [heq, List.mem_append, List.mem_cons, or_and_right, exists_or, exists_eq_left,
        hfirst, ih]

end GrammarSieve.Text
