/-
Checks in a row.  What a check finds wrong is a relation between checks and causes, which says
nothing of the order in which anybody looks.  A step performs a list of checks if it fails for the
first of them that finds something, and has a result where none of them does.
-/
namespace GrammarSieve

section Checks

variable {κ ε α β : Type} {Finds : κ → ε → Prop} {check : κ} {checks first later : List κ}
  {cause cause' : ε} {step : Except ε α}

/-- The check finds nothing. -/
def Clear (Finds : κ → ε → Prop) (check : κ) : Prop :=
  ∀ cause, ¬ Finds check cause

/-- All checks before the one that finds this cause find nothing. -/
def FirstFound (Finds : κ → ε → Prop) (checks : List κ) (cause : ε) : Prop :=
  ∃ passed check rest, checks = passed ++ check :: rest ∧
    (∀ earlier ∈ passed, Clear Finds earlier) ∧ Finds check cause

/-- The step fails for the first check that finds something, and has a result if there is none. -/
def Performs (Finds : κ → ε → Prop) (step : Except ε α) (checks : List κ) : Prop :=
  match step with
  | .ok _ => ∀ check ∈ checks, Clear Finds check
  | .error cause => FirstFound Finds checks cause

theorem FirstFound.head (h : Finds check cause) : FirstFound Finds (check :: checks) cause :=
  ⟨[], check, checks, rfl, by simp, h⟩

theorem FirstFound.cons (hclear : Clear Finds check) (h : FirstFound Finds checks cause) :
    FirstFound Finds (check :: checks) cause := by
  obtain ⟨passed, found, rest, rfl, hpassed, hfound⟩ := h
  exact ⟨check :: passed, found, rest, rfl, List.forall_mem_cons.mpr ⟨hclear, hpassed⟩, hfound⟩

theorem FirstFound.append_left (hclear : ∀ check ∈ first, Clear Finds check)
    (h : FirstFound Finds later cause) : FirstFound Finds (first ++ later) cause := by
  obtain ⟨passed, found, rest, rfl, hpassed, hfound⟩ := h
  refine ⟨first ++ passed, found, rest, by simp, ?_, hfound⟩
  intro earlier hearlier
  rcases List.mem_append.mp hearlier with hfirst | hlast
  · exact hclear earlier hfirst
  · exact hpassed earlier hlast

theorem FirstFound.append_right (h : FirstFound Finds first cause) (later : List κ) :
    FirstFound Finds (first ++ later) cause := by
  obtain ⟨passed, found, rest, rfl, hpassed, hfound⟩ := h
  exact ⟨passed, found, rest ++ later, by simp, hpassed, hfound⟩

theorem FirstFound.not_forall_clear (h : FirstFound Finds checks cause) :
    ¬ ∀ check ∈ checks, Clear Finds check := by
  intro hclear
  obtain ⟨passed, found, rest, rfl, -, hfound⟩ := h
  exact hclear found (by simp) cause hfound

/-- Either no check finds anything, or there is a first one that does. -/
theorem forall_clear_or_firstFound (Finds : κ → ε → Prop) (checks : List κ) :
    (∀ check ∈ checks, Clear Finds check) ∨ ∃ cause, FirstFound Finds checks cause := by
  induction checks with
  | nil => exact .inl (List.forall_mem_nil _)
  | cons check rest ih =>
      by_cases hclear : Clear Finds check
      · rcases ih with hrest | ⟨cause, hrest⟩
        · exact .inl (List.forall_mem_cons.mpr ⟨hclear, hrest⟩)
        · exact .inr ⟨cause, hrest.cons hclear⟩
      · obtain ⟨cause, hcause⟩ : ∃ cause, Finds check cause := by simpa [Clear] using hclear
        exact .inr ⟨cause, .head hcause⟩

theorem firstFound_cons_iff : FirstFound Finds (check :: checks) cause ↔
    Finds check cause ∨ Clear Finds check ∧ FirstFound Finds checks cause := by
  constructor
  · intro h
    obtain ⟨passed, found, rest, hsplit, hpassed, hfound⟩ := h
    cases passed with
    | nil =>
        obtain ⟨rfl, rfl⟩ := List.cons.inj hsplit
        exact .inl hfound
    | cons first passed =>
        obtain ⟨rfl, rfl⟩ := List.cons.inj hsplit
        obtain ⟨hfirst, hlater⟩ := List.forall_mem_cons.mp hpassed
        exact .inr ⟨hfirst, passed, found, rest, rfl, hlater, hfound⟩
  · rintro (hfound | ⟨hclear, h⟩)
    · exact .head hfound
    · exact h.cons hclear

/-- Where a check finds one cause at most, the first one that finds something settles the cause. -/
theorem FirstFound.unique
    (hcause : ∀ check cause cause', Finds check cause → Finds check cause' → cause = cause')
    (h : FirstFound Finds checks cause) (h' : FirstFound Finds checks cause') :
    cause = cause' := by
  induction checks with
  | nil =>
      obtain ⟨passed, found, rest, hsplit, -⟩ := h
      simp at hsplit
  | cons check rest ih =>
      rcases firstFound_cons_iff.mp h with hfound | ⟨hclear, hrest⟩
      · rcases firstFound_cons_iff.mp h' with hfound' | ⟨hclear', -⟩
        · exact hcause check cause cause' hfound hfound'
        · exact absurd hfound (hclear' cause)
      · rcases firstFound_cons_iff.mp h' with hfound' | ⟨-, hrest'⟩
        · exact absurd hfound' (hclear cause')
        · exact ih hrest hrest'

theorem performs_ok_nil (value : α) : Performs Finds (.ok value) [] := by
  simp [Performs]

/-- A step may put a check that finds nothing before its own. -/
theorem Performs.cons (hclear : Clear Finds check) (h : Performs Finds step checks) :
    Performs Finds step (check :: checks) := by
  cases step with
  | error cause => exact FirstFound.cons hclear h
  | ok value => exact List.forall_mem_cons.mpr ⟨hclear, h⟩

/-- What is made of the result has no part in the checks. -/
theorem Performs.map {change : α → β} (h : Performs Finds step checks) :
    Performs Finds (step.map change) checks := by
  cases step with
  | error cause => exact h
  | ok value => exact h

/-- Steps in a row perform their checks in a row. -/
theorem Performs.bind {next : α → Except ε β} (hstep : Performs Finds step first)
    (hnext : ∀ value, step = .ok value → Performs Finds (next value) later) :
    Performs Finds (step >>= next) (first ++ later) := by
  cases step with
  | error cause => exact FirstFound.append_right hstep later
  | ok value =>
      change Performs Finds (next value) (first ++ later)
      have hlater := hnext value rfl
      cases hvalue : next value with
      | error cause =>
          rw [hvalue] at hlater
          exact FirstFound.append_left hstep hlater
      | ok result =>
          rw [hvalue] at hlater
          intro check hcheck
          rcases List.mem_append.mp hcheck with hfirst | hlast
          · exact hstep check hfirst
          · exact hlater check hlast

theorem Performs.eq_error_iff
    (hcause : ∀ check cause cause', Finds check cause → Finds check cause' → cause = cause')
    (h : Performs Finds step checks) : step = .error cause ↔ FirstFound Finds checks cause := by
  cases step with
  | error found =>
      constructor
      · rintro ⟨⟩
        exact h
      · intro hfirst
        rw [FirstFound.unique hcause h hfirst]
  | ok value =>
      constructor
      · rintro ⟨⟩
      · intro hfirst
        exact absurd h hfirst.not_forall_clear

theorem Performs.exists_eq_ok_iff (h : Performs Finds step checks) :
    (∃ value, step = .ok value) ↔ ∀ check ∈ checks, Clear Finds check := by
  cases step with
  | ok value => exact ⟨fun _ => h, fun _ => ⟨value, rfl⟩⟩
  | error cause =>
      constructor
      · rintro ⟨value, ⟨⟩⟩
      · intro hclear
        exact absurd hclear (FirstFound.not_forall_clear h)

end Checks

end GrammarSieve
