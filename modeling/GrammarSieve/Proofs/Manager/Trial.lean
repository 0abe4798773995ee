/-
Trying filters on a vine.  A filter that has an answer on every vine is passed or not, its name
is logged if it is, and the manager loses its filters if it is a clearing one.  Trying the filters
of a registry comes to the same for all of them together: what is tried is settled before the
first one, so a clearing filter takes nothing from the evaluation that it belongs to.
-/
import GrammarSieve.Manager.Evaluation
import GrammarSieve.Proofs.Vine.Log
import GrammarSieve.Proofs.Filter.Section

namespace GrammarSieve

/-- The manager without its filters, if they are to be cleared. -/
def Manager.clearedIf (m : Manager) (cleared : Bool) : Manager :=
  if cleared then m.removeAll else m

@[simp]
theorem Manager.clearedIf_false (m : Manager) : m.clearedIf false = m :=
  rfl

@[simp]
theorem Manager.clearedIf_clearedIf (m : Manager) (first second : Bool) :
    (m.clearedIf first).clearedIf second = m.clearedIf (first || second) := by
  cases first <;> cases second <;> rfl

namespace RegisteredFilter

def clears : RegisteredFilter → Bool
  | .ordinary _ => false
  | .clearing _ => true

/-- The vine passes the filter.  A clearing filter counts as one that every vine passes. -/
def admits (f : RegisteredFilter) (v : Vine) : Bool :=
  match f with
  | .ordinary filter =>
      match filter.passes v with
      | .ok passed => passed
      | .error _ => false
  | .clearing _ => true

@[simp]
theorem admits_logged (f : RegisteredFilter) (v : Vine) (names : List String) :
    f.admits (v.logged names) = f.admits v := by
  cases f with
  | ordinary filter => simp only [admits, Filter.passes_logged]
  | clearing name => rfl

/-- Trying the filter gives an answer on every vine. -/
def Answers : RegisteredFilter → Prop
  | .ordinary filter => ∀ v, ∃ passed, filter.passes v = .ok passed
  | .clearing _ => True

theorem answers_of_configured {filter : Filter} (h : filter.Configured) :
    (RegisteredFilter.ordinary filter).Answers := by
  intro v
  obtain ⟨passed, hpassed, -⟩ := Filter.passes_of_suited h.suited v
  exact ⟨passed, hpassed⟩

/-- Filters that were built from sections answer, and so do clearing ones. -/
theorem answers_of_built {f : RegisteredFilter}
    (h : (∃ filter : Filter, f = .ordinary filter ∧ filter.Configured) ∨
      ∃ name, f = .clearing name) : f.Answers := by
  rcases h with ⟨filter, rfl, hconfigured⟩ | ⟨name, rfl⟩
  · exact answers_of_configured hconfigured
  · trivial

/-- What is logged when the filter is tried on a vine. -/
def logLine (f : RegisteredFilter) (v : Vine) : List String :=
  if f.admits v then [f.name] else []

theorem evaluate_eq_ok {f : RegisteredFilter} (h : f.Answers) (trial : Trial) :
    f.evaluate trial = .ok (f.admits trial.vine)
      ⟨trial.manager.clearedIf f.clears, trial.vine.logged (f.logLine trial.vine)⟩ := by
  cases f with
  | clearing name => rfl
  | ordinary filter =>
      obtain ⟨passed, hpassed⟩ := h trial.vine
      cases passed <;>
        simp [RegisteredFilter.evaluate, Filter.evaluate, hpassed, logLine, admits, clears,
          Vine.recordMatch_eq_logged, RegisteredFilter.name]

end RegisteredFilter

namespace Registry

def clears (filters : Registry) : Bool :=
  filters.any (·.clears)

/-- The names of the filters that the vine passes. -/
def admitted (filters : Registry) (v : Vine) : List String :=
  (filters.filter (·.admits v)).map (·.name)

@[simp]
theorem admitted_logged (filters : Registry) (v : Vine) (names : List String) :
    filters.admitted (v.logged names) = filters.admitted v := by
  simp only [admitted, RegisteredFilter.admits_logged]

theorem admitted_cons (f : RegisteredFilter) (rest : Registry) (v : Vine) :
    admitted (f :: rest) v = f.logLine v ++ rest.admitted v := by
  cases hadmits : f.admits v <;> simp [admitted, RegisteredFilter.logLine, hadmits]

/-- Trying the filters of a registry returns and logs the names of those that the vine passes,
and clears the manager if there is a clearing one among them. -/
theorem evaluate_eq_ok {filters : Registry} (h : ∀ f ∈ filters, f.Answers) (trial : Trial) :
    filters.evaluate trial = .ok (filters.admitted trial.vine)
      ⟨trial.manager.clearedIf filters.clears,
        trial.vine.logged (filters.admitted trial.vine)⟩ := by
  induction filters generalizing trial with
  | nil => simp [Registry.evaluate, admitted, clears, pure, EStateM.pure]
  | cons f rest ih =>
      obtain ⟨hf, hrest⟩ := List.forall_mem_cons.mp h
      simp only [Registry.evaluate, bind, EStateM.bind, f.evaluate_eq_ok hf, ih hrest, pure,
        EStateM.pure, admitted_logged, Vine.logged_logged, Manager.clearedIf_clearedIf,
        admitted_cons, clears, List.any_cons]
      cases hadmits : f.admits trial.vine <;> simp [RegisteredFilter.logLine, hadmits]

end Registry

/-- All of the filters are ordinary ones that were built from sections. -/
def Registry.Configured (filters : Registry) : Prop :=
  ∀ f ∈ filters, ∃ filter : Filter, f = .ordinary filter ∧ filter.Configured

namespace Registry.Configured

variable {filters : Registry}

theorem nil : Registry.Configured [] :=
  List.forall_mem_nil _

theorem cons {f : Filter} (h : f.Configured) (hrest : filters.Configured) :
    Registry.Configured (.ordinary f :: filters) :=
  List.forall_mem_cons.mpr ⟨⟨f, rfl, h⟩, hrest⟩

theorem answers (h : filters.Configured) : ∀ f ∈ filters, f.Answers := by
  intro f hf
  exact RegisteredFilter.answers_of_built (.inl (h f hf))

theorem clears_eq_false (h : filters.Configured) : filters.clears = false := by
  rw [clears, List.any_eq_false]
  intro f hf
  obtain ⟨filter, rfl, -⟩ := h f hf
  simp [RegisteredFilter.clears]

end Registry.Configured

theorem Trial.evaluate_eq (trial : Trial) :
    Trial.evaluate trial =
      if trial.manager.registry.isEmpty then .error .noFilters trial
      else trial.manager.registry.evaluate trial := by
  change (if trial.manager.registry.isEmpty then _ else _ : EStateM _ _ _) trial = _
  split <;> rfl

/-- A trial of the registered filters, none of which clears, returns and logs what the vine passes,
and leaves the manager as it is. -/
theorem Trial.evaluate_eq_ok {m : Manager} (h : m.registry.Configured) (hne : m.registry ≠ [])
    (v : Vine) :
    Trial.evaluate ⟨m, v⟩ =
      .ok (m.registry.admitted v) ⟨m, v.logged (m.registry.admitted v)⟩ := by
  rw [Trial.evaluate_eq, if_neg (by simpa using hne), Registry.evaluate_eq_ok h.answers,
    h.clears_eq_false, Manager.clearedIf_false]

end GrammarSieve
