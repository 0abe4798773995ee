/-
When evaluations fail.  A condition that was built from a section only asks for ends that every
edge has, so a filter of such conditions has an answer on every vine.  What is left to fail is an
evaluation by a manager that has no filters.
-/
import GrammarSieve.Proofs.Manager.Crew

namespace GrammarSieve

namespace Condition

/-- The field that names the end of an edge at which the condition looks, if it looks at one. -/
def endField? : Condition → Option Field
  | .phrase _ _ field _ => some field
  | .endpointTag _ _ field => some field
  | .word .. => none
  | .tagged _ => none
  | .relation _ => none

/-- Every edge has the end that a condition of a suited field asks for. -/
theorem Suited.exists_endpoint {c : Condition} {field : Field} (h : c.Suited)
    (hfield : c.endField? = some field) (e : Edge) : ∃ token, e.endpoint field = .ok token := by
  have hside : ∃ side : Side, field = side.field := by
    cases c with
    | phrase => exact Option.some.inj hfield ▸ h
    | endpointTag => exact Option.some.inj hfield ▸ h
    | word => cases hfield
    | tagged => cases hfield
    | relation => cases hfield
  obtain ⟨side, rfl⟩ := hside
  exact ⟨e.tokenAt side, e.endpoint_side side⟩

end Condition

namespace Filter

/-- Where the filter has an answer it can be tried, and its name is recorded if the vine
passes. -/
theorem evaluate_of_passes {f : Filter} {v : Vine} {passed : Bool}
    (h : f.passes v = .ok passed) :
    f.evaluate v = .ok (passed, if passed then v.recordMatch f.name else v) := by
  rw [evaluate, h]
  cases passed <;> rfl

theorem Configured.exists_evaluate_eq_ok {f : Filter} (h : f.Configured) (v : Vine) :
    ∃ passed, f.passes v = .ok passed ∧
      f.evaluate v = .ok (passed, if passed then v.recordMatch f.name else v) := by
  obtain ⟨passed, hpassed, -⟩ := passes_of_suited h.suited v
  exact ⟨passed, hpassed, evaluate_of_passes hpassed⟩

end Filter

namespace Desk

/-- The action has a result where filters are registered.  Where there are none it fails, and for
this reason. -/
def FailsOnlyWithoutFilters {α : Type} (desk : Desk) (action : EStateM ManagerError Desk α) :
    Prop :=
  (desk.manager.registry ≠ [] → ∃ value after, action desk = .ok value after) ∧
    (desk.manager.registry = [] → ∃ after, action desk = .error .noFilters after)

variable {desk : Desk} {names : List String}

theorem evaluate_failsOnlyWithoutFilters (h : desk.manager.registry.Configured) {name : String}
    (hvine : (desk.shelf.get? name).isSome) : desk.FailsOnlyWithoutFilters (evaluate name) := by
  obtain ⟨v, hv⟩ := Option.isSome_iff_exists.mp hvine
  constructor
  · intro hne
    exact ⟨_, _, evaluate_eq_ok h.answers hne hv⟩
  · intro hempty
    obtain ⟨after, hafter, -⟩ := exists_evaluate_eq_error hempty hv
    exact ⟨after, hafter⟩

theorem filterVines_failsOnlyWithoutFilters (h : desk.manager.registry.Configured)
    (hvines : ∀ name ∈ names, (desk.shelf.get? name).isSome) :
    desk.FailsOnlyWithoutFilters (filterVines names) := by
  constructor
  · intro hne
    obtain ⟨after, hafter, -⟩ := exists_filterVines_eq_ok h.answers hne hvines
    exact ⟨_, after, hafter⟩
  · intro hempty
    exact ⟨desk, filterVines_eq_error hempty names⟩

theorem filterVinesBy_failsOnlyWithoutFilters (h : desk.manager.registry.Configured)
    (hvines : ∀ name ∈ names, (desk.shelf.get? name).isSome) {schedule : Schedule}
    (hfull : schedule.Full names.length desk.manager.registry.length) :
    desk.FailsOnlyWithoutFilters (filterVinesBy schedule names) := by
  constructor
  · intro hne
    obtain ⟨after, -, hafter, -⟩ := exists_filterVinesBy_eq_ok h.answers hne hvines hfull
    exact ⟨_, after, hafter⟩
  · intro hempty
    exact ⟨desk, filterVinesBy_eq_error hempty names schedule⟩

/-- A filter that was built from a section, whatever the section and the modifier relations, can be
tried on every vine: it has an answer, and none of its conditions asks an edge for an end that edges
do not have.  So a manager of such filters can evaluate a vine, and filter vines with one worker or
with several, unless it has no filters; then it fails for this reason and no other. -/
theorem configured_filters_never_fail :
    (∀ modifierRelations name value f, Definition.filter modifierRelations name value = .ok f →
      (∀ v : Vine, ∃ passed, f.passes v = .ok passed ∧
        f.evaluate v = .ok (passed, if passed then v.recordMatch f.name else v)) ∧
      ∀ c ∈ f.conditions, ∀ field, c.endField? = some field →
        ∀ e : Edge, ∃ token, e.endpoint field = .ok token) ∧
    ∀ (desk : Desk) (names : List String), desk.manager.registry.Configured →
      (∀ name ∈ names, (desk.shelf.get? name).isSome) →
      (∀ name ∈ names, desk.FailsOnlyWithoutFilters (evaluate name)) ∧
      desk.FailsOnlyWithoutFilters (filterVines names) ∧
      ∀ schedule : Schedule, schedule.Full names.length desk.manager.registry.length →
        desk.FailsOnlyWithoutFilters (filterVinesBy schedule names) := by
  constructor
  · intro modifierRelations name value f hbuilt
    have hconfigured : f.Configured := ⟨modifierRelations, name, value, hbuilt⟩
    refine ⟨hconfigured.exists_evaluate_eq_ok, ?_⟩
    intro c hc field hfield
    exact (hconfigured.suited c hc).exists_endpoint hfield
  · intro desk names hconfigured hvines
    refine ⟨?_, filterVines_failsOnlyWithoutFilters hconfigured hvines, ?_⟩
    · intro name hname
      exact evaluate_failsOnlyWithoutFilters hconfigured (hvines name hname)
    · intro schedule hfull
      exact filterVinesBy_failsOnlyWithoutFilters hconfigured hvines hfull

/-- A filter on the dependents of edges has an answer on a vine that has no edges, and vines can be
filtered with it one after the other and in turns.  Without it no vine can be evaluated. -/
theorem configured_filters_never_fail_produce :
    let value := Json.object [("produce", .object [
      ("type", .string "target_word_in_grammar_dependency"), ("target_words", .string "pepper"),
      ("field", .string "Dependent")])]
    let produce : Filter := ⟨"produce", [.phrase ["pepper"] none .dependent ["amod", "nn"]]⟩
    let dinner : Vine := ⟨[], "1", "", "", "", [], [⟨"dobj", ⟨"eat", 0⟩, ⟨"pepper", 1⟩⟩], []⟩
    let silence : Vine := ⟨[], "2", "", "", "", [], [], []⟩
    let shelf : Shelf := [("dinner", dinner), ("silence", silence)]
    let desk (filters : Registry) : Desk := ⟨⟨["amod", "nn"], 2, by decide, false, filters⟩, shelf⟩
    let names := ["dinner", "silence", "dinner"]
    Definition.filter ["amod", "nn"] "produce" value = .ok produce ∧
      (∃ passed, produce.passes silence = .ok passed) ∧
      (∃ good after, filterVines names (desk [.ordinary produce]) = .ok good after) ∧
      (∃ good after, filterVinesBy [2, 0, 1] names (desk [.ordinary produce]) = .ok good after) ∧
      ∃ after, evaluate "silence" (desk []) = .error .noFilters after := by
  intro value produce dinner silence shelf desk names
  have hbuilt : Definition.filter ["amod", "nn"] "produce" value = .ok produce := by rfl
  obtain ⟨hfilter, hdesk⟩ := configured_filters_never_fail
  have hconfigured : (desk [.ordinary produce]).manager.registry.Configured :=
    .cons ⟨_, _, _, hbuilt⟩ .nil
  have hvines : ∀ name ∈ names, (shelf.get? name).isSome := by decide
  obtain ⟨-, hall, hby⟩ := hdesk (desk [.ordinary produce]) names hconfigured hvines
  obtain ⟨hevaluate, -⟩ := hdesk (desk []) names .nil hvines
  obtain ⟨passed, hpassed, -⟩ := (hfilter _ _ _ _ hbuilt).1 silence
  exact ⟨hbuilt, ⟨passed, hpassed⟩, hall.1 (by simp [desk]),
    (hby [2, 0, 1] (by decide)).1 (by simp [desk]), (hevaluate "silence" (by decide)).2 rfl⟩

end Desk

end GrammarSieve
