/-
Evaluating vines at a desk, one after the other.  A vine is found under its name, and what an
evaluation leaves on the shelf are the same vines with longer logs.  Since no filter looks at a
log, each vine passes the same filters however often and whenever it comes up.
-/
import GrammarSieve.Proofs.Manager.Trial

namespace GrammarSieve

namespace Shelf

variable {first second third : Shelf}

/-- The second shelf holds the vines of the first one, with names added to their logs. -/
def GrowsTo (first second : Shelf) (added : String → List String) : Prop :=
  ∀ name, second.get? name = (first.get? name).map (·.logged (added name))

/-- The names of the filters that the vine of this name passes. -/
def admittedAt (shelf : Shelf) (filters : Registry) (name : String) : List String :=
  match shelf.get? name with
  | some v => filters.admitted v
  | none => []

theorem admittedAt_of_get? {shelf : Shelf} {name : String} {v : Vine}
    (h : shelf.get? name = some v) (filters : Registry) :
    shelf.admittedAt filters name = filters.admitted v := by
  rw [admittedAt, h]

theorem GrowsTo.refl (shelf : Shelf) : shelf.GrowsTo shelf fun _ => [] := by
  intro name
  simp

theorem GrowsTo.trans {earlier later : String → List String} (h : first.GrowsTo second earlier)
    (h' : second.GrowsTo third later) :
    first.GrowsTo third fun name => earlier name ++ later name := by
  intro name
  rw [h' name, h name, Option.map_map]
  cases first.get? name <;> simp

/-- Putting a vine back with a longer log lengthens no other log. -/
theorem growsTo_put {shelf : Shelf} {name : String} {v : Vine} (h : shelf.get? name = some v)
    (names : List String) :
    shelf.GrowsTo (shelf.put name (v.logged names))
      fun other => if other = name then names else [] := by
  intro other
  by_cases hother : other = name
  · subst hother
    simp [get?_put_self, h]
  · simp [get?_put_of_ne hother, hother]

theorem GrowsTo.isSome_get? {added : String → List String} (h : first.GrowsTo second added)
    (name : String) : (second.get? name).isSome = (first.get? name).isSome := by
  rw [h name, Option.isSome_map]

/-- What the vines pass does not change as their logs grow. -/
theorem GrowsTo.admittedAt_eq {added : String → List String} (h : first.GrowsTo second added)
    (filters : Registry) (name : String) :
    second.admittedAt filters name = first.admittedAt filters name := by
  rw [admittedAt, admittedAt, h name]
  cases first.get? name <;> simp

end Shelf

namespace Desk

/-- A trial at a desk is one with the vine of this name. -/
theorem onVine_eq_ok {α : Type} {desk : Desk} {name : String} {v : Vine}
    (hv : desk.shelf.get? name = some v) {trial : EStateM ManagerError Trial α} {value : α}
    {after : Trial} (h : trial ⟨desk.manager, v⟩ = .ok value after) :
    onVine name trial desk = .ok value ⟨after.manager, desk.shelf.put name after.vine⟩ := by
  simp only [onVine, hv, h]

variable {desk : Desk} {filters : Registry}

theorem onVine_registry_eq_ok (h : ∀ f ∈ filters, f.Answers) {name : String} {v : Vine}
    (hv : desk.shelf.get? name = some v) :
    onVine name filters.evaluate desk = .ok (filters.admitted v)
      ⟨desk.manager.clearedIf filters.clears,
        desk.shelf.put name (v.logged (filters.admitted v))⟩ :=
  onVine_eq_ok hv (filters.evaluate_eq_ok h ⟨desk.manager, v⟩)

/-- Evaluating a vine tries the filters that are registered now. -/
theorem evaluate_eq_ok (h : ∀ f ∈ desk.manager.registry, f.Answers)
    (hne : desk.manager.registry ≠ []) {name : String} {v : Vine}
    (hv : desk.shelf.get? name = some v) :
    evaluate name desk = .ok (desk.manager.registry.admitted v)
      ⟨desk.manager.clearedIf desk.manager.registry.clears,
        desk.shelf.put name (v.logged (desk.manager.registry.admitted v))⟩ := by
  have htrial : Trial.evaluate ⟨desk.manager, v⟩ =
      desk.manager.registry.evaluate ⟨desk.manager, v⟩ := by
    simp [Trial.evaluate_eq, hne]
  exact onVine_eq_ok hv (htrial.trans (desk.manager.registry.evaluate_eq_ok h _))

/-- Evaluating a vine where no filters are registered fails, and no log changes. -/
theorem exists_evaluate_eq_error (hempty : desk.manager.registry = []) {name : String} {v : Vine}
    (hv : desk.shelf.get? name = some v) :
    ∃ after, evaluate name desk = .error .noFilters after ∧ after.manager = desk.manager ∧
      desk.shelf.GrowsTo after.shelf fun _ => [] := by
  have htrial : Trial.evaluate ⟨desk.manager, v⟩ = .error .noFilters ⟨desk.manager, v⟩ := by
    simp [Trial.evaluate_eq, hempty]
  refine ⟨⟨desk.manager, desk.shelf.put name v⟩, ?_, rfl, ?_⟩
  · simp only [evaluate, onVine, hv, htrial]
  · simpa using Shelf.growsTo_put hv []

/-- Sieving vines one after the other keeps those that pass a filter and logs what each of them
passes as often as it comes up. -/
theorem exists_sieve_eq_ok (h : ∀ f ∈ filters, f.Answers) {names : List String}
    (hvines : ∀ name ∈ names, (desk.shelf.get? name).isSome) :
    ∃ after, sieve filters names desk =
        .ok (names.filter fun name => desk.shelf.admittedAt filters name ≠ []) after ∧
      after.manager = desk.manager.clearedIf (names ≠ [] && filters.clears) ∧
      desk.shelf.GrowsTo after.shelf fun name =>
        (List.replicate (names.count name) (desk.shelf.admittedAt filters name)).flatten := by
  induction names generalizing desk with
  | nil =>
      refine ⟨desk, rfl, by simp, ?_⟩
      simpa using Shelf.GrowsTo.refl desk.shelf
  | cons name rest ih =>
      obtain ⟨hname, hrest⟩ := List.forall_mem_cons.mp hvines
      obtain ⟨v, hv⟩ := Option.isSome_iff_exists.mp hname
      let next : Desk := ⟨desk.manager.clearedIf filters.clears,
        desk.shelf.put name (v.logged (filters.admitted v))⟩
      have hfirst : onVine name filters.evaluate desk = .ok (filters.admitted v) next :=
        onVine_registry_eq_ok h hv
      have hgrows : desk.shelf.GrowsTo next.shelf _ := Shelf.growsTo_put hv (filters.admitted v)
      have hnext : ∀ other ∈ rest, (next.shelf.get? other).isSome := by
        intro other hother
        rw [hgrows.isSome_get?]
        exact hrest other hother
      obtain ⟨after, hafter, hmanager, hshelf⟩ := ih hnext
      simp only [hgrows.admittedAt_eq] at hafter hshelf
      refine ⟨after, ?_, ?_, ?_⟩
      · simp only [sieve, bind, EStateM.bind, hfirst, hafter, pure, EStateM.pure]
        by_cases hempty : filters.admitted v = []
        · simp [Shelf.admittedAt_of_get? hv, hempty]
        · simp [Shelf.admittedAt_of_get? hv, hempty]
      · have hcleared : next.manager = desk.manager.clearedIf filters.clears := rfl
        rw [hmanager, hcleared]
        cases filters.clears <;> simp
      · intro other
        rw [(hgrows.trans hshelf) other]
        by_cases hother : other = name
        · subst hother
          simp [Shelf.admittedAt_of_get? hv, List.replicate_succ]
        · simp [hother, Ne.symm hother]

/-- The names of the registered filters that the vine of this name passes. -/
def admitted (desk : Desk) (name : String) : List String :=
  desk.shelf.admittedAt desk.manager.registry name

theorem filterVines_eq (names : List String) (desk : Desk) :
    filterVines names desk =
      if desk.manager.registry.isEmpty then .error .noFilters desk
      else sieve desk.manager.registry names desk := by
  change (if desk.manager.registry.isEmpty then _ else _ : EStateM _ _ _) desk = _
  split <;> rfl

/-- Filtering vines sieves them with the filters that are registered now. -/
theorem exists_filterVines_eq_ok (h : ∀ f ∈ desk.manager.registry, f.Answers)
    (hne : desk.manager.registry ≠ []) {names : List String}
    (hvines : ∀ name ∈ names, (desk.shelf.get? name).isSome) :
    ∃ after, filterVines names desk =
        .ok (names.filter fun name => desk.admitted name ≠ []) after ∧
      after.manager = desk.manager.clearedIf (names ≠ [] && desk.manager.registry.clears) ∧
      desk.shelf.GrowsTo after.shelf fun name =>
        (List.replicate (names.count name) (desk.admitted name)).flatten := by
  have hsieve : filterVines names desk = sieve desk.manager.registry names desk := by
    simp [filterVines_eq, hne]
  rw [hsieve]
  exact exists_sieve_eq_ok h hvines

theorem filterVines_eq_error (hempty : desk.manager.registry = []) (names : List String) :
    filterVines names desk = .error .noFilters desk := by
  simp [filterVines_eq, hempty]

end Desk

end GrammarSieve
