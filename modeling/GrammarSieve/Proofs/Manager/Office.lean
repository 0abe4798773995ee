/-
The names of the filters in an office.  Managers that start without filters never hold two filters
of one name, whatever they are asked to do.  Restoring takes filters over without a look at their
names, so the invariant has to cover the texts as well: all that can be read back from a text was
registered once, and then its names were different.
-/
import GrammarSieve.Proofs.Manager.Clearing
import GrammarSieve.Proofs.Manager.Registration
import Mathlib.Data.List.Nodup

namespace GrammarSieve

namespace Registry

variable {registry : Registry}

theorem nodup_names_append {batch : Registry} (h : registry.names.Nodup)
    (hbatch : batch.names.Nodup) (hnew : ∀ name ∈ batch.names, name ∉ registry.names) :
    (names (registry ++ batch)).Nodup := by
  rw [names, List.map_append]
  exact h.append hbatch fun name hold hmem => hnew name hmem hold

theorem nodup_names_remove (h : registry.names.Nodup) (name : String) :
    (registry.remove name).names.Nodup :=
  h.sublist (List.filter_sublist.map _)

theorem sortedNames_perm (registry : Registry) : registry.sortedNames.Perm registry.names :=
  List.mergeSort_perm _ _

theorem not_decide_lt_iff {left right : String} :
    (!decide (right < left)) = true ↔ left ≤ right := by
  rw [Bool.not_eq_true', decide_eq_false_iff_not, String.not_lt]

theorem sortedNames_pairwise_le (registry : Registry) :
    registry.sortedNames.Pairwise (· ≤ ·) := by
  have hsorted : registry.sortedNames.Pairwise fun left right =>
      (!decide (right < left)) = true := by
    apply List.pairwise_mergeSort
    · intro first second third hfirst hsecond
      simp only [not_decide_lt_iff] at hfirst hsecond ⊢
      exact String.le_trans hfirst hsecond
    · intro left right
      simp only [Bool.or_eq_true, not_decide_lt_iff]
      exact String.le_total left right
  exact hsorted.imp not_decide_lt_iff.mp

/-- Names that are different from each other are listed in strictly ascending order. -/
theorem sortedNames_pairwise_lt (h : registry.names.Nodup) :
    registry.sortedNames.Pairwise (· < ·) := by
  have hnodup : registry.sortedNames.Nodup := (sortedNames_perm registry).nodup_iff.mpr h
  refine ((sortedNames_pairwise_le registry).and hnodup).imp ?_
  rintro left right ⟨hle, hne⟩
  by_contra hge
  exact hne (String.le_antisymm hle (String.not_lt.mp hge))

end Registry

namespace Manager

/-- No two registered filters have the same name. -/
def NamesDistinct (m : Manager) : Prop :=
  m.registry.names.Nodup

variable {m : Manager}

theorem namesDistinct_of_registry_eq_nil (h : m.registry = []) : m.NamesDistinct := by
  rw [NamesDistinct, h]
  exact List.nodup_nil

theorem registry_eq_nil_of_create {modifierRelations : Option (List String)}
    {workers : Option Int} {verbose : Option Bool}
    (h : create modifierRelations workers verbose = .ok m) : m.registry = [] := by
  simp only [create] at h
  split at h
  · cases h
  · cases h
    rfl

theorem NamesDistinct.remove (h : m.NamesDistinct) (name : String) :
    (m.remove name).NamesDistinct :=
  Registry.nodup_names_remove h name

theorem NamesDistinct.clearedIf (h : m.NamesDistinct) (cleared : Bool) :
    (m.clearedIf cleared).NamesDistinct := by
  cases cleared with
  | false => exact h
  | true => exact namesDistinct_of_registry_eq_nil rfl

theorem NamesDistinct.of_register {batch : Registry} {after : Manager} (h : m.NamesDistinct)
    (hregister : m.register batch = .ok after) : after.NamesDistinct := by
  obtain ⟨⟨hbatch, hnew⟩, rfl⟩ := register_eq_ok_iff.mp hregister
  exact Registry.nodup_names_append h hbatch hnew

/-- What a configuration defines is registered as one batch. -/
theorem exists_register_of_registerConfiguration {configuration : Json} {names : List String}
    {after : Manager} (h : m.registerConfiguration configuration = .ok (names, after)) :
    ∃ batch, m.register batch = .ok after := by
  unfold registerConfiguration at h
  split at h
  · cases h
  · split at h
    · cases h
    · next filters _ =>
        split at h
        · cases h
        · next hregister =>
            cases h
            exact ⟨filters.map .ordinary, hregister⟩

theorem exists_register_of_registerSettings {text : String} {names : List String}
    {after : Manager} (h : m.registerSettings text = .ok (names, after)) :
    ∃ batch, m.register batch = .ok after := by
  unfold registerSettings registerRead at h
  split at h
  · cases h
  · exact exists_register_of_registerConfiguration h

theorem NamesDistinct.afterwards (h : m.NamesDistinct) {result : Except ManagerError Manager}
    (hresult : ∀ after, result = .ok after → after.NamesDistinct) :
    (m.afterwards result).NamesDistinct := by
  cases result with
  | error cause => exact h
  | ok after => exact hresult after rfl

/-- The same for an operation that also returns names. -/
theorem NamesDistinct.afterwards_map (h : m.NamesDistinct)
    {result : Except ManagerError (List String × Manager)}
    (hresult : ∀ names after, result = .ok (names, after) → ∃ batch, m.register batch = .ok after) :
    (m.afterwards (result.map (·.2))).NamesDistinct := by
  cases result with
  | error cause => exact h
  | ok returned =>
      obtain ⟨batch, hbatch⟩ := hresult returned.1 returned.2 rfl
      exact h.of_register hbatch

end Manager

namespace Office

variable {α : Type} {format : SavedFilters.Format α} {office : Office α}

/-- No manager holds two filters of one name, and from no text can two be restored. -/
structure Sound (format : SavedFilters.Format α) (office : Office α) : Prop where
  managers : ∀ m ∈ office.managers, m.NamesDistinct
  texts : ∀ text ∈ office.texts, ∀ saved, format.read? text = some saved →
    saved.registry.names.Nodup

theorem Sound.withManager (h : Sound format office) {m : Manager} (hm : m.NamesDistinct)
    (place : Nat) : Sound format (office.withManager place m) where
  managers := by
    intro other hother
    rcases List.mem_or_eq_of_mem_set hother with hold | rfl
    · exact h.managers other hold
    · exact hm
  texts := h.texts

theorem Sound.actAtDesk (h : Sound format office) {m : Manager} (hm : m.NamesDistinct)
    (place : Nat) {β : Type} {action : EStateM ManagerError Desk β}
    (haction : OnlyClears Desk.manager action) :
    Sound format (office.actAtDesk place m action) := by
  obtain ⟨cleared, hcleared⟩ := haction ⟨m, office.shelf⟩
  have hafter : (stateAfter action ⟨m, office.shelf⟩).manager.NamesDistinct := by
    rw [hcleared]
    exact hm.clearedIf cleared
  exact ⟨(h.withManager hafter place).managers, h.texts⟩

theorem Sound.save (hlawful : format.Lawful) (h : Sound format office) {m : Manager}
    (hm : m.NamesDistinct) :
    Sound format { office with texts := office.texts ++ [format.write m.save] } where
  managers := h.managers
  texts := by
    intro text htext saved hread
    rcases List.mem_append.mp htext with hold | hnew
    · exact h.texts text hold saved hread
    · -- what the new text gives back is what the manager holds now
      obtain rfl := List.mem_singleton.mp hnew
      obtain rfl := Option.some.inj ((hlawful m.save).symm.trans hread)
      exact hm

theorem Sound.restoreFrom (h : Sound format office) {text : α} (htext : text ∈ office.texts)
    {m after : Manager} (hafter : m.restoreFrom format text = .ok after) :
    after.NamesDistinct := by
  unfold Manager.restoreFrom at hafter
  split at hafter
  · next saved hread =>
      cases hafter
      exact h.texts text htext saved hread
  · cases hafter

theorem Sound.carryOut (hlawful : format.Lawful) (h : Sound format office) {m : Manager}
    (hm : m.NamesDistinct) (place : Nat) (operation : Operation) :
    Sound format (office.carryOut format place m operation) := by
  cases operation with
  | register batch => exact h.withManager (hm.afterwards fun _ => hm.of_register) place
  | registerConfiguration configuration =>
      exact h.withManager
        (hm.afterwards_map fun _ _ => Manager.exists_register_of_registerConfiguration) place
  | registerSettings text =>
      exact h.withManager
        (hm.afterwards_map fun _ _ => Manager.exists_register_of_registerSettings) place
  | remove name => exact h.withManager (hm.remove name) place
  | removeAll => exact h.withManager (Manager.namesDistinct_of_registry_eq_nil rfl) place
  | evaluate vine => exact h.actAtDesk hm place (Desk.evaluate_onlyClears vine)
  | filterVines schedule vines =>
      exact h.actAtDesk hm place (Desk.filterVinesByWorkers_onlyClears schedule vines)
  | save => exact h.save hlawful hm
  | restore number =>
      rw [Office.carryOut]
      split
      · next text htext =>
          have hmem : text ∈ office.texts := List.mem_of_getElem? htext
          exact h.withManager (hm.afterwards fun _ => h.restoreFrom hmem) place
      · exact h

theorem Sound.act (hlawful : format.Lawful) (h : Sound format office) (place : Nat)
    (operation : Operation) : Sound format (office.act format place operation) := by
  unfold Office.act
  split
  · next m hm => exact h.carryOut hlawful (h.managers m (List.mem_of_getElem? hm)) place operation
  · exact h

theorem Sound.run (hlawful : format.Lawful) (h : Sound format office)
    (operations : List (Nat × Operation)) : Sound format (office.run format operations) := by
  induction operations generalizing office with
  | nil => exact h
  | cons first rest ih => exact ih (h.act hlawful first.1 first.2)

/-- An office opens with managers that hold no filters, and with no texts. -/
theorem sound_opening {managers : List Manager} (hnew : ∀ m ∈ managers, m.registry = [])
    (shelf : Shelf) : Sound format ⟨managers, shelf, []⟩ where
  managers m hm := Manager.namesDistinct_of_registry_eq_nil (hnew m hm)
  texts := by simp

/-- Whatever managers that were new are asked to do one after the other, the names of the filters
that a manager holds are different from each other, and it lists exactly these names in strictly
ascending order. -/
theorem run_names_distinct_and_listed (hlawful : format.Lawful) {managers : List Manager}
    (hnew : ∀ m ∈ managers, ∃ modifierRelations workers verbose,
      Manager.create modifierRelations workers verbose = .ok m)
    (shelf : Shelf) (operations : List (Nat × Operation)) :
    ∀ m ∈ (run format ⟨managers, shelf, []⟩ operations).managers,
      m.registry.names.Nodup ∧ m.registry.sortedNames.Pairwise (· < ·) ∧
        m.registry.sortedNames.Perm m.registry.names := by
  intro m hm
  have hempty : ∀ m ∈ managers, m.registry = [] := by
    intro m hm
    obtain ⟨modifierRelations, workers, verbose, hcreate⟩ := hnew m hm
    exact Manager.registry_eq_nil_of_create hcreate
  have hsound := (sound_opening hempty shelf).run hlawful operations
  have hdistinct : m.registry.names.Nodup := hsound.managers m hm
  exact ⟨hdistinct, Registry.sortedNames_pairwise_lt hdistinct,
    Registry.sortedNames_perm m.registry⟩

/-- Two managers, where the second one restores what the first one has saved.  A batch that repeats
a name is refused, and so is one with a name that came with the restored filters; the first
manager loses its filters to a clearing one. -/
theorem run_names_distinct_and_listed_exchange :
    let format : SavedFilters.Format SavedFilters := ⟨id, some⟩
    let first : Manager := ⟨defaultModifierRelations, 1, by decide, false, []⟩
    let second : Manager := ⟨defaultModifierRelations, 2, by decide, true, []⟩
    let objects : RegisteredFilter := .ordinary ⟨"objects", [.relation ["dobj"]]⟩
    let verbs : RegisteredFilter := .ordinary ⟨"verbs", [.tagged [⟨"VB", "eat"⟩]]⟩
    let nouns : RegisteredFilter := .ordinary ⟨"nouns", [.tagged [⟨"NN", "pepper"⟩]]⟩
    let dinner : Vine := ⟨[], "1", "", "", "", [], [⟨"dobj", ⟨"eat", 0⟩, ⟨"pepper", 1⟩⟩], []⟩
    let office := run format ⟨[first, second], [("dinner", dinner)], []⟩
      [(0, .register [verbs, objects]), (0, .register [nouns, nouns]), (0, .save),
        (1, .register [nouns]), (1, .restore 0), (1, .register [objects]), (1, .register [nouns]),
        (1, .remove "verbs"), (0, .register [.clearing "sweep"]), (0, .filterVines [] ["dinner"])]
    format.Lawful ∧ office.managers.map (·.registry.names) = [[], ["objects", "nouns"]] ∧
      ∀ m ∈ office.managers, m.registry.names.Nodup ∧ m.registry.sortedNames.Pairwise (· < ·) ∧
        m.registry.sortedNames.Perm m.registry.names := by
  intro format first second objects verbs nouns dinner office
  have hlawful : format.Lawful := fun _ => rfl
  have hnew : ∀ m ∈ [first, second], ∃ modifierRelations workers verbose,
      Manager.create modifierRelations workers verbose = .ok m := by
    intro m hm
    rcases List.mem_pair.mp hm with rfl | rfl
    · exact ⟨none, none, none, rfl⟩
    · exact ⟨none, some 2, some true, rfl⟩
  exact ⟨hlawful, by decide, run_names_distinct_and_listed hlawful hnew _ _⟩

end Office

end GrammarSieve
