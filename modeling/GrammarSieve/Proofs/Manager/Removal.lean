/-
Removing filters.  Whatever names are removed one after the other, the filters that are left are
those of other names, in the order in which they were registered.  So removals can be swapped and
repeated, and removing every name of a batch takes back that the batch was registered.
-/
import GrammarSieve.Proofs.Manager.Registration

namespace GrammarSieve

namespace Manager

/-- Removes the filters of these names, one name after the other. -/
def removeEach (m : Manager) (names : List String) : Manager :=
  names.foldl remove m

theorem removeEach_cons (m : Manager) (name : String) (rest : List String) :
    m.removeEach (name :: rest) = (m.remove name).removeEach rest :=
  rfl

theorem removeEach_eq (m : Manager) (names : List String) :
    m.removeEach names = { m with registry := m.registry.filter (·.name ∉ names) } := by
  induction names generalizing m with
  | nil => simp [removeEach]
  | cons name rest ih =>
      have hfilter : (m.registry.filter (·.name ≠ name)).filter (·.name ∉ rest) =
          m.registry.filter (·.name ∉ name :: rest) := by
        rw [List.filter_filter]
        refine List.filter_congr fun f _ => ?_
        simp [Bool.and_comm]
      rw [removeEach_cons, ih, ← hfilter]
      rfl

/-- It matters which names are removed, and neither in what order nor how often. -/
theorem removeEach_congr (m : Manager) {first second : List String}
    (h : ∀ name, name ∈ first ↔ name ∈ second) : m.removeEach first = m.removeEach second := by
  rw [removeEach_eq, removeEach_eq]
  simp only [h]

theorem removeEach_of_forall_not_mem {m : Manager} {names : List String}
    (h : ∀ name ∈ names, name ∉ m.registry.names) : m.removeEach names = m := by
  have hkept : m.registry.filter (·.name ∉ names) = m.registry := by
    rw [List.filter_eq_self]
    intro f hf
    exact decide_eq_true fun hmem => h f.name hmem (List.mem_map_of_mem hf)
  rw [removeEach_eq, hkept]

/-- Removing the names of a batch, in any order and as often as one likes, takes back that it was
registered. -/
theorem removeEach_of_register {m after : Manager} {batch : Registry}
    (h : m.register batch = .ok after) {names : List String}
    (hnames : ∀ name, name ∈ names ↔ name ∈ batch.names) : after.removeEach names = m := by
  obtain ⟨⟨-, hnew⟩, rfl⟩ := register_eq_ok_iff.mp h
  have hgone : batch.filter (·.name ∉ names) = [] := by
    rw [List.filter_eq_nil_iff]
    intro f hf
    have hmem : f.name ∈ names := (hnames f.name).mpr (List.mem_map_of_mem hf)
    simpa using hmem
  have hold : m.removeEach names = m :=
    removeEach_of_forall_not_mem fun name hname => hnew name ((hnames name).mp hname)
  rw [removeEach_eq, List.filter_append, hgone, List.append_nil, ← removeEach_eq m, hold]

/-- After its name has been removed a filter can be registered.  It stands last, behind the
filters of other names. -/
theorem exists_register_remove (m : Manager) (f : RegisteredFilter) :
    ∃ others : Registry,
      (m.remove f.name).register [f] = .ok { m with registry := others ++ [f] } ∧
        others.Sublist m.registry ∧
          ∀ other, other ∈ others ↔ other ∈ m.registry ∧ other.name ≠ f.name := by
  refine ⟨m.registry.remove f.name, ?_, List.filter_sublist, ?_⟩
  · refine register_eq_ok_iff.mpr ⟨⟨by simp [Registry.names], ?_⟩, rfl⟩
    simp [Registry.names, remove, Registry.remove]
  · intro other
    simp [Registry.remove]

/-- Removal takes back registration.  If a batch has been registered, the removal of its names, in
any order and each of them once or more often, leaves the manager as it was before.  At any manager
it only matters which names are removed: removals can be swapped and repeated, and a name that is
not registered changes nothing.  A filter whose name has been removed can be registered, and then
stands last, while the filters of other names stay in their order. -/
theorem removals_undo_registration (m : Manager) :
    (∀ batch after, m.register batch = .ok after → ∀ names : List String,
      (∀ name, name ∈ names ↔ name ∈ batch.names) → after.removeEach names = m) ∧
    (∀ first second : List String, (∀ name, name ∈ first ↔ name ∈ second) →
      m.removeEach first = m.removeEach second) ∧
    (∀ name other, (m.remove name).remove other = (m.remove other).remove name) ∧
    (∀ name, (m.remove name).remove name = m.remove name) ∧
    (∀ name, name ∉ m.registry.names → m.remove name = m) ∧
    ∀ f : RegisteredFilter, ∃ others : Registry,
      (m.remove f.name).register [f] = .ok { m with registry := others ++ [f] } ∧
        others.Sublist m.registry ∧
          ∀ other, other ∈ others ↔ other ∈ m.registry ∧ other.name ≠ f.name := by
  refine ⟨?_, ?_, ?_, ?_, ?_, m.exists_register_remove⟩
  · intro batch after h names hnames
    exact removeEach_of_register h hnames
  · intro first second h
    exact m.removeEach_congr h
  · intro name other
    exact @removeEach_congr m [name, other] [other, name] fun _ => by simp [or_comm]
  · intro name
    exact @removeEach_congr m [name, name] [name] fun _ => by simp
  · intro name hname
    exact @removeEach_of_forall_not_mem m [name] (by simpa using hname)

/-- Two filters are registered behind another one and removed again, one of them twice. -/
theorem removals_undo_registration_twice :
    let objects : RegisteredFilter := .ordinary ⟨"objects", [.relation ["dobj"]]⟩
    let verbs : RegisteredFilter := .ordinary ⟨"verbs", [.tagged [⟨"VB", "eat"⟩]]⟩
    let m : Manager := ⟨defaultModifierRelations, 1, by decide, false, [objects]⟩
    let after : Manager := { m with registry := [objects, verbs, .clearing "sweep"] }
    m.register [verbs, .clearing "sweep"] = .ok after ∧
      (∀ name, name ∈ ["sweep", "verbs", "sweep"] ↔
        name ∈ Registry.names [verbs, .clearing "sweep"]) ∧
      after.removeEach ["sweep", "verbs", "sweep"] = m ∧
      "nouns" ∉ m.registry.names ∧ m.remove "nouns" = m := by
  intro objects verbs m after
  have hregister : m.register [verbs, .clearing "sweep"] = .ok after := rfl
  have hnames : ∀ name, name ∈ ["sweep", "verbs", "sweep"] ↔
      name ∈ Registry.names [verbs, .clearing "sweep"] := by
    intro name
    simp [Registry.names, RegisteredFilter.name, verbs, or_comm]
  have hnouns : "nouns" ∉ m.registry.names := by decide
  obtain ⟨hundo, -, -, -, habsent, -⟩ := m.removals_undo_registration
  exact ⟨hregister, hnames, hundo _ _ hregister _ hnames, hnouns, habsent "nouns" hnouns⟩

end Manager

end GrammarSieve
