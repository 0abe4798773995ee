/-
Registering filters as a batch and one at a time.  A batch is checked against a list of names
that grows with it, and a single filter against the registry, which grows as well.  The two hold
the same names at every step, so that a batch is accepted exactly if its filters are accepted one
after the other, and refused for the same filter; but a refused batch leaves nothing behind.
-/
import GrammarSieve.Manager.Office
import GrammarSieve.Proofs.Vine.Reading

namespace GrammarSieve

namespace Registry

/-- It matters which names are taken, and not in what order they are noted. -/
theorem firstTaken?_congr {taken taken' : List String}
    (h : ∀ name, name ∈ taken ↔ name ∈ taken') (names : List String) :
    firstTaken? taken names = firstTaken? taken' names := by
  induction names generalizing taken taken' with
  | nil => rfl
  | cons first rest ih =>
      have hnoted : ∀ name, name ∈ first :: taken ↔ name ∈ first :: taken' := by
        intro name
        rw [List.mem_cons, List.mem_cons, h name]
      rw [firstTaken?, firstTaken?, ih hnoted]
      simp only [h first]

@[simp]
theorem register_nil (registry : Registry) : registry.register [] = .ok registry := by
  simp [register, names, firstTaken?]

/-- The first filter of a batch is refused, or the rest of the batch is registered as if the
first one had been there before. -/
theorem register_cons (registry : Registry) (f : RegisteredFilter) (rest : Registry) :
    registry.register (f :: rest) =
      if f.name ∈ registry.names then .error f.name else (registry ++ [f]).register rest := by
  -- the names noted for the batch so far are those of the registry grown so far
  have hnoted : ∀ name, name ∈ f.name :: registry.names ↔ name ∈ (registry ++ [f]).names := by
    intro name
    simp [names, or_comm]
  have hnames : names (f :: rest) = f.name :: rest.names := rfl
  by_cases htaken : f.name ∈ registry.names
  · simp only [register, hnames, firstTaken?, htaken, ↓reduceIte]
  · simp only [register, hnames, firstTaken?, htaken, ↓reduceIte, firstTaken?_congr hnoted,
      List.append_assoc, List.singleton_append]

/-- A batch that is refused has a filter whose name is taken when the filters before it have been
registered. -/
theorem exists_taken_of_register {registry batch : Registry} {name : String}
    (h : registry.register batch = .error name) :
    ∃ front f rest, batch = front ++ f :: rest ∧ f.name = name ∧
      registry.register front = .ok (registry ++ front) ∧ f.name ∈ (registry ++ front).names := by
  induction batch generalizing registry with
  | nil => simp at h
  | cons first batch ih =>
      by_cases htaken : first.name ∈ registry.names
      · rw [register_cons, if_pos htaken] at h
        exact ⟨[], first, batch, rfl, Except.error.inj h, by simp, by simpa using htaken⟩
      · rw [register_cons, if_neg htaken] at h
        obtain ⟨front, f, rest, rfl, hname, hfront, hmem⟩ := ih h
        refine ⟨first :: front, f, rest, rfl, hname, ?_, by simpa using hmem⟩
        simpa [register_cons, htaken] using hfront

end Registry

namespace Manager

/-- Registers filters one at a time, up to the first that is refused. -/
def registerEach (m : Manager) (filters : Registry) : Except ManagerError Manager :=
  filters.foldlM (fun m f => m.register [f]) m

theorem register_cons (m : Manager) (f : RegisteredFilter) (rest : Registry) :
    m.register (f :: rest) = m.register [f] >>= fun m => m.register rest := by
  simp only [register, Registry.register_cons m.registry]
  by_cases htaken : f.name ∈ m.registry.names
  · simp only [htaken, ↓reduceIte]
    rfl
  · simp only [htaken, ↓reduceIte, Registry.register_nil]
    rfl

/-- Registering a batch gives what registering its filters one at a time gives: the same manager,
or the same failure. -/
theorem register_eq_registerEach (m : Manager) (batch : Registry) :
    m.register batch = m.registerEach batch := by
  induction batch generalizing m with
  | nil => simp [register, registerEach, pure, Except.pure]
  | cons f rest ih =>
      rw [register_cons, registerEach, List.foldlM_cons]
      exact congrArg _ (funext ih)

theorem register_eq_ok_iff {m after : Manager} {batch : Registry} :
    m.register batch = .ok after ↔
      (batch.names.Nodup ∧ ∀ name ∈ batch.names, name ∉ m.registry.names) ∧
        after = { m with registry := m.registry ++ batch } := by
  rw [register]
  cases hregistry : m.registry.register batch with
  | error name =>
      have hrefused : ¬ (batch.names.Nodup ∧ ∀ name ∈ batch.names, name ∉ m.registry.names) := by
        intro h
        rw [(Registry.register_eq_ok_iff _ _ _).mpr ⟨h, rfl⟩] at hregistry
        contradiction
      simp [hrefused]
  | ok registry =>
      obtain ⟨hnew, rfl⟩ := (Registry.register_eq_ok_iff _ _ _).mp hregistry
      constructor
      · intro h
        exact ⟨hnew, (Except.ok.inj h).symm⟩
      · rintro ⟨-, rfl⟩
        rfl

/-- A batch is refused as the first of its filters is that is refused when they are registered
one at a time: its name is that of a registered filter, or of an earlier one of the batch. -/
def RefusedAt (m : Manager) (batch front : Registry) (f : RegisteredFilter)
    (cause : ManagerError) : Prop :=
  (∃ rest, batch = front ++ f :: rest) ∧ cause = .duplicateFilter f.name ∧
    (f.name ∈ m.registry.names ∨ f.name ∈ front.names) ∧
    front.names.Nodup ∧ (∀ name ∈ front.names, name ∉ m.registry.names) ∧
    ∃ grown, m.registerEach front = .ok grown ∧ grown.register [f] = .error cause

theorem exists_refusedAt_of_register {m : Manager} {batch : Registry} {cause : ManagerError}
    (h : m.register batch = .error cause) : ∃ front f, m.RefusedAt batch front f cause := by
  rw [register] at h
  split at h
  · next name hregistry =>
      obtain rfl := Except.error.inj h
      obtain ⟨front, f, rest, rfl, rfl, hfront, htaken⟩ :=
        Registry.exists_taken_of_register hregistry
      obtain ⟨hnew, -⟩ := (Registry.register_eq_ok_iff _ _ _).mp hfront
      have hgrown : m.registerEach front = .ok { m with registry := m.registry ++ front } := by
        rw [← register_eq_registerEach]
        exact register_eq_ok_iff.mpr ⟨hnew, rfl⟩
      refine ⟨front, f, ⟨rest, rfl⟩, rfl, ?_, hnew.1, hnew.2, _, hgrown, ?_⟩
      · simpa [Registry.names] using htaken
      · simp only [register, Registry.register_cons, htaken, ↓reduceIte]
  · cases h

end Manager

namespace Office

variable {α : Type} {format : SavedFilters.Format α} {office : Office α} {place : Nat}
  {m : Manager}

theorem getElem?_withManager (hm : office.managers[place]? = some m) (other : Manager) :
    (office.withManager place other).managers[place]? = some other := by
  obtain ⟨hplace, -⟩ := List.getElem?_eq_some_iff.mp hm
  exact List.getElem?_set_self hplace

theorem withManager_self (hm : office.managers[place]? = some m) :
    office.withManager place m = office := by
  obtain ⟨hplace, rfl⟩ := List.getElem?_eq_some_iff.mp hm
  rw [withManager, List.set_getElem_self]

theorem withManager_withManager (office : Office α) (place : Nat) (first second : Manager) :
    (office.withManager place first).withManager place second = office.withManager place second := by
  rw [withManager, withManager, List.set_set]
  rfl

theorem act_register (hm : office.managers[place]? = some m) (batch : Registry) :
    office.act format place (.register batch) =
      office.withManager place (m.afterwards (m.register batch)) := by
  rw [act, hm]
  rfl

/-- Filters that are registered one at a time, each of them without a failure, make their manager
the one that registering them together makes. -/
theorem run_register_each {filters : Registry} {after : Manager}
    (hm : office.managers[place]? = some m) (h : m.registerEach filters = .ok after) :
    office.run format (filters.map fun f => (place, .register [f])) =
      office.withManager place after := by
  induction filters generalizing office m with
  | nil =>
      obtain rfl := Except.ok.inj h
      exact (withManager_self hm).symm
  | cons f rest ih =>
      rw [Manager.registerEach, List.foldlM_cons] at h
      obtain ⟨next, hfirst, hrest⟩ := bind_eq_ok_iff.mp h
      rw [List.map_cons, run, act_register hm, hfirst]
      exact (ih (getElem?_withManager hm next) hrest).trans (withManager_withManager _ _ _ _)

/-- A batch is registered exactly if its filters can be registered one at a time, and both ways
the manager ends up with the batch behind the filters that it had.  Otherwise the batch is refused
as the first filter is that is refused alone, one whose name is registered or occurs earlier in the
batch, and nothing changes. -/
theorem act_register_agrees_with_each (hm : office.managers[place]? = some m) (batch : Registry) :
    m.register batch = m.registerEach batch ∧
      match m.register batch with
      | .ok after => after = { m with registry := m.registry ++ batch } ∧
          office.act format place (.register batch) = office.withManager place after ∧
          office.run format (batch.map fun f => (place, .register [f])) =
            office.withManager place after
      | .error cause => office.act format place (.register batch) = office ∧
          ∃ front f, m.RefusedAt batch front f cause := by
  refine ⟨m.register_eq_registerEach batch, ?_⟩
  rw [act_register hm]
  cases hregister : m.register batch with
  | ok after =>
      have heach : m.registerEach batch = .ok after := by
        rw [← m.register_eq_registerEach, hregister]
      obtain ⟨-, hafter⟩ := Manager.register_eq_ok_iff.mp hregister
      exact ⟨hafter, rfl, run_register_each hm heach⟩
  | error cause =>
      exact ⟨withManager_self hm, Manager.exists_refusedAt_of_register hregister⟩

/-- Two new filters, and the same two with one of them repeated. -/
theorem act_register_agrees_with_each_repeated :
    let format : SavedFilters.Format SavedFilters := ⟨id, some⟩
    let objects : RegisteredFilter := .ordinary ⟨"objects", [.relation ["dobj"]]⟩
    let verbs : RegisteredFilter := .ordinary ⟨"verbs", [.tagged [⟨"VB", "eat"⟩]]⟩
    let m : Manager := ⟨defaultModifierRelations, 1, by decide, false, [objects]⟩
    let office : Office SavedFilters := ⟨[m], [], []⟩
    office.managers[0]? = some m ∧
      office.act format 0 (.register [verbs, .clearing "sweep"]) =
        office.run format [(0, .register [verbs]), (0, .register [.clearing "sweep"])] ∧
      m.registerEach [verbs, .clearing "sweep", verbs] = .error (.duplicateFilter "verbs") ∧
      office.act format 0 (.register [verbs, .clearing "sweep", verbs]) = office := by
  intro format objects verbs m office
  have hm : office.managers[0]? = some m := rfl
  obtain ⟨-, -, hact, hrun⟩ :=
    @act_register_agrees_with_each _ format _ _ _ hm [verbs, .clearing "sweep"]
  obtain ⟨heach, hkept, -⟩ :=
    @act_register_agrees_with_each _ format _ _ _ hm [verbs, .clearing "sweep", verbs]
  exact ⟨hm, hact.trans hrun.symm, heach.symm, hkept⟩

end Office

end GrammarSieve
