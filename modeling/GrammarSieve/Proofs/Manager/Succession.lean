/-
Evaluating vines call by call.  A call leaves the manager as it is and lengthens one log, so the
next call meets the same filters and the same vines but for their logs, at which no filter looks.
A vine that comes up again therefore passes what it has passed before, and filtering a list of
vines is evaluating them in order and keeping those that have passed something.
-/
import GrammarSieve.Proofs.Manager.Office
import GrammarSieve.Proofs.Manager.Sieve

namespace GrammarSieve

/-- Putting back the vine that is there changes nothing. -/
theorem Shelf.put_of_get? {shelf : Shelf} {name : String} {v : Vine}
    (h : shelf.get? name = some v) : shelf.put name v = shelf := by
  induction shelf with
  | nil => simp [get?] at h
  | cons entry rest ih =>
      rcases entry with ⟨other, old⟩
      by_cases hname : other = name
      · simp only [get?, hname, ↓reduceIte, Option.some.injEq] at h
        simp [put, hname, h]
      · simp only [get?, hname, ↓reduceIte] at h
        simp [put, hname, ih h]

namespace Registry

variable {filters : Registry}

theorem admitted_sublist (filters : Registry) (v : Vine) :
    (filters.admitted v).Sublist filters.names :=
  List.filter_sublist.map _

theorem admits_ordinary_iff {f : Filter} {v : Vine} :
    (RegisteredFilter.ordinary f).admits v = true ↔ f.passes v = .ok true := by
  rw [RegisteredFilter.admits]
  cases f.passes v with
  | error cause => simp
  | ok passed => simp

/-- Where names are different from each other, a name that is returned stands for its filter. -/
theorem name_mem_admitted_iff (hnames : filters.names.Nodup) {f : Filter}
    (hf : .ordinary f ∈ filters) {v : Vine} :
    f.name ∈ filters.admitted v ↔ f.passes v = .ok true := by
  rw [← admits_ordinary_iff, admitted, List.mem_map]
  constructor
  · rintro ⟨other, hother, hname⟩
    rw [List.mem_filter] at hother
    have hsame : other = .ordinary f := List.inj_on_of_nodup_map hnames hother.1 hf hname
    exact hsame ▸ hother.2
  · intro hadmits
    exact ⟨.ordinary f, List.mem_filter.mpr ⟨hf, hadmits⟩, rfl⟩

end Registry

namespace Office

variable {α : Type}

/-- The office has come about from new managers that were asked to do one thing after the
other. -/
def Reachable (format : SavedFilters.Format α) (office : Office α) : Prop :=
  ∃ managers shelf operations,
    (∀ m ∈ managers, ∃ modifierRelations workers verbose,
      Manager.create modifierRelations workers verbose = .ok m) ∧
    office = run format ⟨managers, shelf, []⟩ operations

theorem Reachable.namesDistinct {format : SavedFilters.Format α} (hlawful : format.Lawful)
    {office : Office α} (h : office.Reachable format) {m : Manager} (hm : m ∈ office.managers) :
    m.NamesDistinct := by
  rcases h with ⟨managers, shelf, operations, hnew, rfl⟩
  have hempty : ∀ m ∈ managers, m.registry = [] := by
    intro m hm
    rcases hnew m hm with ⟨modifierRelations, workers, verbose, hcreate⟩
    exact Manager.registry_eq_nil_of_create hcreate
  exact ((sound_opening hempty shelf).run hlawful operations).managers m hm

end Office

namespace Desk

variable {desk : Desk} {name : String} {v : Vine}

theorem evaluate_eq_error (hempty : desk.manager.registry = [])
    (hv : desk.shelf.get? name = some v) : evaluate name desk = .error .noFilters desk := by
  have htrial : Trial.evaluate ⟨desk.manager, v⟩ = .error .noFilters ⟨desk.manager, v⟩ := by
    simp [Trial.evaluate_eq, hempty]
  simp only [evaluate, onVine, hv, htrial, Shelf.put_of_get? hv]

/-- The desk after the vine of this name has passed the filters of these names. -/
def recorded (desk : Desk) (name : String) (v : Vine) (passed : List String) : Desk :=
  ⟨desk.manager, desk.shelf.put name (v.logged passed)⟩

/-- One call, with the filters that are registered or with the same filters from a list. -/
theorem evaluate_eq_recorded (h : desk.manager.registry.Configured)
    (hne : desk.manager.registry ≠ []) (hv : desk.shelf.get? name = some v) :
    let passed := desk.manager.registry.admitted v
    evaluate name desk = .ok passed (desk.recorded name v passed) ∧
      onVine name desk.manager.registry.evaluate desk =
        .ok passed (desk.recorded name v passed) := by
  constructor
  · rw [evaluate_eq_ok h.answers hne hv, h.clears_eq_false, Manager.clearedIf_false]
    rfl
  · rw [onVine_registry_eq_ok h.answers hv, h.clears_eq_false, Manager.clearedIf_false]
    rfl

theorem isSome_get?_recorded (hv : desk.shelf.get? name = some v) (passed : List String)
    (other : String) :
    ((desk.recorded name v passed).shelf.get? other).isSome = (desk.shelf.get? other).isSome :=
  (Shelf.growsTo_put hv passed).isSome_get? other

/-- The names of the vines that have passed something. -/
def keeping (names : List String) (results : List (List String)) : List String :=
  ((names.zip results).filter fun result => result.2 ≠ []).map (·.1)

/-- Sieving vines is evaluating them in order: after each vine both are at the same desk, where
the same filters are registered. -/
theorem sieve_eq_keeping {names : List String} (h : desk.manager.registry.Configured)
    (hne : desk.manager.registry ≠ [])
    (hvines : ∀ name ∈ names, (desk.shelf.get? name).isSome) :
    sieve desk.manager.registry names desk = (keeping names <$> names.mapM evaluate) desk := by
  induction names generalizing desk with
  | nil => rfl
  | cons name rest ih =>
      rw [List.forall_mem_cons] at hvines
      rcases Option.isSome_iff_exists.mp hvines.1 with ⟨v, hv⟩
      let passed := desk.manager.registry.admitted v
      let next := desk.recorded name v passed
      have hfirst : evaluate name desk = .ok passed next ∧
          onVine name desk.manager.registry.evaluate desk = .ok passed next :=
        evaluate_eq_recorded h hne hv
      have hnext : ∀ other ∈ rest, (next.shelf.get? other).isSome := by
        intro other hother
        rw [isSome_get?_recorded hv]
        exact hvines.2 other hother
      have hrest : sieve desk.manager.registry rest next =
          (keeping rest <$> rest.mapM evaluate) next := @ih next h hne hnext
      simp only [sieve, List.mapM_cons, bind, EStateM.bind, Functor.map, EStateM.map, hfirst,
        hrest, pure, EStateM.pure]
      cases rest.mapM evaluate next with
      | error cause after => rfl
      | ok results after => by_cases hpassed : passed = [] <;> simp [keeping, hpassed]

/-- All that has changed is that these names were added to the log of one vine. -/
structure LogsOnly (desk : Desk) (name : String) (v : Vine) (added : List String)
    (after : Desk) : Prop where
  manager_eq : after.manager = desk.manager
  get?_self : after.shelf.get? name = some (v.logged added)
  get?_other : ∀ other, other ≠ name → after.shelf.get? other = desk.shelf.get? other

theorem logsOnly_recorded (desk : Desk) (name : String) (v : Vine) (passed : List String) :
    desk.LogsOnly name v passed (desk.recorded name v passed) where
  manager_eq := rfl
  get?_self := Shelf.get?_put_self _ _ _
  get?_other _ hother := Shelf.get?_put_of_ne hother _ _

theorem LogsOnly.trans {next after : Desk} {first second : List String}
    (h : desk.LogsOnly name v first next) (h' : next.LogsOnly name (v.logged first) second after) :
    desk.LogsOnly name v (first ++ second) after where
  manager_eq := h'.manager_eq.trans h.manager_eq
  get?_self := by rw [h'.get?_self, Vine.logged_logged]
  get?_other other hother := (h'.get?_other other hother).trans (h.get?_other other hother)

/-- Calling again returns the same names and logs them once more. -/
theorem exists_mapM_replicate (h : desk.manager.registry.Configured)
    (hne : desk.manager.registry ≠ []) (hv : desk.shelf.get? name = some v) (times : Nat) :
    let passed := desk.manager.registry.admitted v
    ∃ after,
      (List.replicate times name).mapM evaluate desk = .ok (List.replicate times passed) after ∧
        desk.LogsOnly name v (List.replicate times passed).flatten after := by
  intro passed
  induction times generalizing desk v with
  | zero => exact ⟨desk, rfl, rfl, by simpa using hv, fun _ _ => rfl⟩
  | succ times ih =>
      let next := desk.recorded name v passed
      have hfirst : evaluate name desk = .ok passed next := (evaluate_eq_recorded h hne hv).1
      have hlogs : desk.LogsOnly name v passed next := desk.logsOnly_recorded name v passed
      have hsame : next.manager.registry.admitted (v.logged passed) = passed :=
        Registry.admitted_logged _ _ _
      rcases @ih next _ h hne hlogs.get?_self with ⟨after, hafter, hrest⟩
      rw [hsame] at hafter hrest
      refine ⟨after, ?_, ?_⟩
      · simp only [List.replicate_succ, List.mapM_cons, bind, EStateM.bind, hfirst, hafter, pure,
          EStateM.pure]
      · rw [List.replicate_succ, List.flatten_cons]
        exact hlogs.trans hrest

/-- What comes of evaluating the vine of a name, once or again and again. -/
structure Evaluated (desk : Desk) (name : String) (v : Vine) (passed : List String) : Prop where
  sublist : passed.Sublist desk.manager.registry.names
  nodup : passed.Nodup
  mem_iff : ∀ f : Filter, .ordinary f ∈ desk.manager.registry →
    (f.name ∈ passed ↔ f.passes v = .ok true)
  once : ∃ after, evaluate name desk = .ok passed after ∧ desk.LogsOnly name v passed after
  repeated : ∀ times, ∃ after,
    (List.replicate times name).mapM evaluate desk = .ok (List.replicate times passed) after ∧
      desk.LogsOnly name v (List.replicate times passed).flatten after

theorem evaluated_admitted (h : desk.manager.registry.Configured)
    (hnames : desk.manager.NamesDistinct) (hne : desk.manager.registry ≠ [])
    (hv : desk.shelf.get? name = some v) :
    desk.Evaluated name v (desk.manager.registry.admitted v) where
  sublist := Registry.admitted_sublist _ v
  nodup := hnames.sublist (Registry.admitted_sublist _ v)
  mem_iff _ hf := Registry.name_mem_admitted_iff hnames hf
  once := ⟨_, (evaluate_eq_recorded h hne hv).1, desk.logsOnly_recorded name v _⟩
  repeated := exists_mapM_replicate h hne hv

theorem filterVinesByWorkers_single (hworkers : desk.manager.workers = 1) (schedule : Schedule)
    (names : List String) :
    filterVinesByWorkers schedule names desk = filterVines names desk := by
  change (if 1 < desk.manager.workers then _ else _ : EStateM _ _ _) desk = _
  rw [hworkers]
  rfl

/-- Filtering vines leaves the desk, and keeps the vines, as evaluating them in order does. -/
theorem exists_filterVines_eq_keeping {names : List String}
    (h : desk.manager.registry.Configured) (hne : desk.manager.registry ≠ [])
    (hvines : ∀ name ∈ names, (desk.shelf.get? name).isSome) :
    ∃ results after, names.mapM evaluate desk = .ok results after ∧
      filterVines names desk = .ok (keeping names results) after := by
  rcases exists_filterVines_eq_ok h.answers hne hvines with ⟨after, hfilter, -⟩
  have hsieve : filterVines names desk = (keeping names <$> names.mapM evaluate) desk := by
    rw [filterVines_eq, if_neg (by simpa using hne), sieve_eq_keeping h hne hvines]
  rw [hsieve] at hfilter ⊢
  simp only [Functor.map, EStateM.map] at hfilter ⊢
  cases hresults : names.mapM evaluate desk with
  | error cause other =>
      rw [hresults] at hfilter
      cases hfilter
  | ok results other => exact ⟨results, other, rfl, rfl⟩

/-- At the desk of a manager that was reached with filters from sections, evaluating a vine
returns and logs the names of exactly those filters that the vine passes, in their order and
however often it is done.  With a single worker, filtering vines is evaluating them in order and
keeping those that have passed something.  Where no filters are registered, both fail and change
nothing, even if there are no vines to filter. -/
theorem evaluate_exact_and_filterVines_in_order {α : Type} {format : SavedFilters.Format α}
    (hlawful : format.Lawful) {office : Office α} (hoffice : office.Reachable format)
    {m : Manager} (hm : m ∈ office.managers) (hconfigured : m.registry.Configured)
    (shelf : Shelf) :
    let desk : Desk := ⟨m, shelf⟩
    (∀ name v, shelf.get? name = some v →
      (m.registry = [] → evaluate name desk = .error .noFilters desk) ∧
      (m.registry ≠ [] → ∃ passed, desk.Evaluated name v passed)) ∧
    ∀ schedule names, m.workers = 1 → (∀ name ∈ names, (shelf.get? name).isSome) →
      (filterVinesByWorkers schedule names desk = .error .noFilters desk ↔ m.registry = []) ∧
      (m.registry ≠ [] → ∃ results after, names.mapM evaluate desk = .ok results after ∧
        filterVinesByWorkers schedule names desk = .ok (keeping names results) after) := by
  intro desk
  constructor
  · intro name v hv
    refine ⟨fun hempty => evaluate_eq_error hempty hv, ?_⟩
    intro hne
    exact ⟨_, evaluated_admitted hconfigured (hoffice.namesDistinct hlawful hm) hne hv⟩
  · intro schedule names hworkers hvines
    rw [filterVinesByWorkers_single hworkers]
    have hfilled (hne : m.registry ≠ []) : ∃ results after,
        names.mapM evaluate desk = .ok results after ∧
          filterVines names desk = .ok (keeping names results) after :=
      exists_filterVines_eq_keeping hconfigured hne hvines
    refine ⟨⟨?_, fun hempty => filterVines_eq_error hempty names⟩, hfilled⟩
    intro herror
    by_contra hne
    rcases hfilled hne with ⟨results, after, -, hfilter⟩
    rw [herror] at hfilter
    cases hfilter

/-- A manager that has got its filters back after it had lost them.  One of the vines has something
in its log, and it comes up twice. -/
theorem evaluate_exact_and_filterVines_in_order_dinner :
    let format : SavedFilters.Format SavedFilters := ⟨id, some⟩
    let objects : Filter := ⟨"objects", [.relation ["dobj"]]⟩
    let subjects : Filter := ⟨"subjects", [.relation ["nsubj"]]⟩
    let m (filters : Registry) : Manager := ⟨defaultModifierRelations, 1, by decide, false, filters⟩
    let full : Manager := m [.ordinary subjects, .ordinary objects]
    let dinner : Vine :=
      ⟨[], "1", "", "", "", [], [⟨"dobj", ⟨"eat", 0⟩, ⟨"pepper", 1⟩⟩], ["sweep"]⟩
    let silence : Vine := ⟨[], "2", "", "", "", [], [], []⟩
    let shelf : Shelf := [("dinner", dinner), ("silence", silence)]
    let names := ["dinner", "silence", "dinner"]
    let office := Office.run format ⟨[m [], m []], [], []⟩
      [(0, .register [.ordinary subjects, .ordinary objects]), (0, .save), (0, .removeAll),
        (0, .restore 0)]
    full ∈ office.managers ∧ full.registry.Configured ∧
      (∃ passed, Evaluated ⟨full, shelf⟩ "dinner" dinner passed) ∧
      (∃ results after, names.mapM evaluate ⟨full, shelf⟩ = .ok results after ∧
        filterVinesByWorkers [] names ⟨full, shelf⟩ = .ok (keeping names results) after) ∧
      filterVinesByWorkers [] [] ⟨m [], shelf⟩ = .error .noFilters ⟨m [], shelf⟩ := by
  intro format objects subjects m full dinner silence shelf names office
  have hlawful : format.Lawful := fun _ => rfl
  have hnew : ∀ manager ∈ [m [], m []], ∃ modifierRelations workers verbose,
      Manager.create modifierRelations workers verbose = .ok manager := by
    intro manager hmanager
    obtain rfl : manager = m [] := by simpa using hmanager
    exact ⟨none, none, none, rfl⟩
  have hoffice : office.Reachable format := ⟨_, _, _, hnew, rfl⟩
  have hmem : full ∈ office.managers := List.mem_cons_self
  let value (relation : String) := Json.object [("edge", .object [
    ("type", .string "grammar_dependency"), ("relations", .array [.string relation])])]
  have hsubjects : subjects.Configured := ⟨[], "subjects", value "nsubj", by rfl⟩
  have hobjects : objects.Configured := ⟨[], "objects", value "dobj", by rfl⟩
  have hfull : full.registry.Configured := .cons hsubjects (.cons hobjects .nil)
  have hne : full.registry ≠ [] := List.cons_ne_nil _ _
  have hboth := evaluate_exact_and_filterVines_in_order hlawful hoffice hmem hfull shelf
  have hnone := evaluate_exact_and_filterVines_in_order hlawful hoffice
    (List.mem_cons_of_mem _ List.mem_cons_self) .nil shelf
  refine ⟨hmem, hfull, (hboth.1 "dinner" dinner rfl).2 hne,
    (hboth.2 [] names rfl (by decide)).2 hne, ?_⟩
  exact (hnone.2 [] [] rfl (by simp)).1.mpr rfl

end Desk

end GrammarSieve
