/-
Filters that are handed over in writing.  Whatever managers are asked to do, they keep their
settings, so a manager that restores a text comes to hold the filters that were saved in it and to
evaluate vines as the manager did that saved them.  The filters bring along the modifier relations
that they were built with, and what the manager builds afterwards gets its own.
-/
import GrammarSieve.Manager.Saved
import GrammarSieve.Proofs.Manager.Configuration
import GrammarSieve.Proofs.Manager.Registration
import GrammarSieve.Proofs.Manager.Substitute
import GrammarSieve.Proofs.Manager.Succession
import GrammarSieve.Proofs.Manager.WrittenForm

namespace GrammarSieve

namespace Definition

theorem sections_eq_ok_iff {configuration value : Json} :
    sections configuration = .ok value ↔
      ∃ members : Members, configuration = .object members ∧
        members.get? "filters" = some value := by
  cases configuration with
  | object members => cases hget : Members.get? "filters" members <;> simp [sections, hget]
  | array items => cases hlisted : Json.hasString "filters" items <;> simp [sections, hlisted]
  | _ => simp [sections]

theorem filters_eq_ok_iff {modifierRelations : List String} {value : Json} {fs : List Filter} :
    filters modifierRelations value = .ok fs ↔
      ∃ sections, value = .object sections ∧
        List.Forall₂ (fun entry f => filter modifierRelations entry.1 entry.2 = .ok f) sections
          fs := by
  cases value <;> simp [filters, filterList_eq_ok_iff]

end Definition

theorem mapM_id_eq_some_iff {α : Type} {items : List (Option α)} {values : List α} :
    items.mapM id = some values ↔ items = values.map some := by
  induction items generalizing values with
  | nil => cases values <;> simp
  | cons item rest ih =>
      rw [List.mapM_cons]
      cases item with
      | none => cases values <;> simp
      | some value =>
          cases values with
          | nil => cases rest.mapM id <;> simp
          | cons first values =>
              have hrest := @ih values
              cases hvalues : rest.mapM id <;> simp_all

/-- A list holds filters exactly if it holds nothing else. -/
theorem Decoded.filters?_eq_some_iff {decoded : Decoded} {saved : SavedFilters} :
    decoded.filters? = some saved ↔ decoded = .list (saved.registry.map some) := by
  cases decoded with
  | list items =>
      rw [filters?, Option.map_eq_some_iff, Decoded.list.injEq, ← mapM_id_eq_some_iff]
      exact ⟨fun ⟨_, hfound, hsaved⟩ => hsaved ▸ hfound, fun h => ⟨saved.registry, h, rfl⟩⟩
  | other => simp [filters?]

/-- A lawful coding is a lawful format. -/
theorem SavedFilters.Coding.Lawful.format {ε : Type} {coding : Coding ε} (h : coding.Lawful) :
    coding.format.Lawful := by
  intro saved
  simp only [Coding.format, h saved]
  exact Decoded.filters?_eq_some_iff.mpr rfl

namespace Manager

/-- Nothing about the manager has changed but its filters. -/
def KeepsSettings (m after : Manager) : Prop :=
  after = m.inPlaceOf after

namespace KeepsSettings

variable {m next after : Manager}

theorem restore (m : Manager) (saved : SavedFilters) : m.KeepsSettings (m.restore saved) :=
  rfl

theorem refl (m : Manager) : m.KeepsSettings m :=
  rfl

theorem trans (h : m.KeepsSettings next) (h' : next.KeepsSettings after) :
    m.KeepsSettings after := by
  rw [KeepsSettings, h', h]
  rfl

theorem modifierRelations_eq (h : m.KeepsSettings after) :
    after.modifierRelations = m.modifierRelations := by
  rw [h]
  rfl

/-- The settings that have been kept are those of the manager, whichever filters are restored. -/
theorem restore_eq (h : m.KeepsSettings after) (saved : SavedFilters) :
    after.restore saved = m.restore saved := by
  rw [h]
  rfl

theorem clearedIf (m : Manager) (cleared : Bool) : m.KeepsSettings (m.clearedIf cleared) := by
  cases cleared <;> rfl

theorem of_register {batch : Registry} (h : m.register batch = .ok after) :
    m.KeepsSettings after := by
  obtain ⟨-, rfl⟩ := register_eq_ok_iff.mp h
  rfl

theorem afterwards {result : Except ManagerError Manager}
    (h : ∀ after, result = .ok after → m.KeepsSettings after) :
    m.KeepsSettings (m.afterwards result) := by
  cases result with
  | error cause => exact refl m
  | ok after => exact h after rfl

theorem afterwards_map {result : Except ManagerError (List String × Manager)}
    (h : ∀ names after, result = .ok (names, after) → ∃ batch, m.register batch = .ok after) :
    m.KeepsSettings (m.afterwards (result.map (·.2))) := by
  cases result with
  | error cause => exact refl m
  | ok returned =>
      obtain ⟨batch, hbatch⟩ := h returned.1 returned.2 rfl
      exact of_register hbatch

theorem of_restoreFrom {α : Type} {format : SavedFilters.Format α} {text : α}
    (h : m.restoreFrom format text = .ok after) : m.KeepsSettings after := by
  unfold restoreFrom at h
  split at h
  · obtain rfl := Except.ok.inj h
    exact restore m _
  · cases h

theorem of_restoreDecoded {ε : Type} {decoded : Except ε Decoded}
    (h : m.restoreDecoded decoded = .ok after) : m.KeepsSettings after := by
  unfold restoreDecoded at h
  split at h
  · cases h
  · split at h
    · obtain rfl := Except.ok.inj h
      exact restore m _
    · cases h

end KeepsSettings

variable {m after : Manager} {names : List String}

/-- A configuration that has been registered has sections, and the filters are what they define with
the modifier relations of the manager. -/
theorem registers_of_registerConfiguration {configuration : Json}
    (h : m.registerConfiguration configuration = .ok (names, after)) :
    m.Registers configuration names after := by
  unfold registerConfiguration at h
  split at h
  · cases h
  next value hsections =>
  split at h
  · cases h
  next filters hfilters =>
  split at h
  · cases h
  next hregister =>
  obtain ⟨members, rfl, hget⟩ := Definition.sections_eq_ok_iff.mp hsections
  obtain ⟨sections, rfl, hdefined⟩ := Definition.filters_eq_ok_iff.mp hfilters
  obtain ⟨-, rfl⟩ := register_eq_ok_iff.mp hregister
  obtain ⟨rfl, rfl⟩ := Prod.mk.inj (Except.ok.inj h)
  exact ⟨members, sections, filters, rfl, hget, hdefined, Definition.names_eq_keys hdefined, rfl⟩

/-- What the manager builds, from a configuration or from a settings text, it builds with these
modifier relations. -/
structure BuildsWith (m : Manager) (modifierRelations : List String) : Prop where
  modifierRelations_eq : m.modifierRelations = modifierRelations
  configuration : ∀ configuration names after,
    m.registerConfiguration configuration = .ok (names, after) →
      m.Registers configuration names after
  settings : ∀ text names after, m.registerSettings text = .ok (names, after) →
    ∃ configuration, Settings.read text = .ok configuration ∧ m.Registers configuration names after

theorem buildsWith_self (m : Manager) : m.BuildsWith m.modifierRelations where
  modifierRelations_eq := rfl
  configuration _ _ _ := registers_of_registerConfiguration
  settings := by
    intro text names after h
    rw [registerSettings] at h
    cases hread : Settings.read text with
    | error cause =>
        rw [hread] at h
        cases h
    | ok configuration =>
        rw [hread] at h
        exact ⟨configuration, rfl, registers_of_registerConfiguration h⟩

section

variable {ε : Type} {decoded : Except ε Decoded}

theorem restoreDecoded_eq_undecoded_iff {cause : ε} :
    m.restoreDecoded decoded = .error (.undecoded cause) ↔ decoded = .error cause := by
  cases decoded with
  | error found => simp [restoreDecoded]
  | ok value => cases hfilters : value.filters? <;> simp [restoreDecoded, hfilters]

/-- What was decoded is refused exactly if it is not a list of filters. -/
theorem restoreDecoded_eq_notFilters_iff :
    m.restoreDecoded decoded = .error .notFilters ↔
      ∃ value, decoded = .ok value ∧ ∀ filters : Registry, value ≠ .list (filters.map some) := by
  cases decoded with
  | error found => simp [restoreDecoded]
  | ok value =>
      have hnone : value.filters? = none ↔
          ∀ filters : Registry, value ≠ .list (filters.map some) := by
        rw [Option.eq_none_iff_forall_ne_some]
        simp only [ne_eq, Decoded.filters?_eq_some_iff]
        exact ⟨fun h filters => h ⟨filters⟩, fun h saved => h saved.registry⟩
      simp only [Except.ok.injEq, exists_eq_left', ← hnone]
      cases hfilters : value.filters? <;> simp [restoreDecoded, hfilters]

end

theorem restoreDecoded_encode {ε : Type} {coding : SavedFilters.Coding ε}
    (hlawful : coding.Lawful) (m : Manager) (saved : SavedFilters) :
    m.restoreDecoded (coding.decode (coding.encode saved)) = .ok (m.restore saved) := by
  have hfilters : (Decoded.list (saved.registry.map some)).filters? = some saved :=
    Decoded.filters?_eq_some_iff.mpr rfl
  rw [hlawful saved, restoreDecoded]
  simp only [hfilters]

end Manager

/-- Every phrase that the filter looks for is looked for with these modifier relations. -/
def Filter.WorksWith (f : Filter) (modifierRelations : List String) : Prop :=
  ∀ phrases relations field used,
    Condition.phrase phrases relations field used ∈ f.conditions → used = modifierRelations

theorem Definition.worksWith_of_filter {modifierRelations : List String} {name : String}
    {value : Json} {f : Filter} (h : filter modifierRelations name value = .ok f) :
    f.WorksWith modifierRelations := by
  obtain ⟨subsections, -, hdefined⟩ := forall₂_defines_of_filter h
  intro phrases relations field used hmem
  obtain ⟨entry, -, settings, -, hdefines⟩ := exists_mem_of_forall₂ hdefined.flip hmem
  cases hdefines with
  | phrase => rfl

namespace Office

/-- Every manager is still at its place, with its settings. -/
def Continues {α : Type} (office later : Office α) : Prop :=
  ∀ (place : Nat) (m : Manager), office.managers[place]? = some m →
    ∃ after, later.managers[place]? = some after ∧ m.KeepsSettings after

section Continues

variable {α : Type} {format : SavedFilters.Format α} {office next later : Office α}

theorem Continues.refl (office : Office α) : office.Continues office :=
  fun _ m hm => ⟨m, hm, .refl m⟩

theorem Continues.trans (h : office.Continues next) (h' : next.Continues later) :
    office.Continues later := by
  intro place m hm
  obtain ⟨middle, hmiddle, hkeeps⟩ := h place m hm
  obtain ⟨after, hafter, hkeeps'⟩ := h' place middle hmiddle
  exact ⟨after, hafter, hkeeps.trans hkeeps'⟩

theorem continues_withManager {place : Nat} {m after : Manager}
    (hm : office.managers[place]? = some m) (h : m.KeepsSettings after) :
    office.Continues (office.withManager place after) := by
  intro other found hfound
  by_cases hplace : place = other
  · subst hplace
    obtain rfl := Option.some.inj (hm.symm.trans hfound)
    exact ⟨after, getElem?_withManager hm after, h⟩
  · exact ⟨found, by simp [withManager, hplace, hfound], .refl found⟩

theorem continues_actAtDesk {β : Type} {place : Nat} {m : Manager}
    (hm : office.managers[place]? = some m) {action : EStateM ManagerError Desk β}
    (haction : OnlyClears Desk.manager action) :
    office.Continues (office.actAtDesk place m action) := by
  obtain ⟨cleared, hcleared⟩ := haction ⟨m, office.shelf⟩
  have hkeeps : m.KeepsSettings (stateAfter action ⟨m, office.shelf⟩).manager := by
    rw [hcleared]
    exact .clearedIf m cleared
  exact continues_withManager hm hkeeps

theorem continues_carryOut {place : Nat} {m : Manager} (hm : office.managers[place]? = some m)
    (operation : Operation) : office.Continues (office.carryOut format place m operation) := by
  cases operation with
  | register batch =>
      exact continues_withManager hm (.afterwards fun _ => .of_register)
  | registerConfiguration configuration =>
      exact continues_withManager hm
        (.afterwards_map fun _ _ => Manager.exists_register_of_registerConfiguration)
  | registerSettings text =>
      exact continues_withManager hm
        (.afterwards_map fun _ _ => Manager.exists_register_of_registerSettings)
  | remove name => exact continues_withManager hm (.restore m ⟨m.registry.remove name⟩)
  | removeAll => exact continues_withManager hm (.restore m ⟨[]⟩)
  | evaluate vine => exact continues_actAtDesk hm (Desk.evaluate_onlyClears vine)
  | filterVines schedule vines =>
      exact continues_actAtDesk hm (Desk.filterVinesByWorkers_onlyClears schedule vines)
  | save => exact .refl office
  | restore number =>
      rw [carryOut]
      split
      · exact continues_withManager hm (.afterwards fun _ => .of_restoreFrom)
      · exact .refl office

theorem continues_act (place : Nat) (operation : Operation) :
    office.Continues (office.act format place operation) := by
  unfold act
  split
  · next m hm => exact continues_carryOut hm operation
  · exact .refl office

theorem act_save {place : Nat} {m : Manager} (hm : office.managers[place]? = some m) :
    office.act format place .save =
      { office with texts := office.texts ++ [format.write m.save] } := by
  simp only [act, hm, carryOut]

end Continues

variable {ε : Type} {coding : SavedFilters.Coding ε} {office : Office String} {place : Nat}
  {m : Manager}

theorem continues_restoreWritten (place : Nat) (text : String) :
    office.Continues (office.restoreWritten coding place text) := by
  unfold restoreWritten
  split
  · next m hm =>
      split
      · next after hafter => exact continues_withManager hm (.of_restoreDecoded hafter)
      · exact .refl office
  · exact .refl office

theorem continues_runErrands (errands : List (Nat × Errand)) :
    office.Continues (office.runErrands coding errands) := by
  induction errands generalizing office with
  | nil => exact .refl office
  | cons first rest ih =>
      obtain ⟨place, errand⟩ := first
      have hfirst : office.Continues (office.runErrand coding place errand) := by
        cases errand with
        | operation operation => exact continues_act place operation
        | restoreWritten text => exact continues_restoreWritten place text
      exact hfirst.trans ih

theorem getElem?_restoreWritten (hm : office.managers[place]? = some m) {text : String}
    {after : Manager} (h : m.restoreDecoded (coding.decode text) = .ok after) :
    (office.restoreWritten coding place text).managers[place]? = some after := by
  simp only [restoreWritten, hm, h, getElem?_withManager hm]

/-- A text that cannot be restored leaves everything in the office as it is. -/
theorem restoreWritten_eq_self (hm : office.managers[place]? = some m) {text : String}
    {cause : RestoreError ε} (h : m.restoreDecoded (coding.decode text) = .error cause) :
    office.restoreWritten coding place text = office := by
  simp only [restoreWritten, hm, h]

end Office

/-- The names that an evaluation returns are those of the filters that the vine passes.  A filter
that was built from a section is passed if the vine fulfils its conditions, with the modifier
relations that the filter was built with. -/
def Desk.EvaluatesBuilt (desk : Desk) (slot : String) (v : Vine) : Prop :=
  (∃ after, evaluate slot desk =
    .ok ((desk.manager.registry.filter (·.admits v)).map (·.name)) after) ∧
  ∀ f modifierRelations name value, .ordinary f ∈ desk.manager.registry →
    Definition.filter modifierRelations name value = .ok f →
    f.WorksWith modifierRelations ∧
      ((RegisteredFilter.ordinary f).admits v = true ↔
        f.conditions ≠ [] ∧ ∀ c ∈ f.conditions, v.Fulfils c)

theorem Desk.evaluatesBuilt {desk : Desk} (h : ∀ f ∈ desk.manager.registry, f.Answers)
    (hne : desk.manager.registry ≠ []) {slot : String} {v : Vine}
    (hv : desk.shelf.get? slot = some v) : desk.EvaluatesBuilt slot v := by
  refine ⟨⟨_, evaluate_eq_ok h hne hv⟩, ?_⟩
  intro f modifierRelations name value hf hbuilt
  refine ⟨Definition.worksWith_of_filter hbuilt, ?_⟩
  rw [Registry.admits_ordinary_iff,
    Filter.passes_eq_true_iff (Definition.suited_of_filter hbuilt)]

/-- Filters that one manager of an office has saved are the same in another one that restores them,
or in itself, whatever has been done in between.  The manager then evaluates and filters vines as
the first one would have done when it saved; the filters work with the modifier relations that they
were built with.  From then on, whatever is done, the manager builds filters with the modifier
relations that it always had.  A text fails with the error of the decoder if it cannot be decoded,
and is refused if it is decoded to anything but a list of filters; neither changes anything. -/
theorem Office.restored_filters_keep_meaning {ε : Type} {coding : SavedFilters.Coding ε}
    (hlawful : coding.Lawful) {office : Office String} {a b : Nat} {first second : Manager}
    (hfirst : office.managers[a]? = some first) (hsecond : office.managers[b]? = some second)
    (errands : List (Nat × Errand)) :
    let text := coding.encode first.save
    let later := (office.act coding.format a .save).runErrands coding errands
    let restored := second.restore first.save
    office.act coding.format a .save = { office with texts := office.texts ++ [text] } ∧
    (∃ now, later.managers[b]? = some now ∧
      now.restoreDecoded (coding.decode text) = .ok restored) ∧
    (later.restoreWritten coding b text).managers[b]? = some restored ∧
    restored.registry = first.registry ∧ restored.EvaluatesAs first ∧
    (first.registry ≠ [] → (∀ f ∈ first.registry, f.Answers) → ∀ shelf slot v,
      Shelf.get? slot shelf = some v → Desk.EvaluatesBuilt ⟨restored, shelf⟩ slot v) ∧
    (∀ more m, ((later.restoreWritten coding b text).runErrands coding more).managers[b]? = some m →
      m.BuildsWith second.modifierRelations) ∧
    ∀ now other, later.managers[b]? = some now →
      (∀ cause, now.restoreDecoded (coding.decode other) = .error (.undecoded cause) ↔
        coding.decode other = .error cause) ∧
      (now.restoreDecoded (coding.decode other) = .error .notFilters ↔
        ∃ decoded, coding.decode other = .ok decoded ∧
          ∀ filters : Registry, decoded ≠ .list (filters.map some)) ∧
      (∀ cause, now.restoreDecoded (coding.decode other) = .error cause →
        later.restoreWritten coding b other = later) := by
  intro text later restored
  have hsaved : office.act coding.format a .save =
      { office with texts := office.texts ++ [text] } := act_save hfirst
  have hlater : office.Continues later :=
    (continues_act a .save).trans (continues_runErrands errands)
  obtain ⟨now, hnow, hkeeps⟩ := hlater b second hsecond
  have hnowRestored : now.restoreDecoded (coding.decode text) = .ok restored := by
    rw [Manager.restoreDecoded_encode hlawful, hkeeps.restore_eq]
  have hrestored := getElem?_restoreWritten hnow hnowRestored
  refine ⟨hsaved, ⟨now, hnow, hnowRestored⟩, hrestored, rfl,
    Manager.inPlaceOf_evaluatesAs second first, ?_, ?_, ?_⟩
  · intro hne hanswers shelf slot v hv
    exact Desk.evaluatesBuilt hanswers hne hv
  · intro more m hm
    obtain ⟨after, hafter, hkept⟩ := continues_runErrands more b restored hrestored
    have hsame : after = m := Option.some.inj (hafter.symm.trans hm)
    have hrelations : m.modifierRelations = second.modifierRelations := by
      rw [← hsame, hkept.modifierRelations_eq]
      rfl
    rw [← hrelations]
    exact m.buildsWith_self
  · intro other text hother
    exact ⟨fun _ => Manager.restoreDecoded_eq_undecoded_iff,
      Manager.restoreDecoded_eq_notFilters_iff, fun _ => restoreWritten_eq_self hother⟩

/-- A filter on phrases is saved by a manager that loses its filters then, and restored by one with
other modifier relations and more workers.  A text that is cut off, and one without filters, leave
things as they are. -/
theorem Office.restored_filters_keep_meaning_peppers :
    let value := Json.object [("produce", .object [
      ("type", .string "target_word_in_grammar_dependency"),
      ("target_words", .string "green pepper")])]
    let peppers : Filter := ⟨"peppers", [.phrase ["green pepper"] none .governor ["amod", "nn"]]⟩
    let supper : Vine := ⟨[], "1", "", "", "", [], [⟨"amod", ⟨"pepper", 1⟩, ⟨"green", 0⟩⟩], []⟩
    let first : Manager := ⟨["amod", "nn"], 1, by decide, false, [.ordinary peppers]⟩
    let second : Manager := ⟨["nn"], 4, by decide, true, [.clearing "sweep"]⟩
    let coding := SavedFilters.Coding.inFull
    let later := (Office.act coding.format ⟨[first, second], [], []⟩ 0 .save).runErrands coding
      [(0, .operation .removeAll), (1, .restoreWritten "null"), (1, .operation (.remove "sweep"))]
    let restored := second.restore first.save
    coding.Lawful ∧ Definition.filter ["amod", "nn"] "peppers" value = .ok peppers ∧
      (later.restoreWritten coding 1 (coding.encode first.save)).managers[1]? = some restored ∧
      (∃ after, Desk.evaluate "supper" ⟨restored, [("supper", supper)]⟩ = .ok ["peppers"] after) ∧
      peppers.WorksWith ["amod", "nn"] ∧ restored.BuildsWith ["nn"] ∧
      (∃ now, later.managers[1]? = some now ∧
        now.restoreDecoded (coding.decode "null") = .error .notFilters ∧
        now.restoreDecoded (coding.decode "[") = .error (.undecoded ())) ∧
      later.restoreWritten coding 1 "[" = later := by
  intro value peppers supper first second coding later restored
  have hbuilt : Definition.filter ["amod", "nn"] "peppers" value = .ok peppers := by rfl
  have hanswers : ∀ f ∈ first.registry, f.Answers :=
    (Registry.Configured.nil.cons ⟨_, _, _, hbuilt⟩).answers
  have hlawful := SavedFilters.Coding.inFull_lawful
  obtain ⟨-, ⟨now, hnow, -⟩, hrestored, -, -, hevaluates, hbuilds, htexts⟩ :=
    restored_filters_keep_meaning hlawful
      (show (Office.mk [first, second] [] []).managers[0]? = some first by rfl)
      (show (Office.mk [first, second] [] []).managers[1]? = some second by rfl)
      [(0, .operation .removeAll), (1, .restoreWritten "null"), (1, .operation (.remove "sweep"))]
  obtain ⟨hnames, hfilters⟩ :=
    hevaluates (by simp [first]) hanswers [("supper", supper)] "supper" supper rfl
  obtain ⟨hworks, -⟩ := hfilters peppers _ _ _ List.mem_cons_self hbuilt
  have hnull : coding.decode "null" = .ok .other := by rfl
  have hcut : coding.decode "[" = .error () := by rfl
  obtain ⟨-, hnotFilters, -⟩ := htexts now "null" hnow
  obtain ⟨hundecoded, -, hkept⟩ := htexts now "[" hnow
  have hrefused := (hundecoded ()).mpr hcut
  exact ⟨hlawful, hbuilt, hrestored, hnames, hworks, hbuilds [] restored hrestored,
    ⟨now, hnow, hnotFilters.mpr ⟨.other, hnull, by simp⟩, hrefused⟩, hkept _ hrefused⟩

end GrammarSieve
