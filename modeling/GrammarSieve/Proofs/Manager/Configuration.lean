/-
Registering a configuration.  Either all of its sections become filters at the end of the
registry, or nothing happens.  The reason for a refusal is that of the first bad section, and of
the first bad subsection in it; only where every section defines a filter does the first name that
is taken count.
-/
import GrammarSieve.Session
import GrammarSieve.Proofs.Checks
import GrammarSieve.Proofs.Filter.Definition
import GrammarSieve.Proofs.Json.Parts

namespace GrammarSieve

/-- Reading the entry fails with this cause. -/
def FailsOn {ε α β : Type} (read : α → Except ε β) (entry : α) (cause : ε) : Prop :=
  read entry = .error cause

section FailsOn

variable {ε α β : Type} {read : α → Except ε β} {cause : ε}

theorem clear_failsOn_iff {entry : α} :
    Clear (FailsOn read) entry ↔ ∃ value, read entry = .ok value := by
  cases hread : read entry <;> simp [Clear, FailsOn, hread]

/-- A pass over a list that takes its first entry and then the rest fails with the cause of the
first entry on which reading fails. -/
theorem eq_error_iff_firstFound {γ : Type} {pass : List α → Except ε γ}
    (hnil : ∃ value, pass [] = .ok value)
    (hcons : ∀ entry rest cause, pass (entry :: rest) = .error cause ↔
      read entry = .error cause ∨ (∃ value, read entry = .ok value) ∧ pass rest = .error cause)
    (entries : List α) :
    pass entries = .error cause ↔ FirstFound (FailsOn read) entries cause := by
  induction entries with
  | nil =>
      obtain ⟨value, hvalue⟩ := hnil
      have hnone : ¬ FirstFound (FailsOn read) [] cause :=
        fun h => h.not_forall_clear (List.forall_mem_nil _)
      simp [hvalue, hnone]
  | cons entry rest ih => rw [hcons, firstFound_cons_iff, clear_failsOn_iff, ih, FailsOn]

end FailsOn

namespace Definition

variable {modifierRelations : List String}

theorem conditions_eq_error_iff {filter : String} (sections : Members) (cause : DefinitionError) :
    conditions modifierRelations filter sections = .error cause ↔
      FirstFound (FailsOn fun entry => condition modifierRelations filter entry.1 entry.2) sections
        cause := by
  apply eq_error_iff_firstFound
  · exact ⟨[], rfl⟩
  · intro entry rest cause
    rw [conditions]
    cases condition modifierRelations filter entry.1 entry.2 with
    | error found => simp
    | ok c => cases conditions modifierRelations filter rest <;> simp

/-- The section of a filter is refused: it is no object, or its first bad subsection is refused. -/
def SectionFault (modifierRelations : List String) (entry : String × Json)
    (cause : DefinitionError) : Prop :=
  entry.2.kind ≠ .object ∧ cause = .filterNotSection entry.1 ∨
    ∃ subsections, entry.2 = .object subsections ∧
      FirstFound (FailsOn fun inner => condition modifierRelations entry.1 inner.1 inner.2)
        subsections cause

theorem filter_eq_error_iff (entry : String × Json) (cause : DefinitionError) :
    filter modifierRelations entry.1 entry.2 = .error cause ↔
      SectionFault modifierRelations entry cause := by
  obtain ⟨name, value⟩ := entry
  cases value with
  | object subsections =>
      simp only [filter, SectionFault, Json.kind, Json.object.injEq, exists_eq_left', ne_eq,
        not_true_eq_false, false_and, false_or, ← conditions_eq_error_iff]
      cases conditions modifierRelations name subsections <;> simp
  | _ => simp [filter, SectionFault, Json.kind, eq_comm]

theorem filterList_eq_ok_iff (sections : Members) (filters : List Filter) :
    filterList modifierRelations sections = .ok filters ↔
      List.Forall₂ (fun entry f => filter modifierRelations entry.1 entry.2 = .ok f) sections
        filters := by
  apply eq_ok_iff_forall₂
  · rfl
  · intro entry rest filters
    rw [filterList]
    cases filter modifierRelations entry.1 entry.2 with
    | error cause => simp
    | ok f =>
        cases filterList modifierRelations rest with
        | error cause => simp
        | ok others => simp [eq_comm]

theorem filterList_eq_error_iff (sections : Members) (cause : DefinitionError) :
    filterList modifierRelations sections = .error cause ↔
      FirstFound (FailsOn fun entry => filter modifierRelations entry.1 entry.2) sections
        cause := by
  apply eq_error_iff_firstFound
  · exact ⟨[], rfl⟩
  · intro entry rest cause
    rw [filterList]
    cases filter modifierRelations entry.1 entry.2 with
    | error found => simp
    | ok f => cases filterList modifierRelations rest <;> simp

/-- Filters have the keys of their sections as names. -/
theorem names_eq_keys {sections : Members} {filters : List Filter}
    (h : List.Forall₂ (fun entry f => filter modifierRelations entry.1 entry.2 = .ok f) sections
      filters) : filters.map (·.name) = Members.keys sections := by
  induction h with
  | nil => rfl
  | cons hfilter _ ih =>
      obtain ⟨-, -, hname, -⟩ := filter_eq_ok_iff.mp hfilter
      rw [List.map_cons, hname, ih]
      rfl

end Definition

theorem Json.hasString_iff (text : String) (items : List Json) :
    Json.hasString text items = true ↔ .string text ∈ items := by
  induction items with
  | nil => simp [hasString]
  | cons item rest ih =>
      cases item with
      | string found => simp [hasString, ih, eq_comm (a := text)]
      | _ => simp [hasString, ih]

namespace Registry

/-- Of different names, none of which has come up, the first that is taken is the first one of
those given. -/
theorem firstTaken?_append_eq_find? {seen names : List String} (hseen : ∀ name ∈ names, name ∉ seen)
    (hnodup : names.Nodup) (taken : List String) :
    firstTaken? (seen ++ taken) names = names.find? (· ∈ taken) := by
  induction names generalizing seen with
  | nil => rfl
  | cons first rest ih =>
      obtain ⟨hfirst, hrest⟩ := List.nodup_cons.mp hnodup
      obtain ⟨hnew, hlater⟩ := List.forall_mem_cons.mp hseen
      by_cases htaken : first ∈ taken
      · simp [firstTaken?, htaken]
      · -- the first name now counts as taken, but it does not come up again
        have hseen' : ∀ name ∈ rest, name ∉ first :: seen := by
          intro name hname
          have hne : name ≠ first := fun heq => hfirst (heq ▸ hname)
          simp [hne, hlater name hname]
        have hrun := ih hseen' hrest
        rw [List.cons_append] at hrun
        simp [firstTaken?, hnew, htaken, hrun]

theorem firstTaken?_eq_find? {names : List String} (h : names.Nodup) (taken : List String) :
    firstTaken? taken names = names.find? (· ∈ taken) :=
  @firstTaken?_append_eq_find? [] names (by simp) h taken

end Registry

namespace Manager

open Definition (SectionFault)

/-- The configuration has a section of filters, all of them are defined, and no name is taken. -/
def Registrable (m : Manager) (configuration : Json) : Prop :=
  ∃ members sections : Members, configuration = .object members ∧
    members.get? "filters" = some (.object sections) ∧
    (∀ entry ∈ sections, ∃ f, Definition.filter m.modifierRelations entry.1 entry.2 = .ok f) ∧
    ∀ key ∈ Members.keys sections, key ∉ m.registry.names

/-- The sections of the configuration have become filters at the end of the registry, in their
order and under their keys, and nothing else about the manager has changed. -/
def Registers (m : Manager) (configuration : Json) (names : List String) (after : Manager) :
    Prop :=
  ∃ (members sections : Members) (filters : List Filter), configuration = .object members ∧
    members.get? "filters" = some (.object sections) ∧
    List.Forall₂ (fun entry f =>
      Definition.filter m.modifierRelations entry.1 entry.2 = .ok f) sections filters ∧
    names = Members.keys sections ∧
    after = { m with registry := m.registry ++ filters.map .ordinary }

/-- Why a configuration is refused. -/
inductive Refuses (m : Manager) : Json → ManagerError → Prop where
  | noSections {members : Members} (hget : members.get? "filters" = none) :
      Refuses m (.object members) (.definition .noSections)
  | notListed {items : List Json} (hlisted : .string "filters" ∉ items) :
      Refuses m (.array items) (.definition .noSections)
  /-- The word is in the array, but nothing can be looked up under it. -/
  | listed {items : List Json} (hlisted : .string "filters" ∈ items) :
      Refuses m (.array items) (.definition .notConfiguration)
  | notConfiguration {value : Json} (hobject : value.kind ≠ .object) (harray : value.kind ≠ .array) :
      Refuses m value (.definition .notConfiguration)
  | sectionsNotObject {members : Members} {value : Json}
      (hget : members.get? "filters" = some value) (hobject : value.kind ≠ .object) :
      Refuses m (.object members) (.definition .sectionsNotObject)
  | badSection {members sections passed rest : Members} {entry : String × Json}
      {cause : DefinitionError} (hget : members.get? "filters" = some (.object sections))
      (hsections : sections = passed ++ entry :: rest)
      (hpassed : ∀ earlier ∈ passed, ∃ f,
        Definition.filter m.modifierRelations earlier.1 earlier.2 = .ok f)
      (hfault : SectionFault m.modifierRelations entry cause) :
      Refuses m (.object members) (.definition cause)
  | taken {members sections : Members} {passed rest : List String} {key : String}
      (hget : members.get? "filters" = some (.object sections))
      (hsections : ∀ entry ∈ sections, ∃ f,
        Definition.filter m.modifierRelations entry.1 entry.2 = .ok f)
      (hkeys : Members.keys sections = passed ++ key :: rest)
      (hpassed : ∀ name ∈ passed, name ∉ m.registry.names) (htaken : key ∈ m.registry.names) :
      Refuses m (.object members) (.duplicateFilter key)

variable {m : Manager} {configuration : Json}

/-- What is refused could not be registered. -/
theorem Refuses.not_registrable {cause : ManagerError} (h : m.Refuses configuration cause) :
    ¬ m.Registrable configuration := by
  intro hregistrable
  obtain ⟨members, sections, rfl, hget, hdefined, hnew⟩ := hregistrable
  cases h with
  | noSections hnone => simp [hget] at hnone
  | notConfiguration hobject => exact hobject rfl
  | sectionsNotObject hother hobject =>
      obtain rfl := Option.some.inj (hother.symm.trans hget)
      exact hobject rfl
  | badSection hother hsections hpassed hfault =>
      obtain rfl := Json.object.inj (Option.some.inj (hother.symm.trans hget))
      obtain ⟨f, hf⟩ := hdefined _ (hsections ▸ List.mem_append_right _ List.mem_cons_self)
      rw [(Definition.filter_eq_error_iff _ _).mpr hfault] at hf
      contradiction
  | taken hother hsections hkeys hpassed htaken =>
      obtain rfl := Json.object.inj (Option.some.inj (hother.symm.trans hget))
      exact hnew _ (hkeys ▸ List.mem_append_right _ List.mem_cons_self) htaken

/-- What registering does where every section defines a filter: the names alone decide. -/
theorem register_defined {sections : Members} {filters : List Filter}
    (hkeys : (Members.keys sections).Nodup)
    (hfilters : List.Forall₂ (fun entry f =>
      Definition.filter m.modifierRelations entry.1 entry.2 = .ok f) sections filters) :
    m.register (filters.map .ordinary) =
      match (Members.keys sections).find? (· ∈ m.registry.names) with
      | some key => .error (.duplicateFilter key)
      | none => .ok { m with registry := m.registry ++ filters.map .ordinary } := by
  have hnames : Registry.names (filters.map .ordinary) = Members.keys sections := by
    rw [← Definition.names_eq_keys hfilters, Registry.names, List.map_map]
    rfl
  rw [register, Registry.register, hnames, Registry.firstTaken?_eq_find? hkeys]
  cases (Members.keys sections).find? (· ∈ m.registry.names) <;> rfl

/-- A configuration with an object of sections is registered as a whole, or refused. -/
theorem registerConfiguration_sections {members sections : Members}
    (hget : members.get? "filters" = some (.object sections))
    (hkeys : (Members.keys sections).Nodup) :
    match m.registerConfiguration (.object members) with
    | .ok (names, after) =>
        m.Registrable (.object members) ∧ m.Registers (.object members) names after
    | .error cause => m.Refuses (.object members) cause := by
  simp only [registerConfiguration, Definition.sections, hget, Definition.filters]
  cases hlist : Definition.filterList m.modifierRelations sections with
  | error cause =>
      obtain ⟨passed, entry, rest, hsections, hpassed, hbad⟩ :=
        (Definition.filterList_eq_error_iff sections cause).mp hlist
      exact .badSection hget hsections
        (fun earlier hearlier => clear_failsOn_iff.mp (hpassed earlier hearlier))
        ((Definition.filter_eq_error_iff _ _).mp hbad)
  | ok filters =>
      have hfilters := (Definition.filterList_eq_ok_iff sections filters).mp hlist
      have hdefined : ∀ entry ∈ sections, ∃ f,
          Definition.filter m.modifierRelations entry.1 entry.2 = .ok f := by
        intro entry hentry
        obtain ⟨f, -, hf⟩ := exists_mem_of_forall₂ hfilters hentry
        exact ⟨f, hf⟩
      simp only [register_defined hkeys hfilters]
      cases hfound : (Members.keys sections).find? (· ∈ m.registry.names) with
      | some key =>
          obtain ⟨htaken, passed, rest, hsplit, hpassed⟩ :=
            List.find?_eq_some_iff_append.mp hfound
          exact .taken hget hdefined hsplit (by simpa using hpassed) (by simpa using htaken)
      | none =>
          have hnew : ∀ key ∈ Members.keys sections, key ∉ m.registry.names := by
            simpa using hfound
          exact ⟨⟨members, sections, rfl, hget, hdefined, hnew⟩, members, sections, filters, rfl,
            hget, hfilters, Definition.names_eq_keys hfilters, rfl⟩

/-- Every configuration that is no text is registered as a whole, or refused. -/
theorem registerConfiguration_cases (hkeys : configuration.DistinctKeys)
    (htext : configuration.kind ≠ .string) :
    match m.registerConfiguration configuration with
    | .ok (names, after) => m.Registrable configuration ∧ m.Registers configuration names after
    | .error cause => m.Refuses configuration cause := by
  cases configuration with
  | object members =>
      cases hget : Members.get? "filters" members with
      | none =>
          simp only [registerConfiguration, Definition.sections, hget]
          exact .noSections hget
      | some value =>
          cases value with
          | object sections =>
              apply registerConfiguration_sections hget
              exact hkeys sections (.member (Members.mem_of_get? hget) .self)
          | _ =>
              simp only [registerConfiguration, Definition.sections, hget, Definition.filters]
              exact .sectionsNotObject hget (by simp [Json.kind])
  | array items =>
      simp only [registerConfiguration, Definition.sections]
      cases hlisted : Json.hasString "filters" items with
      | true => exact .listed ((Json.hasString_iff _ _).mp hlisted)
      | false => exact .notListed fun hmem => by simp [(Json.hasString_iff _ _).mpr hmem] at hlisted
  | string text => exact absurd rfl htext
  | _ => exact .notConfiguration (by simp [Json.kind]) (by simp [Json.kind])

end Manager

open Manager (Registrable Registers Refuses)

/-- Registering a configuration is all or nothing.  It succeeds exactly if there is an object of
sections, each defines a filter and no key is taken; then the filters stand at the end of the
registry in the order of the keys, and the keys are returned.  Otherwise the session stays as it
was, and the failure is that of the first bad section or, if there is none, the first key that is
taken.  (A text in place of a configuration is a path.) -/
theorem Session.registerConfiguration_all_or_nothing (s : Session) {configuration : Json}
    (hkeys : configuration.DistinctKeys) (htext : configuration.kind ≠ .string) :
    ((∃ outcome notices after, s.run (.registerConfiguration configuration) =
        (.ok outcome, notices, after)) ↔ s.desk.manager.Registrable configuration) ∧
      match s.run (.registerConfiguration configuration) with
      | (.ok outcome, notices, after) => notices = [] ∧
          ∃ names m, outcome = .names names ∧ after = s.withManager m ∧
            s.desk.manager.Registers configuration names m
      | (.error failure, notices, after) => notices = [] ∧ after = s ∧
          ∃ cause, failure = .manager cause ∧ s.desk.manager.Refuses configuration cause := by
  have hcases := Manager.registerConfiguration_cases (m := s.desk.manager) hkeys htext
  rw [run]
  cases hresult : s.desk.manager.registerConfiguration configuration with
  | error cause =>
      rw [hresult] at hcases
      refine ⟨⟨?_, fun hregistrable => absurd hregistrable hcases.not_registrable⟩, ?_⟩
      · intro h
        obtain ⟨outcome, notices, after, h⟩ := h
        cases h
      · exact ⟨rfl, rfl, cause, rfl, hcases⟩
  | ok returned =>
      obtain ⟨names, m⟩ := returned
      rw [hresult] at hcases
      obtain ⟨hregistrable, hregisters⟩ := hcases
      exact ⟨⟨fun _ => hregistrable, fun _ => ⟨_, _, _, rfl⟩⟩,
        rfl, names, m, rfl, rfl, hregisters⟩

/-- With a filter on peppers in the registry: two new filters are registered, and a bad section
counts before a taken name. -/
theorem Session.registerConfiguration_all_or_nothing_peppers :
    let words (word : String) := Json.object [("word", .object [
      ("type", .string "strict_string"), ("words", .string word)])]
    let good := Json.object [("filters", .object [("greens", words "kale"),
      ("herbs", words "basil")])]
    let bad := Json.object [("filters", .object [("peppers", words "bell"),
      ("herbs", .string "basil")])]
    let s := Session.start ⟨900, 900⟩ ⟨["amod"], 1, by decide, false, [.ordinary ⟨"peppers", []⟩]⟩
    (∃ after, s.run (.registerConfiguration good) = (.ok (.names ["greens", "herbs"]), [], after) ∧
        s.desk.manager.Registrable good) ∧
      s.run (.registerConfiguration bad) =
          (.error (.manager (.definition (.filterNotSection "herbs"))), [], s) ∧
        s.desk.manager.Refuses bad (.definition (.filterNotSection "herbs")) := by
  intro words good bad s
  have hwords (word : String) : (words word).Exact := by
    refine Json.exact_object (by simp [Members.keys]) ?_
    simp only [List.forall_mem_singleton]
    refine Json.exact_object (by simp [Members.keys]) ?_
    simp [Json.exact_string]
  have hgood : good.Exact := by
    refine Json.exact_object (by simp [Members.keys]) ?_
    simp only [List.forall_mem_singleton]
    refine Json.exact_object (by simp [Members.keys]) ?_
    simp [hwords]
  have hbad : bad.Exact := by
    refine Json.exact_object (by simp [Members.keys]) ?_
    simp only [List.forall_mem_singleton]
    refine Json.exact_object (by simp [Members.keys]) ?_
    simp [hwords, Json.exact_string]
  have hregistered := s.registerConfiguration_all_or_nothing hgood.distinctKeys (by decide)
  have hrefused := s.registerConfiguration_all_or_nothing hbad.distinctKeys (by decide)
  have hrun : s.run (.registerConfiguration bad) =
      (.error (.manager (.definition (.filterNotSection "herbs"))), [], s) := by rfl
  obtain ⟨after, hafter⟩ : ∃ after, s.run (.registerConfiguration good) =
      (.ok (.names ["greens", "herbs"]), [], after) := ⟨_, rfl⟩
  rw [hrun] at hrefused
  obtain ⟨-, -, -, cause, hcause, hrefuses⟩ := hrefused
  obtain rfl := SessionError.manager.inj hcause
  exact ⟨⟨after, hafter, hregistered.1.mp ⟨_, _, _, hafter⟩⟩, hrun, hrefuses⟩

end GrammarSieve
