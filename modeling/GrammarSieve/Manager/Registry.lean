/-
The filters that a manager has registered.  Registering is all or nothing: a batch in which a
name is taken, or occurs twice, leaves the registry as it was.  Besides ordinary filters a
registry can hold filters that every vine passes and that empty the registry when tried.
-/
import GrammarSieve.Filter.Basic

namespace GrammarSieve

inductive RegisteredFilter where
  | ordinary (filter : Filter)
  /-- A filter that every vine passes and that removes all filters whenever it is tried. -/
  | clearing (name : String)
deriving DecidableEq, Repr

def RegisteredFilter.name : RegisteredFilter → String
  | .ordinary filter => filter.name
  | .clearing name => name

abbrev Registry := List RegisteredFilter

namespace Registry

def names (registry : Registry) : List String :=
  registry.map (·.name)

/-- The first name that is taken when it comes up: by the names given, or by an earlier one
of the list. -/
def firstTaken? (taken : List String) : List String → Option String
  | [] => none
  | name :: rest =>
      if name ∈ taken then some name else firstTaken? (name :: taken) rest

/-- Registers a batch of filters at the end, or reports the first name that is taken. -/
def register (registry batch : Registry) : Except String Registry :=
  match firstTaken? registry.names batch.names with
  | some name => .error name
  | none => .ok (registry ++ batch)

/-- No name is taken if the names are different from each other and from the ones given. -/
theorem firstTaken?_eq_none_iff (taken names : List String) :
    firstTaken? taken names = none ↔ names.Nodup ∧ ∀ name ∈ names, name ∉ taken := by
  induction names generalizing taken with
  | nil => simp [firstTaken?]
  | cons first rest ih =>
      by_cases h : first ∈ taken
      · simp [firstTaken?, h]
      · simp only [firstTaken?, h, ↓reduceIte, ih, List.nodup_cons, List.mem_cons, not_or,
          forall_eq_or_imp, not_false_eq_true, true_and]
        constructor
        · rintro ⟨hnodup, hfresh⟩
          exact ⟨⟨fun hmem => (hfresh first hmem).1 rfl, hnodup⟩,
            fun name hname => (hfresh name hname).2⟩
        · rintro ⟨⟨hfirst, hnodup⟩, hfresh⟩
          exact ⟨hnodup, fun name hname =>
            ⟨fun heq => hfirst (heq ▸ hname), hfresh name hname⟩⟩

/-- A batch is registered exactly if its names are new and occur once. -/
theorem register_eq_ok_iff (registry batch after : Registry) :
    registry.register batch = .ok after ↔
      (batch.names.Nodup ∧ ∀ name ∈ batch.names, name ∉ registry.names) ∧
        after = registry ++ batch := by
  rw [← firstTaken?_eq_none_iff]
  unfold register
  split <;> rename_i h <;> simp [h, eq_comm]

def remove (name : String) (registry : Registry) : Registry :=
  registry.filter (·.name ≠ name)

/-- The names in the order of their code points. -/
def sortedNames (registry : Registry) : List String :=
  registry.names.mergeSort fun left right => !decide (right < left)

end Registry

end GrammarSieve
