/-
The log of a vine, and what does not depend on it.  A log grows at its end, and no condition or
filter looks at it or at the document: what a vine fulfils and passes stays the same whatever is
recorded, and whatever else the document holds.
-/
import GrammarSieve.Filter.Basic

namespace GrammarSieve

/-- The vine with names added at the end of its log. -/
def Vine.logged (v : Vine) (names : List String) : Vine :=
  { v with goodFilters := v.goodFilters ++ names }

/-- The vine with another document to its name, and another log. -/
def Vine.filed (v : Vine) (document : Members) (log : List String) : Vine :=
  { v with document, goodFilters := log }

@[simp]
theorem Vine.logged_nil (v : Vine) : v.logged [] = v := by
  simp [logged]

@[simp]
theorem Vine.logged_logged (v : Vine) (first second : List String) :
    (v.logged first).logged second = v.logged (first ++ second) := by
  simp [logged]

theorem Vine.recordMatch_eq_logged (v : Vine) (name : String) :
    v.recordMatch name = v.logged [name] :=
  rfl

theorem Vine.foldl_recordMatch (v : Vine) (names : List String) :
    names.foldl recordMatch v = v.logged names := by
  induction names generalizing v with
  | nil => rw [List.foldl_nil, logged_nil]
  | cons name rest ih =>
      rw [List.foldl_cons, ih, recordMatch_eq_logged, logged_logged, List.singleton_append]

namespace Condition

variable (v : Vine) (document : Members) (log : List String)

theorem findsPhrase_filed (relations : Option (List String)) (field : Field)
    (modifierRelations phrases : List String) :
    findsPhrase (v.filed document log) relations field modifierRelations phrases =
      findsPhrase v relations field modifierRelations phrases := by
  induction phrases with
  | nil => rfl
  | cons wanted rest ih =>
      have hwanted : (v.filed document log).containsPhrase wanted (.ofList? relations) field
          modifierRelations = v.containsPhrase wanted (.ofList? relations) field
            modifierRelations := rfl
      rw [findsPhrase, findsPhrase, hwanted, ih]

theorem findsTag_filed (tags : List String) (field : Field) (relations : List String) :
    findsTag (v.filed document log) tags field relations = findsTag v tags field relations := by
  induction relations with
  | nil => rfl
  | cons name rest ih =>
      have hedges : (v.filed document log).ownedEdgesNamed name = v.ownedEdgesNamed name := rfl
      rw [findsTag, findsTag, hedges, ih]

theorem holds_filed (c : Condition) : c.holds (v.filed document log) = c.holds v := by
  cases c with
  | word => rfl
  | tagged => rfl
  | relation => rfl
  | phrase phrases relations field modifierRelations =>
      exact findsPhrase_filed v document log relations field modifierRelations phrases
  | endpointTag tags relations field => exact findsTag_filed v document log tags field relations

end Condition

namespace Filter

theorem allHold_filed (v : Vine) (document : Members) (log : List String)
    (conditions : List Condition) : allHold (v.filed document log) conditions =
      allHold v conditions := by
  induction conditions with
  | nil => rfl
  | cons c rest ih => rw [allHold, allHold, Condition.holds_filed, ih]

theorem passes_filed (f : Filter) (v : Vine) (document : Members) (log : List String) :
    f.passes (v.filed document log) = f.passes v := by
  rw [passes, passes, allHold_filed]

@[simp]
theorem passes_logged (f : Filter) (v : Vine) (names : List String) :
    f.passes (v.logged names) = f.passes v :=
  f.passes_filed v v.document (v.goodFilters ++ names)

end Filter

end GrammarSieve
