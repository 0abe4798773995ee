/-
What evaluations come to, by one worker or by several.  An evaluation settles which filters to
try before it tries the first one, so neither another task nor a filter that removes all filters
can take one from it; and since no filter looks at a log, no vine is judged by what others have
recorded.  What several workers do is the same as what one does, up to the order in which a vine
that comes up more than once logs what it passes.
-/
import GrammarSieve.Proofs.Manager.Crew

namespace GrammarSieve

/-- Several workers come to what one comes to.  However vines take turns with filters that were
built from sections, the same vines are kept as when they are evaluated one after the other:
those that pass a filter, in the order in which they were given.  Each log grows by the names of
the filters that its vine passes, as often as the vine comes up, and for a vine that comes up
once by these names in the order of the registry. -/
theorem Desk.filterVinesBy_agrees_with_filterVines {desk : Desk} {names : List String}
    {schedule : Schedule}
    (hbuilt : ∀ f ∈ desk.manager.registry, ∃ filter : Filter,
      f = .ordinary filter ∧ filter.Configured)
    (hne : desk.manager.registry ≠ [])
    (hvines : ∀ name ∈ names, (desk.shelf.get? name).isSome)
    (hfull : schedule.Full names.length desk.manager.registry.length) :
    ∃ good alone together added,
      filterVines names desk = .ok good alone ∧
      filterVinesBy schedule names desk = .ok good together ∧
      good = names.filter (fun name => desk.admitted name ≠ []) ∧
      together.manager = desk.manager ∧
      desk.shelf.GrowsTo together.shelf added ∧
      ∀ name, (added name).Perm
          (List.replicate (names.count name) (desk.admitted name)).flatten ∧
        (names.count name = 1 → added name = desk.admitted name) := by
  have hconfigured : desk.manager.registry.Configured := hbuilt
  obtain ⟨alone, halone, -, -⟩ := exists_filterVines_eq_ok hconfigured.answers hne hvines
  obtain ⟨together, added, htogether, hmanager, hgrows, hadded⟩ :=
    exists_filterVinesBy_eq_ok hconfigured.answers hne hvines hfull
  rw [hconfigured.clears_eq_false, Bool.and_false, Manager.clearedIf_false] at hmanager
  exact ⟨_, alone, together, added, halone, htogether, rfl, hmanager, hgrows, hadded⟩

/-- Three tasks on two vines: the first vine comes up twice, and its tasks overlap. -/
theorem Desk.filterVinesBy_agrees_with_filterVines_overlap :
    let objects : Filter := ⟨"objects", [.relation ["dobj"]]⟩
    let verbs : Filter := ⟨"verbs", [.tagged [⟨"VB", "eat"⟩]]⟩
    let dinner : Vine := ⟨[], "1", "", "", "", [⟨"VB", "eat"⟩, ⟨"NN", "pepper"⟩],
      [⟨"dobj", ⟨"eat", 0⟩, ⟨"pepper", 1⟩⟩], ["old"]⟩
    let silence : Vine := ⟨[], "2", "", "", "", [], [], []⟩
    let desk : Desk := ⟨⟨["amod", "nn"], 2, by decide, false, [.ordinary objects, .ordinary verbs]⟩,
      [("dinner", dinner), ("silence", silence)]⟩
    let names := ["dinner", "silence", "dinner"]
    Schedule.Full 3 2 [2, 0, 0, 1, 2, 1] ∧
      ∃ alone together, ∃ added : String → List String,
        filterVines names desk = .ok ["dinner", "dinner"] alone ∧
        filterVinesBy [2, 0, 0, 1, 2, 1] names desk = .ok ["dinner", "dinner"] together ∧
        together.shelf.get? "dinner" = some (dinner.logged (added "dinner")) ∧
        (added "dinner").Perm ["objects", "verbs", "objects", "verbs"] ∧
        together.shelf.get? "silence" = some silence := by
  intro objects verbs dinner silence desk names
  have hbuilt : ∀ f ∈ desk.manager.registry, ∃ filter : Filter,
      f = .ordinary filter ∧ filter.Configured := by
    intro f hf
    rcases List.mem_pair.mp hf with rfl | rfl
    · exact ⟨objects, rfl, ["amod", "nn"], "objects", .object [("edge", .object
        [("type", .string "grammar_dependency"), ("relations", .string "dobj")])], rfl⟩
    · exact ⟨verbs, rfl, ["amod", "nn"], "verbs", .object [("tag", .object
        [("type", .string "tagged_token"), ("tagged_tokens", .array [.string "VB-eat"])])], rfl⟩
  have hvines : ∀ name ∈ names, (desk.shelf.get? name).isSome := by decide
  have hfull : Schedule.Full names.length desk.manager.registry.length [2, 0, 0, 1, 2, 1] := by
    decide
  obtain ⟨good, alone, together, added, halone, htogether, rfl, -, hgrows, hadded⟩ :=
    Desk.filterVinesBy_agrees_with_filterVines hbuilt (by simp [desk]) hvines hfull
  have hsilence : added "silence" = [] := (hadded "silence").2 rfl
  refine ⟨hfull, alone, together, added, halone, htogether, hgrows "dinner",
    (hadded "dinner").1, ?_⟩
  rw [hgrows "silence", hsilence]
  rfl

/-- Evaluations try the filters that are registered when they begin.  In a registry of filters
that were built from sections and of clearing ones, a vine passes a clearing filter like any
other, and what is returned and logged is what it passes of all the filters, though the first
clearing filter that is tried has removed them from the manager.  That holds for a single vine,
for vines one after the other and for vines that take turns.  The manager loses its filters if
any filter clears and any vine is evaluated, and stays as it is otherwise.  Where no filters are
registered evaluations fail and change nothing. -/
theorem Desk.evaluations_try_filters_of_start {desk : Desk} {names : List String}
    (hmixed : ∀ f ∈ desk.manager.registry,
      (∃ filter : Filter, f = .ordinary filter ∧ filter.Configured) ∨ ∃ name, f = .clearing name)
    (hvines : ∀ name ∈ names, (desk.shelf.get? name).isSome) :
    (desk.manager.registry ≠ [] →
      (∀ name ∈ names, ∃ after,
        evaluate name desk = .ok (desk.admitted name) after ∧
        after.manager = desk.manager.clearedIf desk.manager.registry.clears ∧
        desk.shelf.GrowsTo after.shelf
          fun other => if other = name then desk.admitted name else []) ∧
      (∃ after,
        filterVines names desk = .ok (names.filter fun name => desk.admitted name ≠ []) after ∧
        after.manager = desk.manager.clearedIf (names ≠ [] && desk.manager.registry.clears) ∧
        desk.shelf.GrowsTo after.shelf
          fun name => (List.replicate (names.count name) (desk.admitted name)).flatten) ∧
      ∀ schedule : Schedule, schedule.Full names.length desk.manager.registry.length →
        ∃ after added,
          filterVinesBy schedule names desk =
            .ok (names.filter fun name => desk.admitted name ≠ []) after ∧
          after.manager = desk.manager.clearedIf (names ≠ [] && desk.manager.registry.clears) ∧
          desk.shelf.GrowsTo after.shelf added ∧
          ∀ name, (added name).Perm
              (List.replicate (names.count name) (desk.admitted name)).flatten ∧
            (names.count name = 1 → added name = desk.admitted name)) ∧
    (desk.manager.registry = [] →
      (∀ name ∈ names, ∃ after,
        evaluate name desk = .error .noFilters after ∧ after.manager = desk.manager ∧
        desk.shelf.GrowsTo after.shelf fun _ => []) ∧
      filterVines names desk = .error .noFilters desk ∧
      ∀ schedule, filterVinesBy schedule names desk = .error .noFilters desk) := by
  have hanswers : ∀ f ∈ desk.manager.registry, f.Answers := by
    intro f hf
    exact RegisteredFilter.answers_of_built (hmixed f hf)
  constructor
  · intro hne
    refine ⟨?_, exists_filterVines_eq_ok hanswers hne hvines, ?_⟩
    · intro name hname
      obtain ⟨v, hv⟩ := Option.isSome_iff_exists.mp (hvines name hname)
      have hadmitted : desk.admitted name = desk.manager.registry.admitted v :=
        Shelf.admittedAt_of_get? hv _
      rw [hadmitted]
      exact ⟨_, evaluate_eq_ok hanswers hne hv, rfl, Shelf.growsTo_put hv _⟩
    · intro schedule hfull
      exact exists_filterVinesBy_eq_ok hanswers hne hvines hfull
  · intro hempty
    refine ⟨?_, filterVines_eq_error hempty names, filterVinesBy_eq_error hempty names⟩
    intro name hname
    obtain ⟨v, hv⟩ := Option.isSome_iff_exists.mp (hvines name hname)
    exact exists_evaluate_eq_error hempty hv

/-- A clearing filter in front of another one, tried on two vines. -/
theorem Desk.evaluations_try_filters_of_start_sweep :
    let objects : Filter := ⟨"objects", [.relation ["dobj"]]⟩
    let dinner : Vine := ⟨[], "1", "", "", "", [], [⟨"dobj", ⟨"eat", 0⟩, ⟨"pepper", 1⟩⟩], ["old"]⟩
    let silence : Vine := ⟨[], "2", "", "", "", [], [], []⟩
    let desk : Desk := ⟨⟨["amod", "nn"], 2, by decide, false,
      [.clearing "sweep", .ordinary objects]⟩, [("dinner", dinner), ("silence", silence)]⟩
    (∃ after, evaluate "dinner" desk = .ok ["sweep", "objects"] after ∧
      after.manager.registry = []) ∧
    ∃ after, filterVines ["silence", "dinner"] desk = .ok ["silence", "dinner"] after ∧
      after.manager.registry = [] ∧
      after.shelf.get? "dinner" = some (dinner.logged ["sweep", "objects"]) := by
  intro objects dinner silence desk
  have hmixed : ∀ f ∈ desk.manager.registry,
      (∃ filter : Filter, f = .ordinary filter ∧ filter.Configured) ∨
        ∃ name, f = .clearing name := by
    intro f hf
    rcases List.mem_pair.mp hf with rfl | rfl
    · exact .inr ⟨"sweep", rfl⟩
    · exact .inl ⟨objects, rfl, ["amod", "nn"], "objects", .object [("edge", .object
        [("type", .string "grammar_dependency"), ("relations", .string "dobj")])], rfl⟩
  have hvines : ∀ name ∈ ["silence", "dinner"], (desk.shelf.get? name).isSome := by decide
  obtain ⟨hevaluate, ⟨after, hafter, hmanager, hgrows⟩, -⟩ :=
    (Desk.evaluations_try_filters_of_start hmixed hvines).1 (by simp [desk])
  obtain ⟨single, hsingle, hcleared, -⟩ := hevaluate "dinner" (by decide)
  refine ⟨⟨single, hsingle, by rw [hcleared]; rfl⟩, after, hafter, by rw [hmanager]; rfl, ?_⟩
  rw [hgrows "dinner"]
  rfl

end GrammarSieve
