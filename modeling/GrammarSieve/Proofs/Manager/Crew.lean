/-
Several workers come to what one comes to.  The invariant of a crew says how far its tasks have
come: each has tried a first part of the filters and passed those of them that its vine passes,
and the log of each vine has grown by what the tasks on it have passed, in some order, but in
their own order for each task.  Every turn keeps it, hence every schedule does, and when all the
tasks have had all their turns nothing is left in which two schedules could differ but the order
in which tasks on the same vine have logged.
-/
import GrammarSieve.Manager.Crew
import GrammarSieve.Proofs.Manager.Sieve

namespace GrammarSieve

namespace Registry

theorem admitted_append (first second : Registry) (v : Vine) :
    admitted (first ++ second) v = first.admitted v ++ second.admitted v := by
  simp [admitted]

theorem admitted_singleton (f : RegisteredFilter) (v : Vine) :
    admitted [f] v = f.logLine v := by
  rw [admitted_cons, admitted, List.filter_nil, List.map_nil, List.append_nil]

theorem clears_append (first second : Registry) :
    clears (first ++ second) = (first.clears || second.clears) :=
  List.any_append

end Registry

/-- The filters that the task has tried: those in front of the ones that remain. -/
def Task.tried (filters : Registry) (task : Task) : Registry :=
  filters.take (filters.length - task.remaining.length)

theorem Task.tried_eq {filters first : Registry} {task : Task}
    (h : first ++ task.remaining = filters) : task.tried filters = first := by
  rw [tried, ← h]
  simp

/-- The task after its vine has been tried with the first of the remaining filters. -/
def Task.next (task : Task) (f : RegisteredFilter) (rest : Registry) (v : Vine) : Task :=
  ⟨task.vine, rest, task.passed ++ f.logLine v⟩

namespace Crew

/-- The names that the tasks on a vine have passed, task by task. -/
def passedOn (tasks : List Task) (name : String) : List String :=
  (tasks.filter (·.vine = name)).flatMap (·.passed)

theorem passedOn_append (first second : List Task) (name : String) :
    passedOn (first ++ second) name = passedOn first name ++ passedOn second name := by
  simp [passedOn]

theorem passedOn_cons (task : Task) (rest : List Task) (name : String) :
    passedOn (task :: rest) name =
      (if task.vine = name then task.passed else []) ++ passedOn rest name := by
  by_cases h : task.vine = name <;> simp [passedOn, h]

/-- What the logs have grown by since the tasks began. -/
structure Logged (tasks : List Task) (added : String → List String) : Prop where
  perm : ∀ name, (added name).Perm (passedOn tasks name)
  sublist : ∀ task ∈ tasks, task.passed.Sublist (added task.vine)

/-- How a crew stands that began at this desk to try these filters. -/
structure Underway (start : Desk) (filters : Registry) (crew : Crew) : Prop where
  tried_append : ∀ task ∈ crew.tasks, task.tried filters ++ task.remaining = filters
  passed_eq : ∀ task ∈ crew.tasks,
    task.passed = start.shelf.admittedAt (task.tried filters) task.vine
  manager_eq : crew.desk.manager =
    start.manager.clearedIf (crew.tasks.any fun task => (task.tried filters).clears)
  shelf : ∃ added, start.shelf.GrowsTo crew.desk.shelf added ∧ Logged crew.tasks added

theorem underway_begin (start : Desk) (filters : Registry) (names : List String) :
    Underway start filters ⟨start, names.map (⟨·, filters, []⟩)⟩ := by
  have htried : ∀ task ∈ names.map (Task.mk · filters []), task.tried filters = [] ∧
      task.remaining = filters ∧ task.passed = [] := by
    intro task htask
    obtain ⟨name, -, rfl⟩ := List.mem_map.mp htask
    exact ⟨Task.tried_eq rfl, rfl, rfl⟩
  refine ⟨?_, ?_, ?_, fun _ => [], Shelf.GrowsTo.refl _, ?_, ?_⟩
  · intro task htask
    obtain ⟨htried, hremaining, -⟩ := htried task htask
    rw [htried, hremaining, List.nil_append]
  · intro task htask
    obtain ⟨htried, -, hpassed⟩ := htried task htask
    rw [htried, hpassed, Shelf.admittedAt]
    split <;> rfl
  · have hnone : (names.map (Task.mk · filters [])).any
        (fun task => (task.tried filters).clears) = false := by
      rw [List.any_eq_false]
      intro task htask
      rw [(htried task htask).1]
      simp [Registry.clears]
    rw [hnone, Manager.clearedIf_false]
  · intro name
    simp [passedOn, List.filter_map, List.flatMap_map]
  · intro task htask
    rw [(htried task htask).2.2]

/-- A task that logs what it passes next lengthens the log of its vine and its own list. -/
theorem Logged.turn {before later : List Task} {task : Task} {added : String → List String}
    (h : Logged (before ++ task :: later) added) (f : RegisteredFilter) (rest : Registry)
    (v : Vine) :
    Logged (before ++ task.next f rest v :: later)
      fun name => added name ++ if name = task.vine then f.logLine v else [] := by
  constructor
  · intro name
    have hperm := h.perm name
    rw [passedOn_append, passedOn_cons] at hperm ⊢
    by_cases hname : task.vine = name
    · subst hname
      simp only [Task.next, ↓reduceIte] at hperm ⊢
      refine (hperm.append_right (f.logLine v)).trans ?_
      simp only [List.append_assoc]
      exact (List.perm_append_comm.append_left _).append_left _
    · simpa [Task.next, hname, Ne.symm hname] using hperm
  · intro other hother
    have hcases : other = task.next f rest v ∨ other ∈ before ++ task :: later := by
      simp only [List.mem_append, List.mem_cons] at hother ⊢
      tauto
    rcases hcases with rfl | hold
    · simp only [Task.next, ↓reduceIte]
      exact (h.sublist task (by simp)).append (List.Sublist.refl _)
    · exact (h.sublist other hold).trans (List.sublist_append_left _ _)

/-- One turn of a task: it tries its next filter, and all stands as it should. -/
theorem Underway.turn {start desk : Desk} {filters rest : Registry} {before later : List Task}
    {task : Task} {f : RegisteredFilter} {v : Vine}
    (h : Underway start filters ⟨desk, before ++ task :: later⟩)
    (hremaining : task.remaining = f :: rest) (hv : desk.shelf.get? task.vine = some v) :
    Underway start filters
      ⟨⟨desk.manager.clearedIf f.clears, desk.shelf.put task.vine (v.logged (f.logLine v))⟩,
        before ++ task.next f rest v :: later⟩ := by
  have hmem : task ∈ before ++ task :: later := by simp
  have hsplit := h.tried_append task hmem
  rw [hremaining] at hsplit
  have htried : (task.next f rest v).tried filters = task.tried filters ++ [f] := by
    apply Task.tried_eq
    rw [List.append_assoc]
    exact hsplit
  have hothers : ∀ other ∈ before ++ task.next f rest v :: later,
      other = task.next f rest v ∨ other ∈ before ++ task :: later := by
    intro other hother
    simp only [List.mem_append, List.mem_cons] at hother ⊢
    tauto
  obtain ⟨added, hgrows, hlogged⟩ := h.shelf
  -- the log of the vine may have grown since the tasks began, but it passes what it passed then
  have hvine : ∀ tried, start.shelf.admittedAt tried task.vine = Registry.admitted tried v := by
    intro tried
    rw [← hgrows.admittedAt_eq, Shelf.admittedAt_of_get? hv]
  refine ⟨?_, ?_, ?_, _, hgrows.trans (Shelf.growsTo_put hv _), hlogged.turn f rest v⟩
  · intro other hother
    rcases hothers other hother with rfl | hold
    · rw [htried, List.append_assoc]
      exact hsplit
    · exact h.tried_append other hold
  · intro other hother
    rcases hothers other hother with rfl | hold
    · rw [htried]
      calc task.passed ++ f.logLine v
          _ = (task.tried filters).admitted v ++ f.logLine v := by rw [h.passed_eq task hmem, hvine]
          _ = start.shelf.admittedAt (task.tried filters ++ [f]) task.vine := by
            rw [hvine, Registry.admitted_append, Registry.admitted_singleton]
    · exact h.passed_eq other hold
  · have hmanager := h.manager_eq
    simp only [List.any_append, List.any_cons] at hmanager ⊢
    rw [hmanager, Manager.clearedIf_clearedIf, htried, Registry.clears_append]
    congr 1
    simp only [Registry.clears, List.any_cons, List.any_nil, Bool.or_false]
    cases f.clears <;> simp

/-- The filters that the task at a place has still to try. -/
def remainingAt (crew : Crew) (place : Nat) : Option Registry :=
  crew.tasks[place]?.map (·.remaining)

theorem map_drop_zero (remaining : Option Registry) :
    remaining.map (List.drop 0) = remaining := by
  cases remaining <;> rfl

/-- A list can be taken apart at a place where it has an entry, and put together with another. -/
theorem exists_append_of_getElem? {α : Type} {xs : List α} {place : Nat} {x : α}
    (h : xs[place]? = some x) :
    ∃ before later, xs = before ++ x :: later ∧ ∀ y, xs.set place y = before ++ y :: later := by
  induction xs generalizing place with
  | nil => simp at h
  | cons first rest ih =>
      cases place with
      | zero =>
          obtain rfl := Option.some.inj h
          exact ⟨[], rest, rfl, fun _ => rfl⟩
      | succ place =>
          obtain ⟨before, later, rfl, hset⟩ := ih h
          exact ⟨first :: before, later, rfl, fun y => congrArg (first :: ·) (hset y)⟩

/-- A task that has filters left tries the first of them. -/
theorem advance_eq_ok {crew : Crew} {place : Nat} {task : Task} {f : RegisteredFilter}
    {rest : Registry} {v : Vine} (htask : crew.tasks[place]? = some task)
    (hremaining : task.remaining = f :: rest) (hf : f.Answers)
    (hv : crew.desk.shelf.get? task.vine = some v) :
    advance place crew = .ok ()
      ⟨⟨crew.desk.manager.clearedIf f.clears,
          crew.desk.shelf.put task.vine (v.logged (f.logLine v))⟩,
        crew.tasks.set place (task.next f rest v)⟩ := by
  obtain ⟨vine, remaining, passed⟩ := task
  obtain rfl : remaining = f :: rest := hremaining
  have htrial := Desk.onVine_eq_ok hv (f.evaluate_eq_ok hf ⟨crew.desk.manager, v⟩)
  simp only [advance, htask, htrial, Task.next, RegisteredFilter.logLine]
  cases f.admits v <;> simp

/-- A task that has no filters left, or that does not exist, does nothing. -/
theorem advance_eq_self {crew : Crew} {place : Nat}
    (h : ∀ task, crew.tasks[place]? = some task → task.remaining = []) :
    advance place crew = .ok () crew := by
  rw [advance]
  split
  · next htask => simpa using h _ htask
  · rfl

/-- Where a task has no filters left, a turn takes none from it. -/
theorem remainingAt_of_idle {crew : Crew} {place : Nat}
    (h : ∀ task, crew.tasks[place]? = some task → task.remaining = []) (other : Nat) :
    crew.remainingAt other = (crew.remainingAt other).map (List.drop ([place].count other)) := by
  by_cases hother : other = place
  · subst hother
    cases htask : crew.tasks[other]? with
    | none => simp [remainingAt, htask]
    | some task => simp [remainingAt, htask, h task htask]
  · simp [Ne.symm hother, map_drop_zero]

/-- A turn takes the first filter from the task whose turn it is, and none from the others. -/
theorem remainingAt_set_next {crew : Crew} {place : Nat} {task : Task} {f : RegisteredFilter}
    {rest : Registry} (htask : crew.tasks[place]? = some task)
    (hremaining : task.remaining = f :: rest) (desk : Desk) (v : Vine) (other : Nat) :
    remainingAt ⟨desk, crew.tasks.set place (task.next f rest v)⟩ other =
      (crew.remainingAt other).map (List.drop ([place].count other)) := by
  by_cases hother : other = place
  · subst hother
    obtain ⟨hlt, hget⟩ := List.getElem?_eq_some_iff.mp htask
    simp [remainingAt, Task.next, hlt, hget, hremaining]
  · have hcount : [place].count other = 0 := by simp [Ne.symm hother]
    rw [hcount, map_drop_zero, remainingAt, remainingAt, List.getElem?_set_ne (Ne.symm hother)]

section Run

variable {start : Desk} {filters : Registry} {crew : Crew}

/-- Any turn can be taken, and it leaves the crew under way, with one filter less for the task
whose turn it was. -/
theorem Underway.advance (h : Underway start filters crew) (hanswers : ∀ f ∈ filters, f.Answers)
    (hvines : ∀ task ∈ crew.tasks, (start.shelf.get? task.vine).isSome) (place : Nat) :
    ∃ after, Crew.advance place crew = .ok () after ∧ Underway start filters after ∧
      after.tasks.map (·.vine) = crew.tasks.map (·.vine) ∧
      ∀ other, after.remainingAt other =
        (crew.remainingAt other).map (List.drop ([place].count other)) := by
  by_cases hidle : ∀ task, crew.tasks[place]? = some task → task.remaining = []
  · exact ⟨crew, advance_eq_self hidle, h, rfl, remainingAt_of_idle hidle⟩
  · push Not at hidle
    obtain ⟨task, htask, hremaining⟩ := hidle
    obtain ⟨f, rest, hremaining⟩ := List.exists_cons_of_ne_nil hremaining
    obtain ⟨before, later, htasks, hset⟩ := exists_append_of_getElem? htask
    have hmem : task ∈ crew.tasks := List.mem_of_getElem? htask
    have hf : f ∈ filters := by
      rw [← h.tried_append task hmem, hremaining]
      simp
    obtain ⟨added, hgrows, -⟩ := h.shelf
    obtain ⟨v, hv⟩ : ∃ v, crew.desk.shelf.get? task.vine = some v := by
      rw [← Option.isSome_iff_exists, hgrows.isSome_get?]
      exact hvines task hmem
    refine ⟨_, advance_eq_ok htask hremaining (hanswers f hf) hv, ?_, ?_,
      remainingAt_set_next htask hremaining _ v⟩
    · rw [hset]
      apply Underway.turn _ hremaining hv
      rw [← htasks]
      exact h
    · rw [hset, htasks]
      simp [Task.next]

/-- Any schedule can be followed, and every task has tried one filter for each of its turns. -/
theorem Underway.follow (h : Underway start filters crew) (hanswers : ∀ f ∈ filters, f.Answers)
    (hvines : ∀ task ∈ crew.tasks, (start.shelf.get? task.vine).isSome) (schedule : Schedule) :
    ∃ after, Crew.follow schedule crew = .ok () after ∧ Underway start filters after ∧
      after.tasks.map (·.vine) = crew.tasks.map (·.vine) ∧
      ∀ other, after.remainingAt other =
        (crew.remainingAt other).map (List.drop (schedule.count other)) := by
  induction schedule generalizing crew with
  | nil => exact ⟨crew, rfl, h, rfl, fun other => (map_drop_zero _).symm⟩
  | cons place rest ih =>
      obtain ⟨next, hnext, hunderway, hsame, hturn⟩ := h.advance hanswers hvines place
      have hfound : ∀ task ∈ next.tasks, (start.shelf.get? task.vine).isSome := by
        intro task htask
        have hname : task.vine ∈ crew.tasks.map (·.vine) := by
          rw [← hsame]
          exact List.mem_map_of_mem htask
        obtain ⟨old, hold, hvine⟩ := List.mem_map.mp hname
        rw [← hvine]
        exact hvines old hold
      obtain ⟨after, hafter, hunderway', hsame', hturns⟩ := ih hunderway hfound
      refine ⟨after, ?_, hunderway', hsame'.trans hsame, ?_⟩
      · simp only [Crew.follow, bind, EStateM.bind, hnext, hafter]
      · intro other
        have hcount : (place :: rest).count other = [place].count other + rest.count other := by
          rw [← List.count_append, List.singleton_append]
        rw [hturns, hturn, Option.map_map, hcount]
        congr 1
        funext remaining
        rw [Function.comp_apply, List.drop_drop]

/-- A task without filters left has tried them all. -/
theorem Underway.tried_eq (h : Underway start filters crew) {task : Task}
    (htask : task ∈ crew.tasks) (hdone : task.remaining = []) : task.tried filters = filters := by
  have hsplit := h.tried_append task htask
  rwa [hdone, List.append_nil] at hsplit

end Run

theorem passedOn_eq_flatten {tasks : List Task} {passed : String → List String}
    (h : ∀ task ∈ tasks, task.passed = passed task.vine) (name : String) :
    passedOn tasks name =
      (List.replicate ((tasks.map (·.vine)).count name) (passed name)).flatten := by
  induction tasks with
  | nil => rfl
  | cons task rest ih =>
      obtain ⟨htask, hrest⟩ := List.forall_mem_cons.mp h
      rw [passedOn_cons, ih hrest, List.map_cons, List.count_cons]
      by_cases hname : task.vine = name
      · subst hname
        simp [htask, List.replicate_succ]
      · simp [hname]

theorem good_eq_filter {crew : Crew} {passed : String → List String}
    (h : ∀ task ∈ crew.tasks, task.passed = passed task.vine) :
    crew.good = (crew.tasks.map (·.vine)).filter fun name => passed name ≠ [] := by
  rw [good, List.filter_map]
  congr 1
  apply List.filter_congr
  intro task htask
  rw [h task htask, Function.comp_apply]
  cases passed task.vine <;> simp

theorem any_clears_eq {tasks : List Task} {filters : Registry}
    (h : ∀ task ∈ tasks, task.tried filters = filters) :
    (tasks.any fun task => (task.tried filters).clears) =
      (tasks.map (·.vine) ≠ [] && filters.clears) := by
  induction tasks with
  | nil => rfl
  | cons task rest ih =>
      obtain ⟨htask, hrest⟩ := List.forall_mem_cons.mp h
      rw [List.any_cons, htask, ih hrest]
      cases filters.clears <;> simp

end Crew

/-- When vines take turns by a full schedule, those that pass a filter are kept, and each vine
logs what it passes as often as it comes up, in the order of the registry if it comes up once. -/
theorem Desk.exists_filterVinesBy_eq_ok {desk : Desk} {names : List String} {schedule : Schedule}
    (h : ∀ f ∈ desk.manager.registry, f.Answers) (hne : desk.manager.registry ≠ [])
    (hvines : ∀ name ∈ names, (desk.shelf.get? name).isSome)
    (hfull : schedule.Full names.length desk.manager.registry.length) :
    ∃ after added, filterVinesBy schedule names desk =
        .ok (names.filter fun name => desk.admitted name ≠ []) after ∧
      after.manager = desk.manager.clearedIf (names ≠ [] && desk.manager.registry.clears) ∧
      desk.shelf.GrowsTo after.shelf added ∧
      ∀ name, (added name).Perm
          (List.replicate (names.count name) (desk.admitted name)).flatten ∧
        (names.count name = 1 → added name = desk.admitted name) := by
  let crew : Crew := ⟨desk, names.map (⟨·, desk.manager.registry, []⟩)⟩
  have hcrew : crew.tasks.map (·.vine) = names := by
    rw [List.map_map]
    exact List.map_id names
  have hfound : ∀ task ∈ crew.tasks, (desk.shelf.get? task.vine).isSome := by
    intro task htask
    obtain ⟨name, hname, rfl⟩ := List.mem_map.mp htask
    exact hvines name hname
  obtain ⟨after, hafter, hunderway, hsame, hturns⟩ :=
    (Crew.underway_begin desk desk.manager.registry names).follow h hfound schedule
  rw [hcrew] at hsame
  -- every task has had a turn for each of the filters
  have hdone : ∀ task ∈ after.tasks, task.remaining = [] := by
    intro task htask
    obtain ⟨place, hplace⟩ := List.mem_iff_getElem?.mp htask
    have hlt : place < names.length := by
      rw [← hsame, List.length_map]
      exact (List.getElem?_eq_some_iff.mp hplace).1
    have hremaining := hturns place
    simpa [Crew.remainingAt, hplace, hlt, hfull.2 place hlt] using hremaining
  have hpassed : ∀ task ∈ after.tasks, task.passed = desk.admitted task.vine := by
    intro task htask
    rw [hunderway.passed_eq task htask, hunderway.tried_eq htask (hdone task htask)]
    rfl
  obtain ⟨added, hgrows, hlogged⟩ := hunderway.shelf
  have hperm : ∀ name, (added name).Perm
      (List.replicate (names.count name) (desk.admitted name)).flatten := by
    intro name
    rw [← hsame, ← Crew.passedOn_eq_flatten hpassed]
    exact hlogged.perm name
  refine ⟨after.desk, added, ?_, ?_, hgrows, fun name => ⟨hperm name, ?_⟩⟩
  · rw [filterVinesBy, hafter, ← hsame, ← Crew.good_eq_filter hpassed]
    simp [hne]
  · have htried : ∀ task ∈ after.tasks,
        task.tried desk.manager.registry = desk.manager.registry :=
      fun task htask => hunderway.tried_eq htask (hdone task htask)
    rw [hunderway.manager_eq, Crew.any_clears_eq htried, hsame]
  · intro honce
    have hmem : name ∈ after.tasks.map (·.vine) := by
      rw [hsame, ← List.count_pos_iff, honce]
      exact Nat.one_pos
    obtain ⟨task, htask, rfl⟩ := List.mem_map.mp hmem
    have hsublist := hlogged.sublist task htask
    rw [hpassed task htask] at hsublist
    have hlength := (hperm task.vine).length_eq
    rw [honce, List.replicate_one, List.flatten_singleton] at hlength
    exact (hsublist.eq_of_length hlength.symm).symm

theorem Desk.filterVinesBy_eq_error {desk : Desk} (hempty : desk.manager.registry = [])
    (names : List String) (schedule : Schedule) :
    filterVinesBy schedule names desk = .error .noFilters desk := by
  simp [filterVinesBy, hempty]

end GrammarSieve
