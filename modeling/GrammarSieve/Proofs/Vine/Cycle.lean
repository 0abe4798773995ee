/-
Writing a vine with its log and reading it again, as often as one likes.  The log has one place in
the document: that of an old log, or behind everything else.  It keeps this place in every cycle,
and all that a cycle loses is what was recorded before it.
-/
import GrammarSieve.Proofs.Vine.Rereading

namespace GrammarSieve

namespace Members

/-- What stands before the place of a key, and what stands behind it.  A key that is not there has
its place behind all members. -/
inductive Around (key : String) : Members → Members → Members → Prop where
  | found {front back : Members} (hfront : key ∉ keys front) (old : Json) :
      Around key (front ++ (key, old) :: back) front back
  | absent {members : Members} (h : key ∉ keys members) : Around key members members []

theorem not_mem_keys_cons {key : String} {entry : String × Json} {members : Members} :
    key ∉ keys (entry :: members) ↔ entry.1 ≠ key ∧ key ∉ keys members := by
  rw [keys, List.map_cons, List.mem_cons, not_or, ne_comm, ← keys]

theorem Around.cons {key : String} {members front back : Members} {entry : String × Json}
    (hentry : entry.1 ≠ key) (h : Around key members front back) :
    Around key (entry :: members) (entry :: front) back := by
  cases h with
  | found hfront old => exact .found (not_mem_keys_cons.mpr ⟨hentry, hfront⟩) old
  | absent h => exact .absent (not_mem_keys_cons.mpr ⟨hentry, h⟩)

theorem exists_around (key : String) (members : Members) :
    ∃ front back, Around key members front back := by
  induction members with
  | nil => exact ⟨[], [], .absent List.not_mem_nil⟩
  | cons entry rest ih =>
      by_cases hentry : entry.1 = key
      · obtain ⟨_, old⟩ := entry
        obtain rfl := hentry
        exact ⟨[], rest, @Around.found _ [] rest List.not_mem_nil old⟩
      · obtain ⟨front, back, h⟩ := ih
        exact ⟨entry :: front, back, h.cons hentry⟩

theorem put_append_cons {key : String} {front : Members} (hfront : key ∉ keys front)
    (value old : Json) (back : Members) :
    put key value (front ++ (key, old) :: back) = front ++ (key, value) :: back := by
  induction front with
  | nil => simp [put]
  | cons entry rest ih =>
      obtain ⟨hentry, hrest⟩ := not_mem_keys_cons.mp hfront
      rw [List.cons_append, put, if_neg hentry, ih hrest, List.cons_append]

namespace Around

variable {key : String} {members front back : Members}

theorem not_mem_front (h : Around key members front back) : key ∉ keys front := by
  cases h with
  | found hfront => exact hfront
  | absent h => exact h

/-- A value is put in the place of its key, and all the other members stay in theirs. -/
theorem put_eq (h : Around key members front back) (value : Json) :
    members.put key value = front ++ (key, value) :: back := by
  cases h with
  | found hfront old => exact put_append_cons hfront value old back
  | absent h => exact put_eq_append h value

/-- The key keeps its place when a value is put there. -/
theorem put (h : Around key members front back) (value : Json) :
    Around key (members.put key value) front back := by
  rw [h.put_eq]
  exact .found h.not_mem_front value

end Around

end Members

namespace Vine

/-- Records names, and reads the vine again from its document with the log in it. -/
def cycle (v : Vine) (names : List String) : Except VineError Vine :=
  ofDocument (.object (names.foldl recordMatch v).toDocument)

namespace ReadFrom

variable {document front back : Members} {v : Vine}

theorem toDocument_of_around (h : ReadFrom document v)
    (hplace : document.Around logKey front back) :
    v.toDocument = front ++ (logKey, logValue []) :: back := by
  rw [h.toDocument_eq, hplace.put_eq]

/-- A cycle changes the log in the document. -/
theorem cycle_eq (h : ReadFrom document v) (names : List String) :
    v.cycle names = .ok { v with document := document.put logKey (logValue names) } := by
  rw [cycle, foldl_recordMatch, h.ofDocument_toDocument, h.reread_logged]

/-- Cycles change nothing but the log in the document, and not its place. -/
theorem exists_cycles (h : ReadFrom document v) (hplace : document.Around logKey front back)
    (cycles : List (List String)) : ∃ last : Members,
      cycles.foldlM cycle v = .ok { v with document := last } ∧
      ReadFrom last { v with document := last } ∧ last.Around logKey front back := by
  induction cycles generalizing document v with
  | nil =>
      obtain rfl := h.document_eq
      exact ⟨_, rfl, h, hplace⟩
  | cons names rest ih =>
      rw [List.foldlM_cons, h.cycle_eq]
      exact ih (h.put_logKey (logValue names)) (hplace.put (logValue names))

end ReadFrom

/-- The document of a vine is the one it was read from with the log in its place.  It can be read
again, which gives the vine back with an empty log, and so do any further cycles, whatever is
recorded in between.  No filter can tell the vines apart. -/
theorem toDocument_survives_cycles {document : Members} {v : Vine}
    (hv : ofDocument (.object document) = .ok v) (names : List String) :
    let recorded := names.foldl recordMatch v
    recorded.goodFilters = names ∧
    ∃ front back, document.Around logKey front back ∧
      recorded.toDocument = front ++ (logKey, logValue names) :: back ∧
      ∃ again, ofDocument (.object recorded.toDocument) = .ok again ∧
        ReadBackAs recorded again ∧
        again.toDocument = front ++ (logKey, logValue []) :: back ∧
        (∀ f : Filter, f.passes again = f.passes recorded) ∧
        ∀ cycles : List (List String), ∃ last, cycles.foldlM cycle again = .ok last ∧
          { last with document := again.document } = again ∧
          last.toDocument = again.toDocument ∧ ∀ f : Filter, f.passes last = f.passes again := by
  have hread := ofDocument_object_eq_ok_iff.mp hv
  obtain ⟨front, back, hplace⟩ := Members.exists_around logKey document
  simp only [foldl_recordMatch]
  -- the vine after the first cycle
  have hagain := hread.put_logKey (logValue names)
  have hfirst := hplace.put (logValue names)
  have hempty := hagain.toDocument_of_around hfirst
  refine ⟨hread.goodFilters_logged names, front, back, hplace, ?_, _,
    hread.ofDocument_toDocument names, readBackAs_reread _, ?_, ?_, ?_⟩
  · rw [hread.toDocument_logged, hplace.put_eq]
  · rw [hread.reread_logged, hempty]
  · intro f
    exact f.passes_filed (v.logged names) _ []
  · intro cycles
    rw [hread.reread_logged]
    obtain ⟨last, hlast, hreadLast, hplaceLast⟩ := hagain.exists_cycles hfirst cycles
    have hsame := (hreadLast.toDocument_of_around hplaceLast).trans hempty.symm
    exact ⟨_, hlast, rfl, hsame, fun f => f.passes_filed _ last v.goodFilters⟩

/-- The document has a number where the log belongs, before some of its other members. -/
theorem toDocument_survives_cycles_stale :
    let document (log : Json) : Members := [("id", .string "1"), (logKey, log),
      ("url", .string ""), ("text", .string ""), ("scrubbed_text", .string ""),
      ("pos_tags", .array []), ("grammar_dependencies", .array []), ("note", .null)]
    ∃ v again last, ofDocument (.object (document (.integer 7))) = .ok v ∧
      ((v.recordMatch "second").recordMatch "first").toDocument =
        document (logValue ["second", "first"]) ∧
      ofDocument (.object (document (logValue ["second", "first"]))) = .ok again ∧
      again.goodFilters = [] ∧ again.toDocument = document (logValue []) ∧
      again.cycle ["third"] = .ok last ∧ last.toDocument = document (logValue []) := by
  intro document
  let v : Vine := ⟨document (.integer 7), "1", "", "", "", [], [], []⟩
  have hv : ofDocument (.object (document (.integer 7))) = .ok v := by rfl
  obtain ⟨-, _, _, -, -, again, hagain, hback, -, -, hcycles⟩ :=
    toDocument_survives_cycles hv ["second", "first"]
  obtain ⟨last, hlast, -, hsame, -⟩ := hcycles [["third"]]
  have hdocument : again.toDocument = document (logValue []) := hback.toDocument_eq
  have hcycle : again.cycle ["third"] = .ok last := by simpa using hlast
  exact ⟨v, again, last, hv, rfl, hagain, hback.goodFilters_eq, hdocument, hcycle,
    hsame.trans hdocument⟩

end Vine

end GrammarSieve
