/-
Inquiries and the log.  A step of an inquiry adds to the end of the log and changes nothing else,
and no answer depends on what is in the log, besides the log itself and the entry that it has in
the document.  So an inquiry, however long, gets the answers that a fresh vine would give.
-/
import GrammarSieve.Proofs.Vine.Rereading
import GrammarSieve.Vine.Inquiry

namespace GrammarSieve

namespace Json

variable {key : String} {first second : Json}

/-- Whether members can be stored does not depend on which storable value a key has. -/
theorem membersStorable_put (hfirst : first.isStorable = true) (hsecond : second.isStorable = true)
    (members : Members) :
    membersStorable (members.put key first) = membersStorable (members.put key second) := by
  induction members with
  | nil => simp [Members.put, membersStorable, hfirst, hsecond]
  | cons entry rest ih =>
      by_cases hkey : entry.1 = key
      · simp [Members.put, hkey, membersStorable, hfirst, hsecond]
      · simp [Members.put, hkey, membersStorable, ih]

theorem exists_compactMembers_put (key : String) (members : Members) :
    ∃ front back, ∀ value : Json, compactMembers (members.put key value) =
      front ++ storedString key ++ ':' :: value.compact ++ back := by
  induction members with
  | nil => exact ⟨[','], ['\x7d'], by simp [Members.put, compactMembers]⟩
  | cons entry rest ih =>
      by_cases hkey : entry.1 = key
      · exact ⟨[','], compactMembers rest, by simp [Members.put, hkey, compactMembers]⟩
      · obtain ⟨front, back, hrest⟩ := ih
        exact ⟨',' :: storedString entry.1 ++ ':' :: entry.2.compact ++ front, back,
          by simp [Members.put, hkey, compactMembers, hrest]⟩

/-- The stored text of an object has a place for the value of a key, and the text around it does
not depend on the value. -/
theorem exists_compact_put (key : String) (members : Members) :
    ∃ front back, ∀ value : Json, (Json.object (members.put key value)).compact =
      front ++ storedString key ++ ':' :: value.compact ++ back := by
  cases members with
  | nil => exact ⟨['\x7b'], ['\x7d'], by simp [Members.put, compact, compactMembers]⟩
  | cons entry rest =>
      by_cases hkey : entry.1 = key
      · exact ⟨['\x7b'], compactMembers rest, by simp [Members.put, hkey, compact]⟩
      · obtain ⟨front, back, hrest⟩ := exists_compactMembers_put key rest
        exact ⟨'\x7b' :: storedString entry.1 ++ ':' :: entry.2.compact ++ front, back,
          by simp [Members.put, hkey, compact, hrest]⟩

end Json

namespace Inquiry

open Vine (logKey logValue)

/-- The names that a step adds to the log: the one that it records, or that of a filter that the
vine has passed. -/
def recorded : Inquiry → Answer → List String
  | .record name, _ => [name]
  | .evaluate f, .truth true => [f.name]
  | _, _ => []

/-- The names that steps with these answers add to the log. -/
def recordedBy (steps : List Inquiry) (answers : List Answer) : List String :=
  (List.zipWith recorded steps answers).flatten

/-- The answer to a step, given with this log, is the one that a fresh vine gives.  Where the
answer shows the log, the log is all that differs. -/
def SameAnswer (log : List String) : Inquiry → Answer → Answer → Prop
  | .ask .log, now, fresh => now = .names log ∧ fresh = .names []
  | .ask .document, now, fresh =>
      ∃ members, fresh = .document (Members.put logKey (logValue []) members) ∧
        now = .document (Members.put logKey (logValue log) members)
  | .ask .stored, now, fresh =>
      now = .notStorable ∧ fresh = .notStorable ∨
        ∃ front back,
          fresh = .stored (front ++ Json.storedString logKey ++ ':' :: (logValue []).compact ++ back) ∧
            now = .stored (front ++ Json.storedString logKey ++ ':' :: (logValue log).compact ++ back)
  | .ask .whole, now, fresh => ∃ v, fresh = .vine v ∧ now = .vine (v.logged log)
  | .ask .reread, now, fresh =>
      ∃ (v : Vine) (members : Members),
        fresh = .vine { v with document := members.put logKey (logValue []) } ∧
          now = .vine { v with document := members.put logKey (logValue log) }
  | _, now, fresh => now = fresh

end Inquiry

namespace Vine

open Inquiry (SameAnswer recordedBy)

variable {document : Members} {fresh : Vine}

/-- The stored text of a vine with a log differs from that of the fresh one in the entry of the
log. -/
theorem ReadFrom.sameAnswer_stored (h : ReadFrom document fresh) (log : List String) :
    SameAnswer log (.ask .stored) ((fresh.logged log).answer .stored) (fresh.answer .stored) := by
  have hstorable := @Json.membersStorable_put logKey _ _ (exact_logValue log).isStorable
    (exact_logValue []).isStorable document
  obtain ⟨front, back, hcompact⟩ := Json.exists_compact_put logKey document
  simp only [answer, store?, h.toDocument_logged, h.toDocument_eq, Json.store?, Json.isStorable,
    hstorable]
  cases Json.membersStorable (document.put logKey (logValue [])) with
  | false => exact Or.inl ⟨rfl, rfl⟩
  | true => exact Or.inr ⟨front, back, congrArg _ (hcompact _), congrArg _ (hcompact _)⟩

theorem ReadFrom.sameAnswer_reread (h : ReadFrom document fresh) (log : List String) :
    SameAnswer log (.ask .reread) ((fresh.logged log).answer .reread) (fresh.answer .reread) := by
  have hnow := h.ofDocument_toDocument log
  have hfresh := h.ofDocument_toDocument []
  rw [logged_nil] at hfresh
  refine ⟨fresh, document, ?_, ?_⟩
  · have hreread := h.reread_logged []
    rw [logged_nil] at hreread
    simp only [answer, hfresh, hreread]
  · simp only [answer, hnow, h.reread_logged log]

/-- No question is answered from the log, unless the answer shows it. -/
theorem ReadFrom.sameAnswer_ask (h : ReadFrom document fresh) (log : List String)
    (question : Question) :
    SameAnswer log (.ask question) ((fresh.logged log).answer question)
      (fresh.answer question) := by
  cases question with
  | log => exact ⟨congrArg Answer.names (h.goodFilters_logged log),
      congrArg Answer.names h.goodFilters_eq⟩
  | document => exact ⟨document, congrArg Answer.document h.toDocument_eq,
      congrArg Answer.document (h.toDocument_logged log)⟩
  | stored => exact h.sameAnswer_stored log
  | whole => exact ⟨fresh, rfl, rfl⟩
  | reread => exact h.sameAnswer_reread log
  | tagged relation field => cases relation <;> rfl
  | _ => rfl

/-- A step adds what it records to the log, changes nothing else, and has the answer of the fresh
vine. -/
theorem ReadFrom.step_logged (h : ReadFrom document fresh) (log : List String) (step : Inquiry) :
    ∃ answer, (fresh.logged log).step step =
        (answer, fresh.logged (log ++ step.recorded answer)) ∧
      SameAnswer log step answer (fresh.step step).1 := by
  cases step with
  | ask question =>
      exact ⟨_, by simp [step, Inquiry.recorded], h.sameAnswer_ask log question⟩
  | record name => exact ⟨.done, by simp [step, recordMatch_eq_logged, Inquiry.recorded], rfl⟩
  | evaluate f =>
      simp only [step, Filter.evaluate, Filter.passes_logged]
      cases f.passes fresh with
      | error cause => exact ⟨.wrongField cause, by simp [Inquiry.recorded], rfl⟩
      | ok passed =>
          cases passed with
          | false => exact ⟨.truth false, by simp [Inquiry.recorded], rfl⟩
          | true =>
              exact ⟨.truth true, by simp [recordMatch_eq_logged, Inquiry.recorded], rfl⟩

/-- The log after any inquiry is the log before it, followed by the recorded names and the names
of the passed filters in order, and nothing else about the vine has changed.  Each answer is that
of a fresh vine of the same document, except for what it shows of the log so far. -/
theorem inquire_only_appends {document : Json} {fresh : Vine}
    (hfresh : ofDocument document = .ok fresh) (log : List String) (steps : List Inquiry) :
    ∃ answers, (fresh.logged log).inquire steps =
        (answers, fresh.logged (log ++ recordedBy steps answers)) ∧
      answers.length = steps.length ∧
      ∀ n step answer, steps[n]? = some step → answers[n]? = some answer →
        SameAnswer (log ++ recordedBy (steps.take n) (answers.take n)) step answer
          (fresh.step step).1 := by
  obtain ⟨members, -, hread⟩ := ofDocument_eq_ok_iff.mp hfresh
  -- the log is arbitrary, so that the later steps can go on from the log after the first one
  induction steps generalizing log with
  | nil => exact ⟨[], by simp [inquire, recordedBy], rfl, by simp⟩
  | cons first rest ih =>
      obtain ⟨answer, hstep, hsame⟩ := hread.step_logged log first
      obtain ⟨answers, hanswers, hlength, hall⟩ := ih (log ++ first.recorded answer)
      refine ⟨answer :: answers, ?_, by simp [hlength], ?_⟩
      · simp [inquire, hstep, hanswers, recordedBy]
      · intro n
        cases n with
        | zero =>
            intro step given hgiven hanswer
            obtain rfl := Option.some.inj hgiven
            obtain rfl := Option.some.inj hanswer
            simpa [recordedBy] using hsame
        | succ n =>
            intro step given hgiven hanswer
            have hlater := hall n step given hgiven hanswer
            simpa [recordedBy] using hlater

/-- A name is recorded, one of two filters is passed, and a question names a field that is no
endpoint. -/
theorem inquire_only_appends_dinner :
    let document := Json.object [("id", .string "1"), ("url", .string ""), ("text", .string ""),
      ("scrubbed_text", .string ""), ("pos_tags", .array [.string "VB-Chop"]),
      ("grammar_dependencies", .array [.string "dobj(Chop-0,pepper-1)"])]
    let steps : List Inquiry := [.record "seen", .evaluate ⟨"objects", [.relation ["dobj"]]⟩,
      .evaluate ⟨"subjects", [.relation ["nsubj"]]⟩, .ask (.endpoint 0 .text), .ask .log,
      .ask .stored]
    ∃ fresh answers, ofDocument document = .ok fresh ∧
      fresh.inquire steps = (answers, fresh.logged ["seen", "objects"]) ∧
      ∀ n step answer, steps[n]? = some step → answers[n]? = some answer →
        SameAnswer (recordedBy (steps.take n) (answers.take n)) step answer (fresh.step step).1 := by
  intro document steps
  obtain ⟨fresh, hfresh⟩ : ∃ fresh, ofDocument document = .ok fresh := ⟨_, rfl⟩
  obtain ⟨answers, hrun, -, hsame⟩ := inquire_only_appends hfresh [] steps
  rw [logged_nil] at hrun
  have hlog : recordedBy steps answers = ["seen", "objects"] := by
    have hanswers : answers = (fresh.inquire steps).1 := by rw [hrun]
    obtain rfl := Except.ok.inj hfresh
    rw [hanswers]
    rfl
  refine ⟨fresh, answers, hfresh, ?_, ?_⟩
  · rw [hrun, List.nil_append, hlog]
  · intro n step answer hstep hanswer
    simpa using hsame n step answer hstep hanswer

end Vine

end GrammarSieve
