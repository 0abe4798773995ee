/-
Wider conditions.  A condition is within another one of its type and field if all its alternatives
are alternatives of the other, and then the other holds wherever it does.  A filter is the narrower
the more conditions it has, so one filter is within another if each condition of the other has one
within it.  Filters that are within each other have the same answer on every vine, in whatever order
and however often their conditions and alternatives are written down.
-/
import GrammarSieve.Proofs.Filter.Section

namespace GrammarSieve

/-- A choice of relations is within another one.  All are within the absent list, which allows any
relation, and it is within no other. -/
inductive RelationsWithin : Option (List String) → Option (List String) → Prop where
  | any {relations : Option (List String)} : RelationsWithin relations none
  | listed {relations relations' : List String} (h : relations ⊆ relations') :
      RelationsWithin (some relations) (some relations')

theorem RelationsWithin.allows {relations relations' : Option (List String)}
    (h : RelationsWithin relations relations') {relation : String}
    (hallows : (RelationChoice.ofList? relations).Allows relation) :
    (RelationChoice.ofList? relations').Allows relation := by
  cases h with
  | any => trivial
  | listed hsubset => exact hsubset hallows

namespace Condition

/-- The second condition has all the alternatives of the first, of the same type and in the same
field. -/
inductive Within : Condition → Condition → Prop where
  | word {words words' : List String} {field : Field} (hwords : words ⊆ words') :
      Within (.word words field) (.word words' field)
  | tagged {tokens tokens' : List TaggedToken} (htokens : tokens ⊆ tokens') :
      Within (.tagged tokens) (.tagged tokens')
  | relation {relations relations' : List String} (hrelations : relations ⊆ relations') :
      Within (.relation relations) (.relation relations')
  | phrase {phrases phrases' : List String} {relations relations' : Option (List String)}
      {field : Field} {modifierRelations modifierRelations' : List String}
      (hphrases : phrases ⊆ phrases') (hrelations : RelationsWithin relations relations')
      (hmodifiers : modifierRelations ⊆ modifierRelations') :
      Within (.phrase phrases relations field modifierRelations)
        (.phrase phrases' relations' field modifierRelations')
  | endpointTag {tags tags' relations relations' : List String} {field : Field}
      (htags : tags ⊆ tags') (hrelations : relations ⊆ relations') :
      Within (.endpointTag tags relations field) (.endpointTag tags' relations' field)

/-- A vine that fulfils a condition fulfils every one that it is within. -/
theorem Within.fulfils {c c' : Condition} (h : c.Within c') {v : Vine} (hc : v.Fulfils c) :
    v.Fulfils c' := by
  cases h with
  | word hwords =>
      obtain ⟨word, hword, hfound⟩ := hc
      exact ⟨word, hwords hword, hfound⟩
  | tagged htokens =>
      obtain ⟨t, ht, hmem⟩ := hc
      exact ⟨t, htokens ht, hmem⟩
  | relation hrelations =>
      obtain ⟨e, he, hrelation⟩ := hc
      exact ⟨e, he, hrelations hrelation⟩
  | phrase hphrases hrelations hmodifiers =>
      obtain ⟨side, hside, phrase, hphrase, hstar⟩ := hc
      refine ⟨side, hside, phrase, hphrases hphrase, ?_⟩
      exact hstar.mono (fun e he => ⟨e, he, rfl⟩) (fun _ hallows => hrelations.allows hallows)
        (fun _ hmodifier => hmodifiers hmodifier)
  | endpointTag htags hrelations =>
      obtain ⟨side, hside, e, he, hrelation, t, ht, htag⟩ := hc
      exact ⟨side, hside, e, he, hrelations hrelation, t, ht, htags htag⟩

theorem Within.holds {c c' : Condition} (h : c.Within c') (hc : c.Suited) (hc' : c'.Suited)
    {v : Vine} (hholds : c.holds v = .ok true) : c'.holds v = .ok true := by
  rw [holds_eq_true_iff hc] at hholds
  rw [holds_eq_true_iff hc']
  exact h.fulfils hholds

/-- The conditions have the same alternatives, in any order and number. -/
def Alike (c c' : Condition) : Prop :=
  c.Within c' ∧ c'.Within c

theorem Alike.holds_eq {c c' : Condition} (h : c.Alike c') (hc : c.Suited) (hc' : c'.Suited)
    (v : Vine) : c.holds v = c'.holds v := by
  obtain ⟨answer, hanswer, -⟩ := holds_of_suited hc v
  obtain ⟨other, hother, -⟩ := holds_of_suited hc' v
  exact eq_of_ok_true_iff ⟨answer, hanswer⟩ ⟨other, hother⟩
    ⟨h.1.holds hc hc', h.2.holds hc' hc⟩

end Condition

namespace Filter

/-- Every condition of the second filter has one of the first within it, and there is one. -/
structure Within (f f' : Filter) : Prop where
  ne_nil : f'.conditions ≠ []
  exists_within : ∀ c' ∈ f'.conditions, ∃ c ∈ f.conditions, c.Within c'

/-- A vine that passes a filter passes every one that it is within. -/
theorem Within.passes {f f' : Filter} (h : f.Within f') (hf : f.Suited) (hf' : f'.Suited)
    {v : Vine} (hpasses : f.passes v = .ok true) : f'.passes v = .ok true := by
  rw [passes_eq_true_iff hf] at hpasses
  rw [passes_eq_true_iff hf']
  refine ⟨h.ne_nil, ?_⟩
  intro c' hc'
  obtain ⟨c, hc, hwithin⟩ := h.exists_within c' hc'
  exact hwithin.fulfils (hpasses.2 c hc)

/-- The filters have the same conditions, in any order and number, up to the order and number of
their alternatives. -/
structure Alike (f f' : Filter) : Prop where
  exists_right : ∀ c ∈ f.conditions, ∃ c' ∈ f'.conditions, c.Alike c'
  exists_left : ∀ c' ∈ f'.conditions, ∃ c ∈ f.conditions, c.Alike c'

theorem Alike.symm {f f' : Filter} (h : f.Alike f') : f'.Alike f where
  exists_right c' hc' := by
    obtain ⟨c, hc, hwithin, hwithin'⟩ := h.exists_left c' hc'
    exact ⟨c, hc, hwithin', hwithin⟩
  exists_left c hc := by
    obtain ⟨c', hc', hwithin, hwithin'⟩ := h.exists_right c hc
    exact ⟨c', hc', hwithin', hwithin⟩

theorem Alike.within {f f' : Filter} (h : f.Alike f') (hne : f.conditions ≠ []) : f.Within f' where
  ne_nil := by
    obtain ⟨c, hc⟩ := List.exists_mem_of_ne_nil _ hne
    obtain ⟨c', hc', -⟩ := h.exists_right c hc
    exact List.ne_nil_of_mem hc'
  exists_within c' hc' := by
    obtain ⟨c, hc, hwithin, -⟩ := h.exists_left c' hc'
    exact ⟨c, hc, hwithin⟩

theorem Alike.passes {f f' : Filter} (h : f.Alike f') (hf : f.Suited) (hf' : f'.Suited)
    {v : Vine} (hpasses : f.passes v = .ok true) : f'.passes v = .ok true :=
  (h.within ((passes_eq_true_iff hf v).mp hpasses).1).passes hf hf' hpasses

theorem Alike.passes_eq {f f' : Filter} (h : f.Alike f') (hf : f.Suited) (hf' : f'.Suited)
    (v : Vine) : f.passes v = f'.passes v := by
  obtain ⟨answer, hanswer, -⟩ := passes_of_suited hf v
  obtain ⟨other, hother, -⟩ := passes_of_suited hf' v
  exact eq_of_ok_true_iff ⟨answer, hanswer⟩ ⟨other, hother⟩
    ⟨h.passes hf hf', h.symm.passes hf' hf⟩

/-- Conditions that were built from sections are monotone in their alternatives: a vine that fulfils
one fulfils every one that it is within.  So is passing a filter, as far as there is a condition,
and neither the order of alternatives and conditions nor their number has a say in any answer. -/
theorem answers_monotone_in_alternatives (v : Vine) :
    (∀ c c' : Condition, c.Configured → c'.Configured → c.Within c' →
        c.holds v = .ok true → c'.holds v = .ok true) ∧
      (∀ f f' : Filter, f.Configured → f'.Configured → f.Within f' →
        f.passes v = .ok true → f'.passes v = .ok true) ∧
      (∀ c c' : Condition, c.Configured → c'.Configured → c.Alike c' → c.holds v = c'.holds v) ∧
      ∀ f f' : Filter, f.Configured → f'.Configured → f.Alike f' → f.passes v = f'.passes v := by
  refine ⟨?_, ?_, ?_, ?_⟩
  · intro c c' hc hc' hwithin hholds
    exact hwithin.holds hc.suited hc'.suited hholds
  · intro f f' hf hf' hwithin hpasses
    exact hwithin.passes hf.suited hf'.suited hpasses
  · intro c c' hc hc' halike
    exact halike.holds_eq hc.suited hc'.suited v
  · intro f f' hf hf' halike
    exact halike.passes_eq hf.suited hf'.suited v

/-- A phrase is looked for in any relation instead of one and with more modifiers, a condition on a
verb is left out, and then both conditions are written twice over. -/
theorem answers_monotone_in_alternatives_peppers :
    let produce (more : Members) := Json.object ([
      ("type", .string "target_word_in_grammar_dependency"),
      ("field", .string "dependent")] ++ more)
    let verb := Json.object [("type", .string "tag_in_grammar_dependency"),
      ("tags", .array [.string "VB", .string "VBG"]), ("relations", .string "dobj")]
    let narrow := produce [("target_words", .string "green pepper"),
      ("relations", .array [.string "dobj"])]
    let wide := produce [("target_words", .array [.string "kale", .string "green pepper"])]
    let twice := produce [("target_words", .array [.string "green pepper", .string "green pepper"]),
      ("relations", .string "dobj")]
    let document := Json.object [("id", .string "1"), ("url", .string ""), ("text", .string ""),
      ("scrubbed_text", .string ""), ("pos_tags", .array [.string "VB-Chop"]),
      ("grammar_dependencies", .array [.string "amod(pepper-2,green-1)",
        .string "dobj(Chop-0,pepper-2)"])]
    ∃ v c c' repeated f f' again, Vine.ofDocument document = .ok v ∧
      Definition.condition ["amod"] "f" "produce" narrow = .ok c ∧ c.holds v = .ok true ∧
      Definition.condition ["nn", "amod"] "f" "produce" wide = .ok c' ∧ c'.holds v = .ok true ∧
      Definition.condition ["amod", "amod"] "f" "produce" twice = .ok repeated ∧
      c.holds v = repeated.holds v ∧
      Definition.filter ["amod"] "f" (.object [("produce", narrow), ("verb", verb)]) = .ok f ∧
      f.passes v = .ok true ∧
      Definition.filter ["nn", "amod"] "f" (.object [("produce", wide)]) = .ok f' ∧
      f'.passes v = .ok true ∧
      Definition.filter ["amod", "amod"] "f"
        (.object [("verb", verb), ("again", verb), ("produce", twice)]) = .ok again ∧
      f.passes v = again.passes v := by
  intro produce verb narrow wide twice document
  let c : Condition := .phrase ["green pepper"] (some ["dobj"]) .dependent ["amod"]
  let c' : Condition := .phrase ["kale", "green pepper"] none .dependent ["nn", "amod"]
  let tag : Condition := .endpointTag ["VB", "VBG"] ["dobj"] .governor
  let repeated : Condition :=
    .phrase ["green pepper", "green pepper"] (some ["dobj"]) .dependent ["amod", "amod"]
  let f : Filter := ⟨"f", [c, tag]⟩
  let f' : Filter := ⟨"f", [c']⟩
  let again : Filter := ⟨"f", [tag, tag, repeated]⟩
  obtain ⟨v, hv⟩ : ∃ v, Vine.ofDocument document = .ok v := ⟨_, rfl⟩
  have hc : Definition.condition ["amod"] "f" "produce" narrow = .ok c := by rfl
  have hc' : Definition.condition ["nn", "amod"] "f" "produce" wide = .ok c' := by rfl
  have htwice : Definition.condition ["amod", "amod"] "f" "produce" twice = .ok repeated := by rfl
  have hf : Definition.filter ["amod"] "f" (.object [("produce", narrow), ("verb", verb)]) =
    .ok f := by rfl
  have hf' : Definition.filter ["nn", "amod"] "f" (.object [("produce", wide)]) = .ok f' := by rfl
  have hagain : Definition.filter ["amod", "amod"] "f"
    (.object [("verb", verb), ("again", verb), ("produce", twice)]) = .ok again := by rfl
  have hholds : c.holds v = .ok true := by
    obtain rfl := Except.ok.inj hv
    rfl
  have hpasses : f.passes v = .ok true := by
    obtain rfl := Except.ok.inj hv
    rfl
  have hwithin : c.Within c' := .phrase (by simp) .any (by simp)
  have htag : tag.Alike tag := ⟨.endpointTag (by simp) (by simp), .endpointTag (by simp) (by simp)⟩
  have hrepeated : c.Alike repeated :=
    ⟨.phrase (by simp) (.listed (by simp)) (by simp),
      .phrase (by simp) (.listed (by simp)) (by simp)⟩
  have hfwithin : f.Within f' := ⟨by simp [f'], by simp [f, f', hwithin]⟩
  have halike : f.Alike again :=
    ⟨by simp [f, again, htag, hrepeated], by simp [f, again, htag, hrepeated]⟩
  obtain ⟨hcondition, hfilter, halternatives, hsame⟩ := answers_monotone_in_alternatives v
  exact ⟨v, c, c', repeated, f, f', again, hv, hc, hholds, hc',
    hcondition c c' ⟨_, _, _, _, hc⟩ ⟨_, _, _, _, hc'⟩ hwithin hholds, htwice,
    halternatives c repeated ⟨_, _, _, _, hc⟩ ⟨_, _, _, _, htwice⟩ hrepeated, hf, hpasses, hf',
    hfilter f f' ⟨_, _, _, hf⟩ ⟨_, _, _, hf'⟩ hfwithin hpasses, hagain,
    hsame f again ⟨_, _, _, hf⟩ ⟨_, _, _, hagain⟩ halike⟩

end Filter

end GrammarSieve
