/-
The written form of an edge and its decoding.  They are inverse on exactly the spellable edges,
as far as positions can be written, and decoding gives no others.  What decoding drops from a text,
it drops once: the written form of a decoded edge decodes to that edge again.
-/
import GrammarSieve.Proofs.Edge.Grammar
import GrammarSieve.Proofs.Token
import GrammarSieve.Edge.Endpoint

namespace GrammarSieve.Edge

/-- Both positions are small enough to be written. -/
structure Writable (e : Edge) : Prop where
  governor_lt : e.governor.position < 10 ^ Text.digitLimit
  dependent_lt : e.dependent.position < 10 ^ Text.digitLimit

theorem Spelling.short_plain_iff {e : Edge} : (plain e).Short ↔ e.Writable := by
  constructor
  · rintro ⟨hgovernor, hdependent⟩
    exact ⟨WrittenIndex.short_ofNat_iff.mp hgovernor, WrittenIndex.short_ofNat_iff.mp hdependent⟩
  · rintro ⟨hgovernor, hdependent⟩
    exact ⟨WrittenIndex.short_ofNat_iff.mpr hgovernor, WrittenIndex.short_ofNat_iff.mpr hdependent⟩

/-- The written form is the plain spelling. -/
theorem chars?_eq_some_iff {e : Edge} {chars : List Char} :
    e.chars? = some chars ↔ e.Writable ∧ chars = (Spelling.plain e).chars e := by
  have hplain : (Spelling.plain e).chars e = e.relation.toList ++
      '(' :: (e.governor.token.toList ++ '-' :: Text.decimal e.governor.position) ++
        ',' :: (e.dependent.token.toList ++ '-' :: Text.decimal e.dependent.position) ++ [')'] := by
    simp [Spelling.chars, Spelling.plain, WrittenIndex.ofNat, WrittenIndex.chars]
  rw [hplain]
  constructor
  · intro h
    rw [chars?] at h
    split at h
    · next governor dependent hgovernor hdependent =>
        obtain ⟨hfirst, rfl⟩ := EnumeratedToken.chars?_eq_some_iff.mp hgovernor
        obtain ⟨hlast, rfl⟩ := EnumeratedToken.chars?_eq_some_iff.mp hdependent
        exact ⟨⟨hfirst, hlast⟩, (Option.some.inj h).symm⟩
    · contradiction
  · rintro ⟨⟨hfirst, hlast⟩, rfl⟩
    have hgovernor := EnumeratedToken.chars?_eq_some_iff.mpr ⟨hfirst, rfl⟩
    have hdependent := EnumeratedToken.chars?_eq_some_iff.mpr ⟨hlast, rfl⟩
    simp only [chars?, hgovernor, hdependent]

theorem text?_eq_some_iff {e : Edge} {text : String} :
    e.text? = some text ↔ e.Writable ∧ text.toList = (Spelling.plain e).chars e := by
  simp only [text?, Option.map_eq_some_iff, chars?_eq_some_iff]
  constructor
  · rintro ⟨chars, ⟨hwritable, rfl⟩, rfl⟩
    exact ⟨hwritable, String.toList_ofList⟩
  · rintro ⟨hwritable, htext⟩
    exact ⟨text.toList, ⟨hwritable, htext⟩, String.ofList_toList⟩

theorem Writable.exists_text? {e : Edge} (h : e.Writable) : ∃ text, e.text? = some text :=
  ⟨String.ofList ((Spelling.plain e).chars e), text?_eq_some_iff.mpr ⟨h, String.toList_ofList⟩⟩

theorem Spellable.decode_text? {e : Edge} (h : Spellable e) {text : String}
    (htext : e.text? = some text) : decode text = .ok e := by
  obtain ⟨hwritable, hchars⟩ := text?_eq_some_iff.mp htext
  exact decode_of_legible ⟨h, .plain e, Spelling.short_plain_iff.mpr hwritable,
    WrittenIndex.value_ofNat _, WrittenIndex.value_ofNat _, hchars⟩

/-- What has been read can be written. -/
theorem writable_of_decode {encoding : String} {e : Edge} (h : decode encoding = .ok e) :
    e.Writable := by
  obtain ⟨-, s, ⟨hgovernor, hdependent⟩, hgovernorValue, hdependentValue, -⟩ := legible_of_decode h
  exact ⟨hgovernorValue ▸ hgovernor.value_lt, hdependentValue ▸ hdependent.value_lt⟩

theorem Spellable.eq_of_text?_eq {a b : Edge} (ha : Spellable a) (hb : Spellable b) {text : String}
    (hatext : a.text? = some text) (hbtext : b.text? = some text) : a = b := by
  have hdecode : (Except.ok a : Except DecodeError Edge) = .ok b := by
    rw [← ha.decode_text? hatext, hb.decode_text? hbtext]
  exact Except.ok.inj hdecode

/-- An edge has a written form exactly if its positions can be written.  The written form and
decoding are inverse on exactly the spellable edges among them; every decoded edge is one of them
and decodes from its written form again; and decoded edges are the same, whatever vines they belong
to, exactly if their written forms are. -/
theorem decode_text_exact (e : Edge) :
    ((∃ text, e.text? = some text) ↔ e.Writable) ∧
      (∀ text : String, e.text? = some text → (decode text = .ok e ↔ Spellable e)) ∧
      (∀ encoding : String, decode encoding = .ok e →
        Spellable e ∧ ∃ text, e.text? = some text ∧ decode text = .ok e) ∧
      (∀ (first second : String) (owner : Option (List TaggedToken)) (b : OwnedEdge),
        decode first = .ok e → decode second = .ok b.edge →
          (OwnedEdge.same ⟨e, owner⟩ b = true ↔ e.text? = b.edge.text?)) := by
  refine ⟨⟨fun ⟨_, h⟩ => (text?_eq_some_iff.mp h).1, Writable.exists_text?⟩, ?_, ?_, ?_⟩
  · exact fun text htext =>
      ⟨fun h => (spells_of_decode h).spellable, fun h => h.decode_text? htext⟩
  · intro encoding h
    have hspellable := (spells_of_decode h).spellable
    obtain ⟨text, htext⟩ := (writable_of_decode h).exists_text?
    exact ⟨hspellable, text, htext, hspellable.decode_text? htext⟩
  · intro first second owner b he hb
    rw [OwnedEdge.same, decide_eq_true_iff]
    constructor
    · exact fun h => congrArg text? h
    · intro h
      obtain ⟨text, htext⟩ := (writable_of_decode he).exists_text?
      exact (spells_of_decode he).spellable.eq_of_text?_eq (spells_of_decode hb).spellable htext
        (h ▸ htext)

/-- Two spellings of one edge, in a vine and outside of any. -/
theorem decode_text_exact_dollars :
    let edge : Edge := ⟨"num", ⟨"dollars", 3⟩, ⟨"000", 2⟩⟩
    decode "num(dollars-3',1,000-02'')" = .ok edge ∧ decode "num(dollars-3,000-2)" = .ok edge ∧
      Spellable edge ∧ (∃ text, edge.text? = some text ∧ decode text = .ok edge) ∧
      (OwnedEdge.same ⟨edge, none⟩ ⟨edge, some []⟩ = true ↔ edge.text? = edge.text?) := by
  intro edge
  have hfirst : decode "num(dollars-3',1,000-02'')" = .ok edge := by rfl
  have hsecond : decode "num(dollars-3,000-2)" = .ok edge := by rfl
  obtain ⟨-, -, hdecoded, hsame⟩ := decode_text_exact edge
  exact ⟨hfirst, hsecond, (hdecoded _ hfirst).1, (hdecoded _ hfirst).2,
    hsame _ _ none ⟨edge, some []⟩ hfirst hsecond⟩

/-- A spellable edge whose first position has one digit more than can be written or read. -/
theorem decode_text_too_long :
    let edge : Edge := ⟨"nn", ⟨"a", 10 ^ Text.digitLimit⟩, ⟨"b", 2⟩⟩
    Spellable edge ∧ (¬ ∃ text, edge.text? = some text) ∧
      ∃ count, decode (String.ofList ((Spelling.plain edge).chars edge)) =
        .error (.longIndex count) := by
  intro edge
  have hspellable : Spellable edge :=
    { relation_ne_empty := by simp [edge]
      paren_not_mem_relation := by simp [edge]
      governor_ne_empty := by simp [edge]
      governor_anchorless := anchorless_of_hyphen_not_mem (by simp [edge])
      dependent_ne_empty := by simp [edge]
      comma_not_mem_dependent := by simp [edge] }
  have hbig : ¬ edge.governor.position < 10 ^ Text.digitLimit := Nat.lt_irrefl _
  have hlong : ¬ (Spelling.plain edge).governorIndex.Short :=
    mt WrittenIndex.short_ofNat_iff.mp hbig
  refine ⟨hspellable, fun ⟨text, htext⟩ => hbig (text?_eq_some_iff.mp htext).1.governor_lt, ?_⟩
  exact ⟨_, hspellable.decode_eq_long_governor hlong String.toList_ofList⟩

end GrammarSieve.Edge
