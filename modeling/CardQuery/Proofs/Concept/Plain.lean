import CardQuery.Concept.Reading
import CardQuery.Proofs.Number.Whole
import CardQuery.Proofs.Operator.SymbolFree
import CardQuery.Proofs.Outcome

/-!
# Plain readings

All words that a reading takes from a text are those of the tables, and none of
them holds a symbol.  The numbers that it takes are read from digits, so their
decimal texts can be read again.
-/

namespace CardQuery

open Lexeme

/-- A number of cards that is whole and readable. -/
def IsCount (value : Int) : Prop :=
  ∃ number : Nat, value = number ∧ IsReadable number

/-- A reading with words that hold no symbol and powers that are readable. -/
structure Reading.IsPlain (reading : Reading) : Prop where
  types : ∀ concept ∈ reading.types,
    isSymbolFree (concept.cardType.getD []) = true ∧
      isSymbolFree (concept.supertype.getD []) = true ∧
      isSymbolFree (concept.function.getD []) = true
  subtypes : ∀ concept ∈ reading.subtypes, isSymbolFree concept.subtype = true
  keywords : ∀ concept ∈ reading.keywords, isSymbolFree concept.keyword = true
  archetypes : ∀ concept ∈ reading.archetypes,
    (∀ word ∈ concept.constraints.keywords ++ concept.constraints.functions ++
        concept.constraints.cardTypes ++ concept.constraints.subtypes,
      isSymbolFree word = true) ∧
    ∀ power ∈ concept.constraints.powerMin, IsCount power
  stats : ∀ concept ∈ reading.stats, IsCount concept.value

private theorem isCount_of_readNumber {text : Text} {number : Nat}
    (read : readNumber text = .ok number) : IsCount number :=
  ⟨number, rfl, isReadable_of_readNumber read⟩

private theorem isCount_two : IsCount 2 := by
  refine ⟨2, rfl, ?_⟩
  calc
    2 < 10 ^ 1 := by decide
    _ ≤ 10 ^ longestNumber := Nat.pow_le_pow_right (by decide) (by decide)

namespace TypeConcept

theorem mem_of_mem_firstKeys {seen : List Text} {concepts : List TypeConcept}
    {concept : TypeConcept} (member : concept ∈ firstKeys seen concepts) :
    concept ∈ concepts := by
  induction concepts generalizing seen with
  | nil => cases member
  | cons first rest ih =>
      rw [firstKeys] at member
      split at member
      · exact List.mem_cons_of_mem first (ih member)
      · rcases List.mem_cons.mp member with rfl | later
        · exact List.mem_cons_self
        · exact List.mem_cons_of_mem first (ih later)

private theorem exists_phrase_of_mem_extract {table : List TypePhrase}
    {text : Text}
    {concept : TypeConcept} (member : concept ∈ extract table text) :
    ∃ phrase ∈ table, concept.cardType = phrase.cardType ∧
      concept.supertype = phrase.supertype ∧
      concept.function = phrase.function := by
  have found := mem_of_mem_firstKeys member
  obtain ⟨phrase, among, rfl⟩ := List.mem_map.mp found
  exact ⟨phrase, (List.mem_filter.mp among).1, rfl, rfl, rfl⟩

end TypeConcept

namespace StatConcept

private theorem isCount_of_ofRule? {text : Text} {rule : StatRule}
    {found : Option StatConcept} (isFound : ofRule? text rule = .ok found) :
    ∀ concept ∈ found, IsCount concept.value := by
  rw [ofRule?] at isFound
  split at isFound
  next digits more _ =>
    obtain ⟨number, read, same⟩ := Outcome.bind_eq_ok_iff.mp isFound
    rw [← Except.ok.inj same]
    intro concept isConcept
    rw [← Option.some.inj isConcept]
    exact isCount_of_readNumber read
  next =>
    rw [← Except.ok.inj isFound]
    simp

private theorem isCount_of_addRules {text : Text}
    {known found : List StatConcept}
    {rules : List StatRule} (isFound : addRules text known rules = .ok found)
    (ofKnown : ∀ concept ∈ known, IsCount concept.value) :
    ∀ concept ∈ found, IsCount concept.value := by
  induction rules generalizing known with
  | nil =>
      rw [← Except.ok.inj isFound]
      exact ofKnown
  | cons rule rest ih =>
      rw [addRules] at isFound
      split at isFound
      · exact ih isFound ofKnown
      · obtain ⟨added, ruled, later⟩ := Outcome.bind_eq_ok_iff.mp isFound
        apply ih later
        intro concept member
        rcases List.mem_append.mp member with inKnown | isAdded
        · exact ofKnown concept inKnown
        · exact isCount_of_ofRule? ruled concept (Option.mem_toList.mp isAdded)

private theorem isCount_of_addPair {text : Text}
    {known found : List StatConcept}
    (isFound : addPair text known = .ok found)
    (ofKnown : ∀ concept ∈ known, IsCount concept.value) :
    ∀ concept ∈ found, IsCount concept.value := by
  rw [addPair] at isFound
  split at isFound
  next power toughness _ =>
    obtain ⟨first, readPower, later⟩ := Outcome.bind_eq_ok_iff.mp isFound
    obtain ⟨second, readToughness, same⟩ := Outcome.bind_eq_ok_iff.mp later
    rw [← Except.ok.inj same]
    intro concept member
    rcases List.mem_append.mp member with inKnown | inPair
    · exact ofKnown concept inKnown
    · have isPair := (List.mem_filter.mp inPair).1
      simp only [List.mem_cons, List.not_mem_nil, or_false] at isPair
      rcases isPair with rfl | rfl
      · exact isCount_of_readNumber readPower
      · exact isCount_of_readNumber readToughness
  next =>
    rw [← Except.ok.inj isFound]
    exact ofKnown

private theorem isCount_of_extract {text : Text} {found : List StatConcept}
    (isFound : extract text = .ok found) :
    ∀ concept ∈ found, IsCount concept.value := by
  obtain ⟨ruled, areRules, paired⟩ := Outcome.bind_eq_ok_iff.mp isFound
  exact isCount_of_addPair paired (isCount_of_addRules areRules (by simp))

end StatConcept

namespace Reading

private theorem isPlain_empty (text : Text) : (empty text).IsPlain := by
  constructor <;> simp [empty]

private theorem isPlain_types (text : Text) :
    ∀ concept ∈ TypeConcept.extract TypePhrase.table text,
      isSymbolFree (concept.cardType.getD []) = true ∧
        isSymbolFree (concept.supertype.getD []) = true ∧
        isSymbolFree (concept.function.getD []) = true := by
  have plain : ∀ phrase ∈ TypePhrase.table,
      isSymbolFree (phrase.cardType.getD []) = true ∧
        isSymbolFree (phrase.supertype.getD []) = true ∧
        isSymbolFree (phrase.function.getD []) = true := by
    decide
  intro concept member
  obtain ⟨phrase, among, cardType, supertype, function⟩ :=
    TypeConcept.exists_phrase_of_mem_extract member
  rw [cardType, supertype, function]
  exact plain phrase among

private theorem isPlain_subtypes (text : Text) :
    ∀ concept ∈ SubtypeConcept.extract SubtypePhrase.table text,
      isSymbolFree concept.subtype = true := by
  have plain : ∀ phrase ∈ SubtypePhrase.table,
      isSymbolFree phrase.subtype = true := by
    decide
  intro concept member
  obtain ⟨phrase, among, rfl⟩ := List.mem_map.mp member
  exact plain phrase (List.mem_filter.mp among).1

private theorem isPlain_keywords (text : Text) :
    ∀ concept ∈ KeywordConcept.extract KeywordConcept.table text,
      isSymbolFree concept.keyword = true := by
  have plain : ∀ keyword ∈ KeywordConcept.table,
      isSymbolFree (Text.trim keyword) = true := by
    decide
  intro concept member
  obtain ⟨keyword, among, rfl⟩ := List.mem_map.mp member
  exact plain keyword (List.mem_filter.mp among).1

private theorem isPlain_archetypes (text : Text) :
    ∀ concept ∈ ArchetypeConcept.extract Archetype.table text,
      (∀ word ∈ concept.constraints.keywords ++ concept.constraints.functions ++
          concept.constraints.cardTypes ++ concept.constraints.subtypes,
        isSymbolFree word = true) ∧
      ∀ power ∈ concept.constraints.powerMin, IsCount power := by
  have plain : ∀ archetype ∈ Archetype.table,
      (∀ word ∈ archetype.constraints.keywords ++
          archetype.constraints.functions ++ archetype.constraints.cardTypes ++
          archetype.constraints.subtypes, isSymbolFree word = true) ∧
        archetype.constraints.powerMin.all (· == 2) = true := by
    decide
  intro concept member
  obtain ⟨archetype, among, rfl⟩ := List.mem_map.mp member
  obtain ⟨words, powers⟩ := plain archetype (List.mem_filter.mp among).1
  refine ⟨words, ?_⟩
  intro power isPower
  rw [isPower] at powers
  rw [beq_iff_eq.mp powers]
  exact isCount_two

theorem isPlain_of_ofText {text : Text} {reading : Reading}
    (read : ofText text = .ok reading) : reading.IsPlain := by
  rw [ofText] at read
  dsimp only at read
  split at read
  · rw [← Except.ok.inj read]
    exact isPlain_empty text
  · obtain ⟨stats, areStats, same⟩ := Outcome.bind_eq_ok_iff.mp read
    rw [← Except.ok.inj same]
    exact
      { types := isPlain_types _
        subtypes := isPlain_subtypes _
        keywords := isPlain_keywords _
        archetypes := isPlain_archetypes _
        stats := StatConcept.isCount_of_extract areStats }

end Reading

end CardQuery
