import CardQuery.Mapping.OfConcept

/-!
# What concepts are mapped to

The kind of a concept decides on which operator its mapping is.  A kind of deck
has hints on several operators, each with its share of the confidence.
-/

namespace CardQuery

theorem Mapping.joined_of_concept (joiner : Joiner) (operator : Text)
    (parts : List Text) (confidence : Binary64) (source : ConceptKind)
    (concept : Option Concept) :
    (joined joiner operator parts confidence source concept).operator =
        operator ∧
      (joined joiner operator parts confidence source concept).confidence =
        confidence ∧
      (joined joiner operator parts confidence source concept).source =
        source := by
  unfold joined
  split <;> exact ⟨rfl, rfl, rfl⟩

private theorem Mapping.joined_sourceConcept (joiner : Joiner) (operator : Text)
    (parts : List Text) (confidence : Binary64) (source : ConceptKind)
    (concept : Option Concept) :
    (joined joiner operator parts confidence source concept).sourceConcept =
      concept := by
  unfold joined
  split <;> rfl

theorem Mapping.joined_negated (joiner : Joiner) (operator : Text)
    (parts : List Text) (confidence : Binary64) (source : ConceptKind)
    (concept : Option Concept) :
    (joined joiner operator parts confidence source concept).negated =
      false := by
  unfold joined
  split <;> rfl

/-- What is the same in all mappings that a concept of colors can have. -/
theorem ColorConcept.mapping?_cases {concept : ColorConcept}
    {mapping : Mapping} (found : concept.mapping? = some mapping) :
    mapping.operator = "c".toList ∧ mapping.source = .color ∧
      mapping.sourceConcept = some (.color concept) := by
  simp only [ColorConcept.mapping?] at found
  rw [Option.ite_none_left_eq_some] at found
  rw [← Option.some.inj found.2]
  exact ⟨rfl, rfl, rfl⟩

theorem ColorConcept.operator_of_mapping? {concept : ColorConcept}
    {mapping : Mapping} (found : concept.mapping? = some mapping) :
    mapping.operator = "c".toList :=
  (mapping?_cases found).1

/-- What is the same in all mappings that a concept of a type can have. -/
theorem TypeConcept.mapping_cases (concept : TypeConcept) :
    concept.mapping.operator ∈ ["t".toList, "function"] ∧
      concept.mapping.confidence = concept.confidence ∧
      concept.mapping.source = .cardType := by
  have onTypes : "t".toList ∈ ["t".toList, "function"] := List.mem_cons_self
  have onFunctions : "function".toList ∈ ["t".toList, "function"] := by decide
  unfold mapping
  dsimp only
  split
  · split
    · exact ⟨onTypes, rfl, rfl⟩
    · split
      · obtain ⟨operator, confidence, source⟩ := Mapping.joined_of_concept .or
          "t" (Text.split " OR " (concept.cardType.getD [])) concept.confidence
          .cardType (some (.cardType concept))
        exact ⟨by rw [operator]; exact onTypes, confidence, source⟩
      · exact ⟨onTypes, rfl, rfl⟩
  · exact ⟨onFunctions, rfl, rfl⟩

theorem TypeConcept.sourceConcept_mapping (concept : TypeConcept) :
    concept.mapping.sourceConcept = some (.cardType concept) := by
  unfold mapping
  dsimp only
  split
  · split
    · rfl
    · split
      · exact Mapping.joined_sourceConcept _ _ _ _ _ _
      · rfl
  · rfl

/-- What is the same in all mappings that a price can have. -/
theorem PriceConcept.mapping?_cases {concept : PriceConcept}
    {mapping : Mapping} (found : concept.mapping? = some mapping) :
    mapping.operator = concept.currency.name ∧ mapping.source = .price ∧
      mapping.sourceConcept = some (.price concept) := by
  unfold PriceConcept.mapping? at found
  dsimp only at found
  split at found
  · split at found <;> rw [← Option.some.inj found] <;> exact ⟨rfl, rfl, rfl⟩
  · rw [← Option.some.inj found]
    exact ⟨rfl, rfl, rfl⟩
  · rw [← Option.some.inj found]
    exact ⟨rfl, rfl, rfl⟩
  · cases found

theorem PriceConcept.operator_of_mapping? {concept : PriceConcept}
    {mapping : Mapping} (found : concept.mapping? = some mapping) :
    mapping.operator = concept.currency.name :=
  (mapping?_cases found).1

namespace ArchetypeConcept

variable {concept : ArchetypeConcept} {mapping : Mapping}

theorem of_mem_hints {joiner : Joiner} {operator : Text} {share : Nat}
    {values : List Text}
    (hinted : mapping ∈ concept.hints joiner operator share values) :
    mapping.operator = operator ∧
      mapping.confidence =
        concept.confidence * .ofDecimal false share (-1) ∧
      mapping.source = .archetype := by
  rw [hints] at hinted
  split at hinted
  · cases hinted
  · rw [List.mem_singleton.mp hinted]
    exact Mapping.joined_of_concept _ _ _ _ _ _

/-- A kind of deck bounds the mana value and the power, and hints at values on
three other operators. -/
theorem cases_of_mem_mappings (member : mapping ∈ concept.mappings) :
    (∃ bound, mapping = concept.hint "mv" 8 bound .le) ∨
      (∃ bound, mapping = concept.hint "pow" 7 bound .ge) ∨
      ∃ joiner share values,
        mapping ∈ concept.hints joiner "o" share values ∨
        mapping ∈ concept.hints joiner "function" share values ∨
        share = 9 ∧ mapping ∈ concept.hints joiner "t" share values := by
  simp only [mappings, List.mem_append, Option.mem_toList,
    Option.map_eq_some_iff] at member
  rcases member with
    (((⟨range, _, rfl⟩ | ⟨power, _, rfl⟩) | keywords) | functions) | types
  · exact Or.inl ⟨_, rfl⟩
  · exact Or.inr (Or.inl ⟨_, rfl⟩)
  · exact Or.inr (Or.inr ⟨_, _, _, Or.inl keywords⟩)
  · exact Or.inr (Or.inr ⟨_, _, _, Or.inr (Or.inl functions)⟩)
  · split at types
    · exact Or.inr (Or.inr ⟨_, _, _, Or.inr (Or.inr ⟨rfl, types⟩)⟩)
    · exact Or.inr (Or.inr ⟨_, _, _, Or.inr (Or.inr ⟨rfl, types⟩)⟩)

theorem sourceConcept_of_mem_mappings (member : mapping ∈ concept.mappings) :
    mapping.sourceConcept = some (.archetype concept) := by
  have hinted {joiner : Joiner} {operator : Text} {share : Nat}
      {values : List Text}
      (isHint : mapping ∈ concept.hints joiner operator share values) :
      mapping.sourceConcept = some (.archetype concept) := by
    rw [hints] at isHint
    split at isHint
    · cases isHint
    · rw [List.mem_singleton.mp isHint]
      exact Mapping.joined_sourceConcept _ _ _ _ _ _
  rcases cases_of_mem_mappings member with
    ⟨_, rfl⟩ | ⟨_, rfl⟩ | ⟨_, _, _, keywords | functions | ⟨_, types⟩⟩
  · rfl
  · rfl
  · exact hinted keywords
  · exact hinted functions
  · exact hinted types

end ArchetypeConcept

end CardQuery
