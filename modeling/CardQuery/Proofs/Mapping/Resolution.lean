import CardQuery.Proofs.Mapping.Grouping
import CardQuery.Proofs.Mapping.Validity

/-!
# Mappings of a reading

Whatever concepts a reading has, its mappings are on a few known operators, and
each of them has a term.  Only the mapping of a price compares its parts each in
its own way, and prices are never combined with other mappings, so resolving a
group cannot lose the parts that the comparisons belong to.
-/

namespace CardQuery

namespace Mapping

/-- The operators that concepts are mapped to. -/
def operators : List Text :=
  ["c", "t", "function", "f", "o", "mv", "pow", "tou", "usd", "eur", "tix"]

/-- A mapping on a known operator whose parts are written in its value, and
which has parts to compare wherever it compares its parts. -/
structure IsRegular (mapping : Mapping) : Prop where
  known : mapping.operator ∈ operators
  filled : mapping.parts ≠ [] → mapping.value ≠ []
  compared : mapping.comparisons = [] ∨
    mapping.parts ≠ [] ∧ mapping.operator ∉ combinedOperators

theorem values_ne_nil (mapping : Mapping) : mapping.values ≠ [] := by
  rw [values]
  split <;> simp_all

theorem IsRegular.terms_ne_nil {mapping : Mapping}
    (regular : mapping.IsRegular) : mapping.terms ≠ [] := by
  rw [terms]
  rcases regular.compared with none | ⟨parts, _⟩
  · simpa [none] using mapping.values_ne_nil
  · split
    · simpa using mapping.values_ne_nil
    · simp_all [List.zip_eq_nil_iff]

/-- Several parts are joined to something, whatever they are. -/
theorem join_ne_nil (joiner : Joiner) {parts : List Text}
    (nonempty : parts ≠ []) (notSingle : ∀ only, parts ≠ [only]) :
    joiner.join parts ≠ [] := by
  match parts with
  | [] => contradiction
  | [only] => exact absurd rfl (notSingle only)
  | first :: second :: rest =>
      simp [Joiner.join, Text.join, List.intercalate]

private theorem isRegular_single {operator : Text}
    (known : operator ∈ operators)
    (value : Text) (comparison : Option Comparison) (confidence : Binary64)
    (source : ConceptKind) (concept : Option Concept) :
    (single operator value comparison confidence source concept).IsRegular where
  known := known
  filled := by simp [single]
  compared := Or.inl rfl

private theorem isRegular_joined {operator : Text}
    (known : operator ∈ operators)
    (joiner : Joiner) (parts : List Text) (confidence : Binary64)
    (source : ConceptKind) (concept : Option Concept) :
    (joined joiner operator parts confidence source concept).IsRegular := by
  unfold joined
  split
  next => exact isRegular_single known _ _ _ _ _
  next notSingle =>
    exact ⟨known, fun nonempty => join_ne_nil joiner nonempty notSingle,
      Or.inl rfl⟩

end Mapping

open Mapping

section

private theorem ColorConcept.isRegular_mapping? {concept : ColorConcept}
    {mapping : Mapping} (found : mapping ∈ concept.mapping?) :
    mapping.IsRegular := by
  simp only [ColorConcept.mapping?, Option.mem_def] at found
  rw [Option.ite_none_left_eq_some] at found
  rw [← Option.some.inj found.2]
  exact isRegular_single (by decide) _ _ _ _ _

private theorem TypeConcept.isRegular_mapping (concept : TypeConcept) :
    concept.mapping.IsRegular := by
  unfold TypeConcept.mapping
  dsimp only
  split
  · split
    · exact isRegular_single (by decide) _ _ _ _ _
    · split
      · exact isRegular_joined (by decide) _ _ _ _ _
      · exact ⟨by simp [single, operators], by simp [single], Or.inl rfl⟩
  · exact isRegular_single (by decide) _ _ _ _ _

private theorem PriceConcept.isRegular_mapping? {concept : PriceConcept}
    {mapping : Mapping} (found : mapping ∈ concept.mapping?) :
    mapping.IsRegular := by
  have known : concept.currency.name ∈ operators := by
    cases concept.currency <;> decide
  have prices : concept.currency.name ∉ combinedOperators := by
    cases concept.currency <;> decide
  unfold PriceConcept.mapping? at found
  dsimp only at found
  split at found
  · split at found
    · rw [← Option.some.inj found]
      exact isRegular_single known _ _ _ _ _
    · rw [← Option.some.inj found]
      exact ⟨known, fun _ => join_ne_nil .and (by simp) (by simp),
        Or.inr ⟨by simp, prices⟩⟩
  · rw [← Option.some.inj found]
    exact isRegular_single known _ _ _ _ _
  · rw [← Option.some.inj found]
    exact isRegular_single known _ _ _ _ _
  · cases found

private theorem ArchetypeConcept.isRegular_of_mem_hints
    {concept : ArchetypeConcept}
    {joiner : Joiner} {operator : Text} (known : operator ∈ operators)
    {share : Nat} {values : List Text} {mapping : Mapping}
    (member : mapping ∈ concept.hints joiner operator share values) :
    mapping.IsRegular := by
  rw [hints] at member
  split at member
  · cases member
  · rw [List.mem_singleton.mp member]
    exact isRegular_joined known _ _ _ _ _

private theorem ArchetypeConcept.isRegular_of_mem_mappings
    {concept : ArchetypeConcept}
    {mapping : Mapping} (member : mapping ∈ concept.mappings) :
    mapping.IsRegular := by
  simp only [mappings, List.mem_append, Option.mem_toList,
    Option.map_eq_some_iff] at member
  rcases member with
    (((⟨range, _, rfl⟩ | ⟨power, _, rfl⟩) | keywords) | functions) | types
  · exact isRegular_single (by decide) _ _ _ _ _
  · exact isRegular_single (by decide) _ _ _ _ _
  · exact isRegular_of_mem_hints (by decide) keywords
  · exact isRegular_of_mem_hints (by decide) functions
  · split at types
    · exact isRegular_of_mem_hints (by decide) types
    · exact isRegular_of_mem_hints (by decide) types

end

/-- What holds of the mappings of every concept holds of all candidates. -/
theorem Reading.forall_mem_candidates {reading : Reading}
    {holds : Mapping → Prop}
    (ofColors : ∀ concept ∈ reading.colors,
      ∀ mapping ∈ concept.mapping?, holds mapping)
    (ofTypes : ∀ concept ∈ reading.types, holds concept.mapping)
    (ofSubtypes : ∀ concept ∈ reading.subtypes, holds concept.mapping)
    (ofPrices : ∀ concept ∈ reading.prices,
      ∀ mapping ∈ concept.mapping?, holds mapping)
    (ofFormats : ∀ concept ∈ reading.formats, holds concept.mapping)
    (ofKeywords : ∀ concept ∈ reading.keywords, holds concept.mapping)
    (ofStats : ∀ concept ∈ reading.stats, holds concept.mapping)
    (ofArchetypes : ∀ concept ∈ reading.archetypes, ∀ mapping ∈
      (concept.withSubtypes reading.creatureSubtypes).mappings,
        holds mapping) :
    ∀ mapping ∈ reading.candidates, holds mapping := by
  intro mapping member
  simp only [candidates, List.mem_append, List.mem_filterMap, List.mem_map,
    List.mem_flatMap] at member
  rcases member with ((((((⟨concept, among, found⟩ | ⟨concept, among, rfl⟩) |
    ⟨concept, among, rfl⟩) | ⟨concept, among, found⟩) |
    ⟨concept, among, rfl⟩) | ⟨concept, among, rfl⟩) |
    ⟨concept, among, rfl⟩) | ⟨concept, among, found⟩
  · exact ofColors concept among mapping found
  · exact ofTypes concept among
  · exact ofSubtypes concept among
  · exact ofPrices concept among mapping found
  · exact ofFormats concept among
  · exact ofKeywords concept among
  · exact ofStats concept among
  · exact ofArchetypes concept among mapping found

theorem Reading.isRegular_of_mem_candidates {reading : Reading} :
    ∀ mapping ∈ reading.candidates, mapping.IsRegular := by
  apply forall_mem_candidates
  · intro concept _ mapping found
    exact ColorConcept.isRegular_mapping? found
  · intro concept _
    exact concept.isRegular_mapping
  · intro concept _
    exact isRegular_single (by decide) _ _ _ _ _
  · intro concept _ mapping found
    exact PriceConcept.isRegular_mapping? found
  · intro concept _
    exact isRegular_single (by decide) _ _ _ _ _
  · intro concept _
    exact isRegular_single (by decide) _ _ _ _ _
  · intro concept _
    apply isRegular_single
    cases concept.stat <;> decide
  · intro concept _ mapping member
    exact ArchetypeConcept.isRegular_of_mem_mappings member

namespace Mapping

/-- Some mappings, all on one operator. -/
structure IsGroup (group : List Mapping) : Prop where
  nonempty : group ≠ []
  uniform : ∀ first ∈ group, ∀ second ∈ group,
    first.operator = second.operator

private theorem resolve_isRegular {first : Mapping} {rest : List Mapping}
    (isGroup : IsGroup (first :: rest))
    (regular : ∀ mapping ∈ first :: rest, mapping.IsRegular) :
    (resolve first rest).IsRegular := by
  have isBest := best_mem first rest
  have bestRegular := regular _ isBest
  rw [resolve]
  split
  · exact regular first List.mem_cons_self
  · split
    next letters =>
      rw [Bool.and_eq_true, List.all_eq_true] at letters
      have single := letters.2 _ isBest
      have noParts : (best first rest).parts = [] := by
        simp only [isLetterSet, Bool.and_eq_true, List.isEmpty_iff] at single
        exact single.1.1.1.2
      exact ⟨bestRegular.known, fun parts => absurd noParts parts,
        bestRegular.compared⟩
    next =>
      split
      next combinable =>
        rw [Bool.and_eq_true, List.contains_iff_mem] at combinable
        have same := isGroup.uniform first List.mem_cons_self _ isBest
        have uncompared : (best first rest).comparisons = [] := by
          rcases bestRegular.compared with none | ⟨_, apart⟩
          · exact none
          · exact absurd (same ▸ combinable.1) apart
        unfold combine
        split
        · exact ⟨bestRegular.known, by simp, Or.inl uncompared⟩
        next notSingle =>
          exact ⟨bestRegular.known, fun nonempty =>
            join_ne_nil .and nonempty notSingle, Or.inl uncompared⟩
      next => exact bestRegular

end Mapping

/-- Every mapping of a reading comes from a group of its candidates and is
accepted. -/
theorem Reading.mem_mappings {registry : Registry} {reading : Reading}
    {mapping : Mapping} (member : mapping ∈ reading.mappings registry) :
    (∃ first rest, mapping = resolve first rest ∧ IsGroup (first :: rest) ∧
      ∀ candidate ∈ first :: rest, candidate ∈ reading.candidates) ∧
      mapping.isAccepted registry = true := by
  obtain ⟨⟨first, rest, members, resolved⟩, accepted⟩ :=
    mem_mappings_iff.mp member
  have among : ∀ candidate ∈ first :: rest,
      candidate ∈ reading.candidates ∧ candidate.operator = mapping.operator :=
    fun candidate isMember => mem_onOperator_iff.mp (members ▸ isMember)
  refine ⟨⟨first, rest, resolved, ⟨by simp, ?_⟩,
    fun candidate isMember => (among candidate isMember).1⟩, accepted⟩
  intro one isOne other isOther
  rw [(among one isOne).2, (among other isOther).2]

theorem Reading.isRegular_of_mem_mappings {registry : Registry}
    {reading : Reading} {mapping : Mapping}
    (member : mapping ∈ reading.mappings registry) : mapping.IsRegular := by
  obtain ⟨⟨first, rest, rfl, isGroup, candidates⟩, _⟩ := mem_mappings member
  exact resolve_isRegular isGroup fun candidate among =>
    isRegular_of_mem_candidates candidate (candidates candidate among)

theorem Mapping.isWritable_of_isRegular {mapping : Mapping}
    (regular : mapping.IsRegular)
    (accepted : mapping.isAccepted Registry.standard = true) :
    mapping.IsWritable where
  named := by
    have names : ∀ operator ∈ operators, Head.isName operator = true := by
      decide
    exact names _ regular.known
  termed := regular.terms_ne_nil
  accepted := accepted

theorem Reading.isWritable_of_mem_mappings {reading : Reading}
    {mapping : Mapping}
    (member : mapping ∈ reading.mappings Registry.standard) :
    mapping.IsWritable :=
  isWritable_of_isRegular (isRegular_of_mem_mappings member)
    (mem_mappings member).2

end CardQuery
