import CardQuery.Proofs.Mapping.Conflict
import CardQuery.Proofs.Mapping.OfConcept
import CardQuery.Proofs.Mapping.Resolution

/-!
# What becomes of a negation

A concept that excludes a type is mapped to a negated condition, unless it
excludes one of several types: their conditions are joined, and what is joined
is not negated.  Resolving conflicts cannot lose a negation, since nothing is
merged with a negated mapping.
-/

namespace CardQuery

open Mapping

namespace TypeConcept

/-- The concept excludes cards of a type, not of a supertype alone, and not what
a card is for. -/
structure ExcludesType (concept : TypeConcept) : Prop where
  negated : concept.negated = true
  typed : concept.cardType.getD [] ≠ []
  noFunction : concept.function.getD [] = []

/-- The type of the concept is one of several. -/
def IsAlternation (concept : TypeConcept) : Prop :=
  Text.includes (concept.cardType.getD []) " OR " = true

instance (concept : TypeConcept) : Decidable concept.IsAlternation :=
  inferInstanceAs (Decidable (_ = true))

section Excluding

variable {concept : TypeConcept}

private theorem ExcludesType.mapping_eq (excludes : concept.ExcludesType) :
    concept.mapping =
      if Text.includes (concept.cardType.getD []) " OR " then
        joined .or "t" (Text.split " OR " (concept.cardType.getD []))
          concept.confidence .cardType (some (.cardType concept))
      else
        { single "t" (concept.cardType.getD []) none concept.confidence
            .cardType (some (.cardType concept)) with negated := true } := by
  have typed : (concept.cardType.getD []).isEmpty = false := by
    simpa using excludes.typed
  unfold mapping
  dsimp only
  rw [excludes.noFunction, typed, Bool.and_false, if_neg Bool.false_ne_true,
    excludes.negated]

private theorem ExcludesType.operator_mapping (excludes : concept.ExcludesType)
    :
    concept.mapping.operator = "t" := by
  rw [excludes.mapping_eq]
  split
  · exact (joined_of_concept _ _ _ _ _ _).1
  · rfl

/-- A type that is excluded is mapped to a negated condition, unless it is one
of several. -/
theorem ExcludesType.negated_mapping_iff (excludes : concept.ExcludesType) :
    concept.mapping.negated = true ↔ ¬ concept.IsAlternation := by
  rw [excludes.mapping_eq]
  split
  next isAlternation =>
    rw [joined_negated]
    exact iff_of_false Bool.false_ne_true (not_not.mpr isAlternation)
  next isOne => exact iff_of_true rfl isOne

end Excluding

end TypeConcept

namespace Mapping

private theorem ResolvesTo.mem_of_negated {group : List Mapping}
    {resolved : Mapping}
    (resolves : ResolvesTo group resolved) {mapping : Mapping}
    (member : mapping ∈ group) (negated : mapping.negated = true) :
    resolved ∈ group := by
  cases resolves with
  | alone => exact List.mem_singleton_self _
  | united several letterSets isBest unites =>
      rw [(letterSets.plain mapping member).1] at negated
      cases negated
  | combined several canAllHold isBest firsts =>
      rw [(canAllHold.plain mapping member).1] at negated
      cases negated
  | chosen several notLetterSets notAll isBest => exact isBest.mem

end Mapping

namespace Reading

variable {registry : Registry} {reading : Reading} {concept : TypeConcept}

/-- Mappings say which concept they come from, so that the candidates of a type
are told from all others. -/
theorem eq_mapping_of_sourceConcept :
    ∀ mapping ∈ reading.candidates,
      mapping.sourceConcept = some (.cardType concept) →
        mapping = concept.mapping := by
  have sameConcept {other : Concept} {mapping : Mapping}
      (isOther : mapping.sourceConcept = some other)
      (same : mapping.sourceConcept = some (.cardType concept)) :
      other = .cardType concept :=
    Option.some.inj (isOther.symm.trans same)
  apply forall_mem_candidates
  · intro color _ mapping found same
    cases sameConcept (ColorConcept.mapping?_cases found).2.2 same
  · intro cardType _ same
    cases sameConcept cardType.sourceConcept_mapping same
    rfl
  · intro subtype _ same
    cases sameConcept rfl same
  · intro price _ mapping found same
    cases sameConcept (PriceConcept.mapping?_cases found).2.2 same
  · intro format _ same
    cases sameConcept rfl same
  · intro keyword _ same
    cases sameConcept rfl same
  · intro stat _ same
    cases sameConcept rfl same
  · intro archetype _ mapping member same
    cases sameConcept (ArchetypeConcept.sourceConcept_of_mem_mappings member)
      same

private theorem mapping_mem_candidates (member : concept ∈ reading.types) :
    concept.mapping ∈ reading.candidates := by
  have isType : concept.mapping ∈ reading.types.map TypeConcept.mapping :=
    List.mem_map.mpr ⟨concept, member, rfl⟩
  simp only [candidates, List.mem_append]
  tauto

/-- Beside a negated candidate, the mapping on its operator is a candidate as it
was. -/
theorem mem_candidates_of_negated {negated mapping : Mapping}
    (isNegated : negated.negated = true)
    (isCandidate : negated ∈ reading.candidates)
    (member : mapping ∈ reading.mappings registry)
    (same : negated.operator = mapping.operator) :
    mapping ∈ reading.candidates := by
  have amongThem := mem_onOperator_iff.mpr ⟨isCandidate, same⟩
  have unmerged := (resolvesTo_of_mem member).mem_of_negated amongThem isNegated
  exact (mem_onOperator_iff.mp unmerged).1

/-- Of a concept that excludes a type, every mapping is negated, before and
after conflicts are resolved, if and only if the type is not one of several.
Then the reading has a mapping on types only as one of the candidates, so the
concept has no part in any other mapping. -/
theorem negation_survives_iff (registry : Registry)
    (member : concept ∈ reading.types) (excludes : concept.ExcludesType) :
    ((∀ mapping ∈ reading.candidates ++ reading.mappings registry,
        mapping.sourceConcept = some (.cardType concept) →
          mapping.negated = true) ↔ ¬ concept.IsAlternation) ∧
      (¬ concept.IsAlternation →
        ∀ mapping ∈ reading.mappings registry, mapping.operator = "t" →
          mapping ∈ reading.candidates) := by
  have isCandidate := mapping_mem_candidates member
  refine ⟨⟨?_, ?_⟩, ?_⟩
  · intro survives
    exact excludes.negated_mapping_iff.mp
      (survives concept.mapping (List.mem_append_left _ isCandidate)
        concept.sourceConcept_mapping)
  · intro isOne mapping among same
    have negated := excludes.negated_mapping_iff.mpr isOne
    rcases List.mem_append.mp among with before | after
    · rw [eq_mapping_of_sourceConcept mapping before same]
      exact negated
    · obtain ⟨candidate, isOriginal, _, copy⟩ := exists_candidate after
      rw [copy.sourceConcept] at same
      rw [copy.negated, eq_mapping_of_sourceConcept candidate isOriginal same]
      exact negated
  · intro isOne mapping isMapping onTypes
    exact mem_candidates_of_negated (excludes.negated_mapping_iff.mpr isOne)
      isCandidate isMapping (excludes.operator_mapping.trans onTypes.symm)

/-- Beside a type that is asked for, the surer one that is excluded stays
negated. -/
theorem negation_survives_iff_creature :
    let excluded : TypeConcept :=
      ⟨some "creature", some "legendary", none, true, "", percent 90⟩
    let asked : TypeConcept :=
      ⟨some "artifact", none, none, false, "", percent 85⟩
    let reading : Reading := { Reading.empty "" with types := [asked, excluded] }
    let mapping : Mapping :=
      { single "t" "creature" none (percent 90) .cardType
          (some (.cardType excluded)) with negated := true }
    excluded ∈ reading.types ∧ excluded.ExcludesType ∧
      ¬ excluded.IsAlternation ∧
      reading.mappings Registry.standard = [mapping] ∧
      mapping.negated = true ∧ mapping ∈ reading.candidates := by
  intro excluded asked reading mapping
  have member : excluded ∈ reading.types := by
    decide +kernel
  have excludes : excluded.ExcludesType := ⟨rfl, by decide, rfl⟩
  have isOne : ¬ excluded.IsAlternation := by
    decide +kernel
  have isResolved : reading.mappings Registry.standard = [mapping] := by
    decide +kernel
  have isMapping : mapping ∈ reading.mappings Registry.standard :=
    isResolved ▸ List.mem_singleton_self mapping
  obtain ⟨survives, unmerged⟩ :=
    negation_survives_iff Registry.standard member excludes
  exact ⟨member, excludes, isOne, isResolved,
    survives.mpr isOne mapping (List.mem_append_right _ isMapping) rfl,
    unmerged isOne mapping isMapping rfl⟩

/-- Where artifacts and creatures are excluded, either of them is asked for. -/
theorem not_negation_survives_alternation :
    let excluded : TypeConcept :=
      ⟨some "artifact OR creature", none, none, true, "", percent 90⟩
    let reading : Reading := { Reading.empty "" with types := [excluded] }
    let mapping := joined .or "t" ["artifact", "creature"] (percent 90)
      .cardType (some (.cardType excluded))
    excluded ∈ reading.types ∧ excluded.negated = true ∧
      excluded.cardType.getD [] ≠ [] ∧ excluded.function.getD [] = [] ∧
      mapping ∈ reading.candidates ∧
      reading.mappings Registry.standard = [mapping] ∧
      mapping.sourceConcept = some (.cardType excluded) ∧
      mapping.negated = false ∧
      query [mapping] = .ok "(t:artifact OR t:creature)" := by
  decide +kernel

end Reading

end CardQuery
