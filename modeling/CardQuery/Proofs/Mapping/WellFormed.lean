import CardQuery.Proofs.Concept.ColorOrder
import CardQuery.Proofs.Mapping.Conflict
import CardQuery.Proofs.Mapping.OfConcept
import CardQuery.Proofs.Mapping.Resolution

/-!
# Well-formed mappings

A mapping has parts exactly if it says how they are joined, its value is the
parts with the joiner between them, and no comparison is without its part.
Resolving a conflict writes a new value, new parts and a new joiner into a copy
of the best candidate, so all of this has to hold again afterwards.  It does,
because the copy has no comparisons of its own parts left that could be out of
step with the new ones.

Restrictions of colors are the one place where the value has a form of its own.
-/

namespace CardQuery

/-- What cards can be asked for by their colors: none, several, or some colors
by their letters, each once and in the canonical order. -/
inductive IsColorValue : Text → Prop
  | colorless : IsColorValue ['c']
  | multicolor : IsColorValue ['m']
  | letters {value : Text} (nonempty : value ≠ [])
      (inOrder : value.Sublist Vocabulary.colorLetters) : IsColorValue value

theorem IsColorValue.ne_nil {value : Text} (isColor : IsColorValue value) :
    value ≠ [] := by
  cases isColor with
  | colorless => exact List.cons_ne_nil _ _
  | multicolor => exact List.cons_ne_nil _ _
  | letters nonempty _ => exact nonempty

private theorem ColorConcept.IsSorted.letters_sublist {concept : ColorConcept}
    (isSorted : concept.IsSorted) :
    (concept.colors.map Color.letter).Sublist Vocabulary.colorLetters := by
  have kept : concept.colors.Sublist Color.all := by
    rw [← isSorted]
    exact List.filter_sublist
  exact kept.map Color.letter

namespace Mapping

/-- A mapping whose value, parts, joiner and comparisons belong together. -/
structure IsWellFormed (mapping : Mapping) : Prop where
  joined : mapping.parts = [] ↔ mapping.joiner = none
  compared : mapping.comparisons = [] ∨
    mapping.comparisons.length = mapping.parts.length
  written : ∀ joiner ∈ mapping.joiner,
    mapping.value = joiner.join mapping.parts
  color : mapping.operator = ['c'] → IsColorValue mapping.value

/-- Without parts there is nothing to compare in a way of its own. -/
theorem IsWellFormed.uncompared {mapping : Mapping}
    (wellFormed : mapping.IsWellFormed) (noParts : mapping.parts = []) :
    mapping.comparisons = [] := by
  rcases wellFormed.compared with none | sameLength
  · exact none
  · rw [noParts] at sameLength
    exact List.length_eq_zero_iff.mp sameLength

private theorem isWellFormed_of_noParts {mapping : Mapping}
    (noParts : mapping.parts = []) (noJoiner : mapping.joiner = none)
    (uncompared : mapping.comparisons = [])
    (color : mapping.operator = ['c'] → IsColorValue mapping.value) :
    mapping.IsWellFormed where
  joined := iff_of_true noParts noJoiner
  compared := Or.inl uncompared
  written := by
    intro joiner isJoiner
    rw [noJoiner] at isJoiner
    cases isJoiner
  color := color

theorem IsWellFormed.withValue {mapping : Mapping}
    (wellFormed : mapping.IsWellFormed) (noParts : mapping.parts = [])
    {value : Text} (color : mapping.operator = ['c'] → IsColorValue value) :
    IsWellFormed { mapping with value } :=
  isWellFormed_of_noParts noParts (wellFormed.joined.mp noParts)
    (wellFormed.uncompared noParts) color

theorem isWellFormed_of_parts {mapping : Mapping}
    (notColor : mapping.operator ≠ ['c']) {joiner : Joiner}
    (someParts : mapping.parts ≠ []) (isJoiner : mapping.joiner = some joiner)
    (compared : mapping.comparisons = [] ∨
      mapping.comparisons.length = mapping.parts.length)
    (written : mapping.value = joiner.join mapping.parts) :
    mapping.IsWellFormed where
  joined := by
    rw [isJoiner]
    exact iff_of_false someParts (Option.some_ne_none joiner)
  compared := compared
  written := by
    intro other isOther
    rw [isJoiner] at isOther
    rw [← Option.some.inj isOther]
    exact written
  color := fun isColor => absurd isColor notColor

theorem isWellFormed_single {operator : Text} (notColor : operator ≠ ['c'])
    (value : Text) (comparison : Option Comparison) (confidence : Binary64)
    (source : ConceptKind) (concept : Option Concept) :
    (single operator value comparison confidence source
      concept).IsWellFormed :=
  isWellFormed_of_noParts rfl rfl rfl fun isColor => absurd isColor notColor

private theorem isWellFormed_joined {operator : Text}
    (notColor : operator ≠ ['c'])
    {parts : List Text} (nonempty : parts ≠ []) (joiner : Joiner)
    (confidence : Binary64) (source : ConceptKind) (concept : Option Concept) :
    (joined joiner operator parts confidence source concept).IsWellFormed := by
  have someParts : Text.distinct parts ≠ [] := by
    obtain ⟨first, occurs⟩ := List.exists_mem_of_ne_nil parts nonempty
    exact List.ne_nil_of_mem (Text.mem_distinct_iff.mpr occurs)
  unfold joined
  split
  next => exact isWellFormed_single notColor _ _ _ _ _
  next => exact isWellFormed_of_parts notColor someParts rfl (Or.inl rfl) rfl

private theorem isWellFormed_withValues {mapping : Mapping}
    (notColor : mapping.operator ≠ ['c'])
    (uncompared : mapping.comparisons = []) {parts : List Text}
    (nonempty : parts ≠ []) : (mapping.withValues parts).IsWellFormed := by
  match parts with
  | [] => contradiction
  | [only] =>
      exact isWellFormed_of_noParts rfl rfl uncompared fun isColor =>
        absurd isColor notColor
  | first :: second :: rest =>
      exact isWellFormed_of_parts notColor (List.cons_ne_nil _ _) rfl
        (Or.inl uncompared) rfl

private theorem ResolvesTo.isWellFormed {group : List Mapping}
    {resolved : Mapping}
    (resolves : ResolvesTo group resolved)
    (regular : ∀ mapping ∈ group, mapping.IsRegular)
    (wellFormed : ∀ mapping ∈ group, mapping.IsWellFormed) :
    resolved.IsWellFormed := by
  cases resolves with
  | alone => exact wellFormed _ List.mem_cons_self
  | @united _ best value _ letterSets isBest unites =>
      have isMember := isBest.mem
      have ofBest := wellFormed best isMember
      have noParts := (letterSets.plain best isMember).2
      have isColor := ofBest.color (letterSets.onColors best isMember)
      obtain ⟨letter, isLetter⟩ := List.exists_mem_of_ne_nil _ isColor.ne_nil
      have isUnited : letter ∈ value :=
        (unites.mem_iff letter).mpr ⟨best, isMember, isLetter⟩
      apply ofBest.withValue noParts
      intro _
      exact .letters (List.ne_nil_of_mem isUnited) unites.inOrder
  | @combined _ best parts _ canAllHold isBest firsts =>
      have isMember := isBest.mem
      have isCombined := canAllHold.combined best isMember
      apply isWellFormed_withValues
      · intro onColors
        rw [onColors] at isCombined
        exact absurd isCombined (by decide)
      · rcases (regular best isMember).compared with uncompared | ⟨_, apart⟩
        · exact uncompared
        · exact absurd isCombined apart
      · obtain ⟨value, isValue⟩ :=
          List.exists_mem_of_ne_nil _ best.values_ne_nil
        have isPart : value ∈ parts := (firsts.mem_iff value).mpr
          (List.mem_flatMap.mpr ⟨best, isMember, isValue⟩)
        exact List.ne_nil_of_mem isPart
  | chosen _ _ _ isBest => exact wellFormed _ isBest.mem

end Mapping

open Mapping

private theorem ColorConcept.isWellFormed_mapping? {concept : ColorConcept}
    (isSorted : concept.IsSorted) {mapping : Mapping}
    (found : mapping ∈ concept.mapping?) :
    mapping.IsWellFormed := by
  simp only [ColorConcept.mapping?, Option.mem_def] at found
  rw [Option.ite_none_left_eq_some] at found
  obtain ⟨nonempty, same⟩ := found
  rw [← Option.some.inj same]
  apply isWellFormed_of_noParts rfl rfl rfl
  intro _
  dsimp only [single]
  split
  next => exact .colorless
  next isColored =>
    split
    next => exact .multicolor
    next notMany =>
      rw [if_neg isColored, if_neg notMany, List.isEmpty_iff] at nonempty
      exact .letters nonempty isSorted.letters_sublist

theorem Text.split_ne_nil (separator text : Text) :
    split separator text ≠ [] := by
  have general (skipped : Nat) : splitFrom separator skipped text ≠ [] := by
    induction text generalizing skipped with
    | nil => exact List.cons_ne_nil _ _
    | cons first rest ih =>
        cases skipped with
        | succ skipped => exact ih skipped
        | zero =>
            rw [splitFrom]
            split
            · exact List.cons_ne_nil _ _
            · split <;> exact List.cons_ne_nil _ _
  exact general 0

private theorem TypeConcept.isWellFormed_mapping (concept : TypeConcept) :
    concept.mapping.IsWellFormed := by
  have onTypes : "t".toList ≠ ['c'] := by decide
  have onFunctions : "function".toList ≠ ['c'] := by decide
  unfold TypeConcept.mapping
  dsimp only
  split
  · split
    · exact isWellFormed_single onTypes _ _ _ _ _
    · split
      · exact isWellFormed_joined onTypes (Text.split_ne_nil _ _) _ _ _ _
      · exact isWellFormed_of_noParts rfl rfl rfl fun same =>
          absurd same onTypes
  · exact isWellFormed_single onFunctions _ _ _ _ _

private theorem PriceConcept.isWellFormed_mapping? {concept : PriceConcept}
    {mapping : Mapping} (found : mapping ∈ concept.mapping?) :
    mapping.IsWellFormed := by
  have notColor : concept.currency.name ≠ ['c'] := by
    cases concept.currency <;> decide
  unfold PriceConcept.mapping? at found
  dsimp only at found
  split at found
  · split at found
    · rw [← Option.some.inj found]
      exact isWellFormed_single notColor _ _ _ _ _
    · rw [← Option.some.inj found]
      exact isWellFormed_of_parts notColor (List.cons_ne_nil _ _) rfl
        (Or.inr rfl) rfl
  · rw [← Option.some.inj found]
    exact isWellFormed_single notColor _ _ _ _ _
  · rw [← Option.some.inj found]
    exact isWellFormed_single notColor _ _ _ _ _
  · cases found

private theorem ArchetypeConcept.isWellFormed_of_mem_hints
    {concept : ArchetypeConcept}
    {joiner : Joiner} {operator : Text} (notColor : operator ≠ ['c'])
    {share : Nat} {values : List Text} {mapping : Mapping}
    (member : mapping ∈ concept.hints joiner operator share values) :
    mapping.IsWellFormed := by
  rw [hints] at member
  split at member
  next => cases member
  next nonempty =>
    rw [List.mem_singleton.mp member]
    rw [List.isEmpty_iff] at nonempty
    exact isWellFormed_joined notColor nonempty _ _ _ _

private theorem ArchetypeConcept.isWellFormed_of_mem_mappings
    {concept : ArchetypeConcept} {mapping : Mapping}
    (member : mapping ∈ concept.mappings) : mapping.IsWellFormed := by
  rcases cases_of_mem_mappings member with
    ⟨_, rfl⟩ | ⟨_, rfl⟩ | ⟨_, _, _, keywords | functions | ⟨_, types⟩⟩
  · exact isWellFormed_single (by decide) _ _ _ _ _
  · exact isWellFormed_single (by decide) _ _ _ _ _
  · exact isWellFormed_of_mem_hints (by decide) keywords
  · exact isWellFormed_of_mem_hints (by decide) functions
  · exact isWellFormed_of_mem_hints (by decide) types

namespace Reading

private theorem isWellFormed_of_mem_candidates {reading : Reading}
    (sorted : reading.HasSortedColors) :
    ∀ mapping ∈ reading.candidates, mapping.IsWellFormed := by
  apply forall_mem_candidates
  · intro concept member mapping found
    exact ColorConcept.isWellFormed_mapping? (sorted concept member) found
  · intro concept _
    exact concept.isWellFormed_mapping
  · intro concept _
    exact isWellFormed_single (by decide) _ _ _ _ _
  · intro concept _ mapping found
    exact PriceConcept.isWellFormed_mapping? found
  · intro concept _
    exact isWellFormed_single (by decide) _ _ _ _ _
  · intro concept _
    exact isWellFormed_single (by decide) _ _ _ _ _
  · intro concept _
    apply isWellFormed_single
    cases concept.stat <;> decide
  · intro concept _ mapping member
    exact ArchetypeConcept.isWellFormed_of_mem_mappings member

theorem isWellFormed_of_mem_mappings {registry : Registry} {reading : Reading}
    (sorted : reading.HasSortedColors) {mapping : Mapping}
    (member : mapping ∈ reading.mappings registry) : mapping.IsWellFormed := by
  obtain ⟨⟨first, rest, rfl, isGroup, candidates⟩, _⟩ := mem_mappings member
  have resolves : ResolvesTo (first :: rest) (resolve first rest) := by
    apply resolve_resolvesTo
    intro mapping among
    exact isGroup.uniform mapping among first List.mem_cons_self
  apply resolves.isWellFormed
  · intro candidate among
    exact isRegular_of_mem_candidates candidate (candidates candidate among)
  · intro candidate among
    exact isWellFormed_of_mem_candidates sorted candidate
      (candidates candidate among)

end Reading

end CardQuery
