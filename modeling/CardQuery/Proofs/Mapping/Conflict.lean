import CardQuery.Proofs.Mapping.Grouping
import Mathlib.Data.List.Basic

/-!
# How conflicts are resolved

The candidates on one operator are resolved to one mapping.  Sets of color
letters become their union, and values that can all hold become the distinct
ones among them; in every other case the best candidate stays as it is.  What is
resolved to is always a copy of the best candidate, so it is compared and
explained as that one is.

That one mapping is preferred to another is a strict order, whatever numbers
their confidences are.  The walk over the candidates therefore ends at the first
of those that no other one beats.
-/

namespace CardQuery

namespace Mapping

def IsAsCertainAs (mapping other : Mapping) : Prop :=
  mapping.confidence ≤ other.confidence ∧ other.confidence ≤ mapping.confidence

/-- The mapping is more certain than the other one, or as certain and of a kind
that comes first. -/
def IsPreferredTo (mapping other : Mapping) : Prop :=
  other.confidence < mapping.confidence ∨
    mapping.IsAsCertainAs other ∧ mapping.source.rank < other.source.rank

/-- Neither certainty nor kind tells which of the two mappings to prefer. -/
def IsTiedWith (mapping other : Mapping) : Prop :=
  mapping.IsAsCertainAs other ∧ mapping.source.rank = other.source.rank

/-- A mapping of the group that no other one is preferred to, and the first of
those that are tied with it. -/
structure IsBest (group : List Mapping) (best : Mapping) : Prop where
  unbeaten : ∀ mapping ∈ group, ¬ mapping.IsPreferredTo best
  first : ∃ before after, group = before ++ best :: after ∧
    ∀ mapping ∈ before, ¬ mapping.IsTiedWith best

section Preference

variable {mapping other third : Mapping}

private theorem isBetter_iff :
    mapping.isBetter other = true ↔ mapping.IsPreferredTo other := by
  simp [isBetter, IsPreferredTo, IsAsCertainAs, and_assoc]

private theorem IsPreferredTo.irrefl (mapping : Mapping) :
    ¬ mapping.IsPreferredTo mapping := by
  rintro (moreCertain | ⟨_, comesFirst⟩)
  · obtain ⟨le, notGe⟩ := Binary64.lt_iff_le_not_ge.mp moreCertain
    exact notGe le
  · exact Nat.lt_irrefl _ comesFirst

theorem IsAsCertainAs.trans (left : mapping.IsAsCertainAs other)
    (right : other.IsAsCertainAs third) : mapping.IsAsCertainAs third :=
  ⟨Binary64.le_trans left.1 right.1, Binary64.le_trans right.2 left.2⟩

private theorem IsAsCertainAs.trans_lt (same : mapping.IsAsCertainAs other)
    (less : third.confidence < other.confidence) :
    third.confidence < mapping.confidence := by
  obtain ⟨le, notGe⟩ := Binary64.lt_iff_le_not_ge.mp less
  exact Binary64.lt_iff_le_not_ge.mpr
    ⟨Binary64.le_trans le same.2, fun ge =>
      notGe (Binary64.le_trans same.2 ge)⟩

theorem IsPreferredTo.trans (left : mapping.IsPreferredTo other)
    (right : other.IsPreferredTo third) : mapping.IsPreferredTo third := by
  rcases left with moreCertain | ⟨same, comesFirst⟩
  · left
    obtain ⟨le, notGe⟩ := Binary64.lt_iff_le_not_ge.mp moreCertain
    have below : third.confidence ≤ other.confidence := by
      rcases right with less | ⟨alike, _⟩
      · exact (Binary64.lt_iff_le_not_ge.mp less).1
      · exact alike.2
    exact Binary64.lt_iff_le_not_ge.mpr
      ⟨Binary64.le_trans below le, fun ge =>
        notGe (Binary64.le_trans ge below)⟩
  · rcases right with less | ⟨alike, beforeThird⟩
    · exact Or.inl (same.trans_lt less)
    · exact Or.inr ⟨same.trans alike, Nat.lt_trans comesFirst beforeThird⟩

private theorem IsTiedWith.isPreferredTo (tied : mapping.IsTiedWith other)
    (preferred : other.IsPreferredTo third) : mapping.IsPreferredTo third := by
  rcases preferred with less | ⟨alike, comesFirst⟩
  · exact Or.inl (tied.1.trans_lt less)
  · exact Or.inr ⟨tied.1.trans alike, tied.2 ▸ comesFirst⟩

end Preference

theorem best_concat (first : Mapping) (rest : List Mapping) (last : Mapping) :
    best first (rest ++ [last]) =
      if last.isBetter (best first rest) then last else best first rest := by
  rw [best, List.foldl_append]
  rfl

private theorem isBest_best (first : Mapping) (rest : List Mapping) :
    IsBest (first :: rest) (best first rest) := by
  induction rest using List.reverseRecOn with
  | nil =>
      refine ⟨?_, [], [], rfl, List.forall_mem_nil _⟩
      exact List.forall_mem_singleton.mpr (IsPreferredTo.irrefl first)
  | append_singleton rest last ih =>
      obtain ⟨unbeaten, before, after, isGroup, untied⟩ := ih
      rw [best_concat]
      split
      next better =>
        have preferred := isBetter_iff.mp better
        refine ⟨?_, first :: rest, [], rfl, ?_⟩
        · intro mapping member beats
          rcases List.mem_append.mp (show mapping ∈ (first :: rest) ++ [last]
            from member) with earlier | isLast
          · exact unbeaten mapping earlier (beats.trans preferred)
          · rw [List.mem_singleton.mp isLast] at beats
            exact IsPreferredTo.irrefl last beats
        · intro mapping earlier tied
          exact unbeaten mapping earlier (tied.isPreferredTo preferred)
      next notBetter =>
        refine ⟨?_, before, after ++ [last], ?_, untied⟩
        · intro mapping member beats
          rcases List.mem_append.mp (show mapping ∈ (first :: rest) ++ [last]
            from member) with earlier | isLast
          · exact unbeaten mapping earlier beats
          · rw [List.mem_singleton.mp isLast] at beats
            exact notBetter (isBetter_iff.mpr beats)
        · rw [← List.cons_append, isGroup, List.append_assoc]
          rfl

theorem IsBest.mem {group : List Mapping} {best : Mapping}
    (isBest : IsBest group best) : best ∈ group := by
  obtain ⟨before, after, isGroup, _⟩ := isBest.first
  rw [isGroup]
  exact List.mem_append_right before List.mem_cons_self

/-- Some mappings on colors, each by nothing but letters. -/
structure AreLetterSets (group : List Mapping) : Prop where
  onColors : ∀ mapping ∈ group, mapping.operator = ['c']
  plain : ∀ mapping ∈ group, mapping.negated = false ∧ mapping.parts = []
  letters : ∀ mapping ∈ group, ∀ letter ∈ mapping.value,
    letter ∈ Vocabulary.colorLetters

/-- The letters of all mappings, each once and in the canonical order. -/
structure UnitesLetters (group : List Mapping) (value : Text) : Prop where
  inOrder : value.Sublist Vocabulary.colorLetters
  mem_iff : ∀ letter, letter ∈ value ↔ ∃ mapping ∈ group, letter ∈ mapping.value

/-- Some mappings on types, rules texts or functions that can all hold at once:
none is negated or asks for one of several values, and they name at most one
card type. -/
structure CanAllHold (group : List Mapping) : Prop where
  combined : ∀ mapping ∈ group, mapping.operator ∈ combinedOperators
  plain : ∀ mapping ∈ group,
    mapping.negated = false ∧ mapping.joiner ≠ some .or
  oneType : ∀ value ∈ group.flatMap values, ∀ other ∈ group.flatMap values,
    value ∈ TypePhrase.primaryTypes → other ∈ TypePhrase.primaryTypes →
      value = other

/-- The mapping with other values: one alone, or several that must all hold. -/
def withValues (mapping : Mapping) : List Text → Mapping
  | [only] => { mapping with value := only, parts := [], joiner := none }
  | parts =>
      { mapping with
        value := Joiner.and.join parts, parts, joiner := some .and }

/-- How the mappings on one operator are resolved. -/
inductive ResolvesTo : List Mapping → Mapping → Prop
  | alone (mapping : Mapping) : ResolvesTo [mapping] mapping
  | united {group : List Mapping} {best : Mapping} {value : Text}
      (several : 1 < group.length) (letterSets : AreLetterSets group)
      (isBest : IsBest group best) (unites : UnitesLetters group value) :
      ResolvesTo group { best with value }
  | combined {group : List Mapping} {best : Mapping} {parts : List Text}
      (several : 1 < group.length) (canAllHold : CanAllHold group)
      (isBest : IsBest group best)
      (firsts : Text.AreFirsts (group.flatMap values) parts) :
      ResolvesTo group (best.withValues parts)
  | chosen {group : List Mapping} {best : Mapping}
      (several : 1 < group.length) (notLetterSets : ¬ AreLetterSets group)
      (notAll : ¬ CanAllHold group) (isBest : IsBest group best) :
      ResolvesTo group best

/-- The mapping is another one, perhaps with other values. -/
def IsCopyOf (mapping original : Mapping) : Prop :=
  mapping = { original with
    value := mapping.value
    parts := mapping.parts
    joiner := mapping.joiner }

section Copies

variable {mapping original : Mapping}

theorem IsCopyOf.source (copy : mapping.IsCopyOf original) :
    mapping.source = original.source := by
  rw [copy]

theorem IsCopyOf.sourceConcept (copy : mapping.IsCopyOf original) :
    mapping.sourceConcept = original.sourceConcept := by
  rw [copy]

theorem IsCopyOf.negated (copy : mapping.IsCopyOf original) :
    mapping.negated = original.negated := by
  rw [copy]

private theorem ResolvesTo.exists_original {group : List Mapping}
    {resolved : Mapping}
    (resolves : ResolvesTo group resolved) :
    ∃ original ∈ group, resolved.IsCopyOf original := by
  cases resolves with
  | alone mapping => exact ⟨resolved, List.mem_singleton_self _, rfl⟩
  | united several letterSets isBest unites => exact ⟨_, isBest.mem, rfl⟩
  | @combined _ best parts several canAllHold isBest firsts =>
      refine ⟨best, isBest.mem, ?_⟩
      match parts with
      | [] => rfl
      | [only] => rfl
      | first :: second :: rest => rfl
  | chosen several notLetterSets notAll isBest =>
      exact ⟨resolved, isBest.mem, rfl⟩

end Copies

section Resolving

variable {first : Mapping} {rest : List Mapping}

private theorem isLetterSet_iff {mapping : Mapping} :
    mapping.isLetterSet = true ↔
      mapping.negated = false ∧ mapping.parts = [] ∧
        ∀ letter ∈ mapping.value, letter ∈ Vocabulary.colorLetters := by
  have colorless : 'c' ∉ Vocabulary.colorLetters := by decide
  have multicolor : 'm' ∉ Vocabulary.colorLetters := by decide
  simp only [isLetterSet, Bool.and_eq_true, Bool.not_eq_true',
    List.isEmpty_iff, bne_iff_ne, List.all_eq_true, List.contains_iff_mem]
  constructor
  · rintro ⟨⟨⟨⟨positive, noParts⟩, _⟩, _⟩, letters⟩
    exact ⟨positive, noParts, letters⟩
  · rintro ⟨positive, noParts, letters⟩
    refine ⟨⟨⟨⟨positive, noParts⟩, ?_⟩, ?_⟩, letters⟩
    · intro same
      exact colorless (letters 'c' (by simp [same]))
    · intro same
      exact multicolor (letters 'm' (by simp [same]))

private theorem areLetterSets_iff
    (uniform : ∀ mapping ∈ first :: rest, mapping.operator = first.operator) :
    (first.operator == ['c'] && (first :: rest).all isLetterSet) = true ↔
      AreLetterSets (first :: rest) := by
  rw [Bool.and_eq_true, beq_iff_eq, List.all_eq_true]
  simp only [isLetterSet_iff]
  constructor
  · rintro ⟨onColors, letterSets⟩
    exact
      { onColors := fun mapping member => (uniform mapping member).trans onColors
        plain := fun mapping member =>
          ⟨(letterSets mapping member).1, (letterSets mapping member).2.1⟩
        letters := fun mapping member => (letterSets mapping member).2.2 }
  · intro letterSets
    refine ⟨letterSets.onColors first List.mem_cons_self, ?_⟩
    intro mapping member
    obtain ⟨positive, noParts⟩ := letterSets.plain mapping member
    exact ⟨positive, noParts, letterSets.letters mapping member⟩

private theorem canAllHold_iff
    (uniform : ∀ mapping ∈ first :: rest, mapping.operator = first.operator) :
    (combinedOperators.contains first.operator &&
        isCombinable (first :: rest)) = true ↔
      CanAllHold (first :: rest) := by
  have types : (Text.distinct (((first :: rest).flatMap values).filter
        TypePhrase.primaryTypes.contains)).length ≤ 1 ↔
      ∀ value ∈ (first :: rest).flatMap values,
        ∀ other ∈ (first :: rest).flatMap values,
          value ∈ TypePhrase.primaryTypes → other ∈ TypePhrase.primaryTypes →
            value = other := by
    rw [Text.length_distinct_le_one_iff]
    simp only [List.mem_filter, List.contains_iff_mem]
    constructor
    · intro same value isValue other isOther isType isOtherType
      exact same value ⟨isValue, isType⟩ other ⟨isOther, isOtherType⟩
    · rintro same value ⟨isValue, isType⟩ other ⟨isOther, isOtherType⟩
      exact same value isValue other isOther isType isOtherType
  rw [Bool.and_eq_true, List.contains_iff_mem, isCombinable, Bool.and_eq_true,
    decide_eq_true_iff, types, Bool.not_eq_true', List.any_eq_false]
  simp only [Bool.or_eq_true, beq_iff_eq, not_or, Bool.not_eq_true]
  constructor
  · rintro ⟨isCombined, plain, oneType⟩
    refine ⟨?_, plain, oneType⟩
    intro mapping member
    rw [uniform mapping member]
    exact isCombined
  · intro canAllHold
    exact ⟨canAllHold.combined first List.mem_cons_self, canAllHold.plain,
      canAllHold.oneType⟩

private theorem unitesLetters_uniteColors
    (letterSets : AreLetterSets (first :: rest)) :
    UnitesLetters (first :: rest) (uniteColors first rest).value where
  inOrder := List.filter_sublist
  mem_iff letter := by
    rw [uniteColors, List.mem_filter]
    simp only [List.any_eq_true, List.contains_iff_mem]
    constructor
    · exact And.right
    · rintro ⟨mapping, member, isLetter⟩
      exact ⟨letterSets.letters mapping member letter isLetter, mapping, member,
        isLetter⟩

private theorem combine_eq (first : Mapping) (rest : List Mapping) :
    combine first rest = (best first rest).withValues
      (Text.distinct ((first :: rest).flatMap values)) := by
  rw [combine]
  generalize Text.distinct ((first :: rest).flatMap values) = parts
  match parts with
  | [] => rfl
  | [only] => rfl
  | one :: another :: more => rfl

theorem resolve_resolvesTo
    (uniform : ∀ mapping ∈ first :: rest, mapping.operator = first.operator) :
    ResolvesTo (first :: rest) (resolve first rest) := by
  have isBest := isBest_best first rest
  cases rest with
  | nil => exact .alone first
  | cons second more =>
      have several : 1 < (first :: second :: more).length := by simp
      rw [resolve, if_neg (by simp)]
      split
      next letterSets =>
        have areLetterSets := (areLetterSets_iff uniform).mp letterSets
        exact .united several areLetterSets isBest
          (unitesLetters_uniteColors areLetterSets)
      next notLetterSets =>
        split
        next combinable =>
          rw [combine_eq]
          exact .combined several ((canAllHold_iff uniform).mp combinable)
            isBest (Text.areFirsts_distinct _)
        next notCombinable =>
          exact .chosen several (mt (areLetterSets_iff uniform).mpr notLetterSets)
            (mt (canAllHold_iff uniform).mpr notCombinable) isBest

end Resolving

/-- Each group is resolved to a mapping on its operator. -/
theorem exists_resolved {mappings : List Mapping} {operator : Text}
    (occurs : operator ∈ mappings.map (·.operator)) :
    ∃ first rest, onOperator mappings operator = first :: rest ∧
      (resolve first rest).operator = operator ∧
      ResolvesTo (first :: rest) (resolve first rest) := by
  obtain ⟨mapping, member, onOne⟩ := List.mem_map.mp occurs
  obtain ⟨first, rest, isGroup⟩ := List.exists_cons_of_ne_nil
    (List.ne_nil_of_mem (mem_onOperator_iff.mpr ⟨member, onOne⟩))
  have onAll : ∀ mapping ∈ first :: rest, mapping.operator = operator := by
    intro mapping among
    exact (mem_onOperator_iff.mp (isGroup ▸ among)).2
  refine ⟨first, rest, isGroup, resolve_operator onAll, ?_⟩
  apply resolve_resolvesTo
  intro mapping among
  rw [onAll mapping among, onAll first List.mem_cons_self]

private theorem map_operator_resolved (mappings : List Mapping) :
    ((groups mappings).filterMap resolveGroup?).map (·.operator) =
      Text.distinct (mappings.map (·.operator)) := by
  rw [groups_eq, List.filterMap_map, List.map_filterMap]
  calc
    _ = (Text.distinct (mappings.map (·.operator))).filterMap some := by
      apply List.filterMap_congr
      intro operator member
      obtain ⟨first, rest, isGroup, onOne, _⟩ :=
        exists_resolved (Text.mem_distinct_iff.mp member)
      rw [Function.comp_apply, isGroup]
      exact congrArg some onOne
    _ = _ := List.filterMap_some

end Mapping

open Mapping

namespace Reading

/-- There is at most one mapping for each operator, in the order in which the
candidates first bring up the operators. -/
theorem map_operator_mappings_sublist (registry : Registry)
    (reading : Reading) :
    ((reading.mappings registry).map (·.operator)).Sublist
      (Text.distinct (reading.candidates.map (·.operator))) := by
  rw [← map_operator_resolved]
  exact List.filter_sublist.map _

/-- The mapping on an operator is what the candidates on it are resolved to, if
all its conditions are accepted. -/
theorem mem_mappings_on_iff {registry : Registry} {reading : Reading}
    {operator : Text} {first : Mapping} {rest : List Mapping}
    (isGroup : onOperator reading.candidates operator = first :: rest)
    (onOne : (resolve first rest).operator = operator) {mapping : Mapping} :
    mapping ∈ reading.mappings registry ∧ mapping.operator = operator ↔
      mapping = resolve first rest ∧ ∀ term ∈ (resolve first rest).terms,
        registry.accepts operator term.2 term.1 = true := by
  rw [mem_mappings_iff]
  constructor
  · rintro ⟨⟨⟨start, others, isOther, isResolved⟩, accepted⟩, same⟩
    rw [same, isGroup] at isOther
    cases isOther
    subst isResolved
    exact ⟨rfl, fun term isTerm =>
      onOne ▸ List.all_eq_true.mp accepted term isTerm⟩
  · rintro ⟨rfl, accepted⟩
    refine ⟨⟨⟨first, rest, onOne ▸ isGroup, rfl⟩, ?_⟩, onOne⟩
    exact List.all_eq_true.mpr fun term isTerm =>
      onOne.symm ▸ accepted term isTerm

theorem resolvesTo_of_mem {registry : Registry} {reading : Reading}
    {mapping : Mapping} (member : mapping ∈ reading.mappings registry) :
    ResolvesTo (onOperator reading.candidates mapping.operator) mapping := by
  obtain ⟨⟨first, rest, isGroup, isResolved⟩, _⟩ := mem_mappings_iff.mp member
  have onOne : ∀ candidate ∈ first :: rest,
      candidate.operator = mapping.operator :=
    fun candidate isMember => (mem_onOperator_iff.mp (isGroup ▸ isMember)).2
  rw [isGroup, isResolved]
  apply resolve_resolvesTo
  intro candidate isMember
  rw [onOne candidate isMember, onOne first List.mem_cons_self]

/-- Every mapping is a copy of a candidate on its operator. -/
theorem exists_candidate {registry : Registry} {reading : Reading}
    {mapping : Mapping} (member : mapping ∈ reading.mappings registry) :
    ∃ candidate ∈ reading.candidates,
      candidate.operator = mapping.operator ∧ mapping.IsCopyOf candidate := by
  obtain ⟨candidate, isMember, copy⟩ := (resolvesTo_of_mem member).exists_original
  obtain ⟨isCandidate, onOne⟩ := mem_onOperator_iff.mp isMember
  exact ⟨candidate, isCandidate, onOne, copy⟩

/-- The mappings of a reading are on different operators, in the order in which
the candidates first bring them up.  The mapping on an operator is what the
candidates on it are resolved to, and there is none only if there is no
candidate or a condition is not accepted. -/
theorem mappings_resolve_candidates (registry : Registry) (reading : Reading) :
    let operators := reading.candidates.map (·.operator)
    let kept := (reading.mappings registry).map (·.operator)
    kept.Nodup ∧ Text.AreInOrder operators kept ∧
      ∀ operator, (operator ∉ operators ∧ operator ∉ kept) ∨
        ∃ resolved, ResolvesTo (onOperator reading.candidates operator) resolved ∧
          ∀ mapping,
            mapping ∈ reading.mappings registry ∧ mapping.operator = operator ↔
              mapping = resolved ∧ ∀ term ∈ resolved.terms,
                registry.accepts operator term.2 term.1 = true := by
  dsimp only
  have isSublist := map_operator_mappings_sublist registry reading
  have inOrder := (Text.areFirsts_distinct _).inOrder.sublist isSublist
  refine ⟨inOrder.nodup, inOrder, ?_⟩
  intro operator
  by_cases occurs : operator ∈ reading.candidates.map (·.operator)
  · right
    obtain ⟨first, rest, isGroup, onOne, resolves⟩ := exists_resolved occurs
    exact ⟨resolve first rest, isGroup ▸ resolves, fun mapping =>
      mem_mappings_on_iff isGroup onOne⟩
  · left
    refine ⟨occurs, ?_⟩
    intro isKept
    exact occurs (Text.mem_distinct_iff.mp (isSublist.subset isKept))

end Reading

end CardQuery
