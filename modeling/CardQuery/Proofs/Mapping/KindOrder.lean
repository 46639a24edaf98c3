import CardQuery.Proofs.Mapping.Conflict
import CardQuery.Proofs.Mapping.OfConcept
import CardQuery.Proofs.Mapping.Resolution

/-!
# The order of kinds

Concepts are mapped kind after kind, so the candidates are in the order of their
kinds.  A mapping stands where the first candidate on its operator came up, but
it may be a copy of a later one.  Apart from hints of a kind of deck, all
candidates on an operator are of kinds with one rank.  So it is only such a hint
that can stand before a mapping of an earlier kind.
-/

namespace CardQuery

namespace Mapping

/-- The mappings are in the order of their kinds, none of which comes after the
given one. -/
structure AreByKind (last : ConceptKind) (mappings : List Mapping) : Prop where
  inOrder : mappings.Pairwise fun earlier later =>
    earlier.source.rank ≤ later.source.rank
  upTo : ∀ mapping ∈ mappings, mapping.source.rank ≤ last.rank

section ByKind

variable {last : ConceptKind} {mappings more : List Mapping}

private theorem areByKind_of_kind
    (ofKind : ∀ mapping ∈ mappings, mapping.source = last) :
    AreByKind last mappings where
  inOrder := by
    apply List.pairwise_of_forall_mem_list
    intro earlier isEarlier later isLater
    rw [ofKind earlier isEarlier, ofKind later isLater]
  upTo := by
    intro mapping member
    rw [ofKind mapping member]

theorem AreByKind.append (byKind : AreByKind last mappings)
    (next : ConceptKind) (notEarlier : last.rank ≤ next.rank)
    (ofKind : ∀ mapping ∈ more, mapping.source = next) :
    AreByKind next (mappings ++ more) where
  inOrder := by
    apply List.pairwise_append.mpr
    refine ⟨byKind.inOrder, (areByKind_of_kind ofKind).inOrder, ?_⟩
    intro earlier isEarlier later isLater
    rw [ofKind later isLater]
    exact Nat.le_trans (byKind.upTo earlier isEarlier) notEarlier
  upTo := by
    intro mapping member
    rcases List.mem_append.mp member with isEarlier | isLater
    · exact Nat.le_trans (byKind.upTo mapping isEarlier) notEarlier
    · rw [ofKind mapping isLater]

private theorem exists_rank_le_of_idxOf_lt
    (inOrder : mappings.Pairwise fun earlier later =>
      earlier.source.rank ≤ later.source.rank)
    {operator : Text} {later : Mapping} (member : later ∈ mappings)
    (before : (mappings.map (·.operator)).idxOf operator <
      (mappings.map (·.operator)).idxOf later.operator) :
    ∃ first ∈ mappings, first.operator = operator ∧
      first.source.rank ≤ later.source.rank := by
  induction mappings with
  | nil => cases member
  | cons head rest ih =>
      obtain ⟨headFirst, restInOrder⟩ := List.pairwise_cons.mp inOrder
      rw [List.map_cons, List.idxOf_cons, List.idxOf_cons] at before
      have notHead : head.operator ≠ later.operator := by
        intro same
        simp [same] at before
      have inRest : later ∈ rest := by
        refine (List.mem_cons.mp member).resolve_left ?_
        intro isHead
        exact notHead (congrArg Mapping.operator isHead.symm)
      by_cases onHead : head.operator = operator
      · exact ⟨head, List.mem_cons_self, onHead, headFirst later inRest⟩
      · have beforeInRest : (rest.map (·.operator)).idxOf operator <
            (rest.map (·.operator)).idxOf later.operator := by
          rw [beq_false_of_ne onHead, beq_false_of_ne notHead] at before
          exact Nat.lt_of_succ_lt_succ before
        obtain ⟨first, isFirst, onOne, notLater⟩ :=
          ih restInOrder inRest beforeInRest
        exact ⟨first, List.mem_cons_of_mem head isFirst, onOne, notLater⟩

end ByKind

end Mapping

open Mapping

private theorem ConceptKind.rank_le_archetype (kind : ConceptKind) :
    kind.rank ≤ archetype.rank := by
  cases kind <;> decide

/-- The operators of the hints of kinds of decks. -/
def ArchetypeConcept.operators : List Text :=
  ["mv", "pow", "o", "function", "t"]

private theorem ArchetypeConcept.source_of_mem_mappings
    {concept : ArchetypeConcept}
    {mapping : Mapping} (member : mapping ∈ concept.mappings) :
    mapping.source = .archetype ∧
      mapping.operator ∈ ArchetypeConcept.operators := by
  rcases cases_of_mem_mappings member with
    ⟨_, rfl⟩ | ⟨_, rfl⟩ | ⟨_, _, _, keywords | functions | ⟨_, types⟩⟩
  · exact ⟨rfl, show "mv".toList ∈ operators by decide⟩
  · exact ⟨rfl, show "pow".toList ∈ operators by decide⟩
  · obtain ⟨operator, _, source⟩ := of_mem_hints keywords
    exact ⟨source, operator ▸ show "o".toList ∈ operators by decide⟩
  · obtain ⟨operator, _, source⟩ := of_mem_hints functions
    exact ⟨source, operator ▸ show "function".toList ∈ operators by decide⟩
  · obtain ⟨operator, _, source⟩ := of_mem_hints types
    exact ⟨source, operator ▸ show "t".toList ∈ operators by decide⟩

/-- The rank of the kinds that conditions on an operator come from, other than
kinds of decks. -/
def Mapping.ownRank (operator : Text) : Nat :=
  if operator = "c".toList then ConceptKind.color.rank
  else if operator ∈ ["t".toList, "function"] then ConceptKind.cardType.rank
  else if operator ∈ ["usd".toList, "eur", "tix"] then ConceptKind.price.rank
  else if operator = "f".toList then ConceptKind.format.rank
  else ConceptKind.keyword.rank

namespace Reading

private theorem areByKind_candidates (reading : Reading) :
    AreByKind .archetype reading.candidates := by
  have mapped {α : Type} {kind : ConceptKind} (toMapping : α → Mapping)
      (ofKind : ∀ concept, (toMapping concept).source = kind)
      (concepts : List α) :
      ∀ mapping ∈ concepts.map toMapping, mapping.source = kind :=
    List.forall_mem_map.mpr fun concept _ => ofKind concept
  have found {α : Type} {kind : ConceptKind} (toMapping? : α → Option Mapping)
      (ofKind : ∀ concept mapping,
        toMapping? concept = some mapping → mapping.source = kind)
      (concepts : List α) :
      ∀ mapping ∈ concepts.filterMap toMapping?, mapping.source = kind := by
    intro mapping member
    obtain ⟨concept, _, isFound⟩ := List.mem_filterMap.mp member
    exact ofKind concept mapping isFound
  have hinted : ∀ mapping ∈ reading.archetypes.flatMap fun archetype =>
        (archetype.withSubtypes reading.creatureSubtypes).mappings,
      mapping.source = .archetype := by
    intro mapping member
    obtain ⟨archetype, _, isHint⟩ := List.mem_flatMap.mp member
    exact (ArchetypeConcept.source_of_mem_mappings isHint).1
  have colors := areByKind_of_kind
    (found ColorConcept.mapping?
      (fun _ _ isFound => (ColorConcept.mapping?_cases isFound).2.1)
      reading.colors)
  have types := colors.append .cardType (by decide)
    (mapped TypeConcept.mapping (·.mapping_cases.2.2) reading.types)
  have subtypes := types.append .subtype (by decide)
    (mapped SubtypeConcept.mapping (fun _ => rfl) reading.subtypes)
  have prices := subtypes.append .price (by decide)
    (found PriceConcept.mapping?
      (fun _ _ isFound => (PriceConcept.mapping?_cases isFound).2.1)
      reading.prices)
  have formats := prices.append .format (by decide)
    (mapped FormatConcept.mapping (fun _ => rfl) reading.formats)
  have keywords := formats.append .keyword (by decide)
    (mapped KeywordConcept.mapping (fun _ => rfl) reading.keywords)
  have stats := keywords.append .stat (by decide)
    (mapped StatConcept.mapping (fun _ => rfl) reading.stats)
  exact stats.append .archetype (by decide) hinted

/-- Every candidate is a hint of a kind of deck, or of a kind with the one rank
that belongs to its operator. -/
theorem source_of_mem_candidates {reading : Reading} :
    ∀ mapping ∈ reading.candidates,
      (mapping.source = .archetype ∧
        mapping.operator ∈ ArchetypeConcept.operators) ∨
      mapping.source.rank = ownRank mapping.operator := by
  apply forall_mem_candidates
  · intro concept _ mapping found
    obtain ⟨operator, source, _⟩ := ColorConcept.mapping?_cases found
    rw [operator, source]
    decide
  · intro concept _
    have ownTypes : ∀ operator ∈ ["t".toList, "function"],
        ownRank operator = ConceptKind.cardType.rank := by
      decide
    obtain ⟨operator, _, source⟩ := concept.mapping_cases
    rw [source, ownTypes _ operator]
    exact Or.inr rfl
  · intro concept _
    exact Or.inr rfl
  · intro concept _ mapping found
    obtain ⟨operator, source, _⟩ := PriceConcept.mapping?_cases found
    rw [operator, source]
    cases concept.currency <;> decide
  · intro concept _
    exact Or.inr rfl
  · intro concept _
    exact Or.inr rfl
  · intro concept _
    right
    change ConceptKind.stat.rank = ownRank concept.stat.operator
    cases concept.stat <;> decide
  · intro concept _ mapping member
    exact Or.inl (ArchetypeConcept.source_of_mem_mappings member)

private theorem rank_le_of_same_operator {reading : Reading}
    {mapping other : Mapping}
    (member : mapping ∈ reading.candidates)
    (isOther : other ∈ reading.candidates)
    (same : mapping.operator = other.operator)
    (noHint : mapping.source ≠ .archetype) :
    mapping.source.rank ≤ other.source.rank := by
  rcases source_of_mem_candidates other isOther with ⟨isHint, _⟩ | ownOther
  · rw [isHint]
    exact mapping.source.rank_le_archetype
  · have own := (source_of_mem_candidates mapping member).resolve_left fun hint =>
      noHint hint.1
    rw [own, ownOther, same]

/-- Among the mappings of a reading, only a hint of a kind of deck can stand
before a mapping of an earlier kind. -/
theorem pairwise_mappings (registry : Registry) (reading : Reading) :
    (reading.mappings registry).Pairwise fun earlier later =>
      earlier.source = .archetype ∨
        earlier.source.rank ≤ later.source.rank := by
  have inOrder := (Text.areFirsts_distinct _).inOrder.sublist
    (map_operator_mappings_sublist registry reading)
  refine (List.pairwise_map.mp inOrder).imp_of_mem ?_
  intro earlier later isEarlier isLater before
  by_cases isHint : earlier.source = .archetype
  · exact Or.inl isHint
  · right
    obtain ⟨candidate, isCandidate, onEarlier, copy⟩ :=
      exists_candidate isEarlier
    obtain ⟨other, isOther, onLater, copyOfOther⟩ := exists_candidate isLater
    rw [← onLater] at before
    obtain ⟨first, isFirst, onFirst, notLater⟩ := exists_rank_le_of_idxOf_lt
      reading.areByKind_candidates.inOrder isOther before
    rw [copy.source] at isHint
    calc
      earlier.source.rank = candidate.source.rank := by rw [copy.source]
      _ ≤ first.source.rank := rank_le_of_same_operator isCandidate isFirst
        (onEarlier.trans onFirst.symm) isHint
      _ ≤ other.source.rank := notLater
      _ = later.source.rank := by rw [copyOfOther.source]

end Reading

end CardQuery
