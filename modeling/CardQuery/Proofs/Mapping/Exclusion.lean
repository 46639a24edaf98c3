import CardQuery.Concept.Reading
import CardQuery.Operator.Standard
import CardQuery.Proofs.Concept.Plain
import CardQuery.Proofs.Mapping.OfConcept
import CardQuery.Proofs.Mapping.Resolution
import CardQuery.Proofs.Text.Steady

/-!
# Types that a text excludes

A phrase such as `nonland` holds the word for the type itself, so a text that
excludes a type names it as well.  The exclusion keeps the mappings on types
from being combined, and then the most certain of them stays.  No concept of a
text is more certain than a card type that is named, and of several such types
the one that is first in the table is the first candidate.  What stays is
therefore the type that is named first in the table, and never an exclusion.
-/

namespace CardQuery

open Mapping

namespace Text

private theorem includes_append_right {text left right : Text}
    (included : includes text (left ++ right) = true) :
    includes text right = true := by
  rw [includes_iff] at included ⊢
  exact (List.suffix_append left right).isInfix.trans included

end Text

namespace TypeConcept

private theorem head?_extract (table : List TypePhrase) (text : Text) :
    (extract table text).head? =
      (table.find? fun phrase =>
        Text.includes (Text.lower text) phrase.phrase).map
          (TypePhrase.concept (Text.lower text)) := by
  rw [extract, deduplicate, ← List.head?_filter]
  cases table.filter fun phrase =>
      Text.includes (Text.lower text) phrase.phrase with
  | nil => rfl
  | cons first rest => rfl

private theorem exists_mem_firstKeys {seen : List Text}
    {concepts : List TypeConcept}
    {concept : TypeConcept} (member : concept ∈ concepts)
    (isNew : concept.key ∉ seen) :
    ∃ kept ∈ firstKeys seen concepts, kept.key = concept.key := by
  induction concepts generalizing seen with
  | nil => cases member
  | cons first rest ih =>
      rw [firstKeys]
      by_cases same : first.key = concept.key
      · have isFresh : ¬ seen.contains first.key = true := by
          rwa [same, List.contains_iff_mem]
        rw [if_neg isFresh]
        exact ⟨first, List.mem_cons_self, same⟩
      · have later : concept ∈ rest :=
          (List.mem_cons.mp member).resolve_left fun isFirst =>
            same (congrArg key isFirst.symm)
        split
        · exact ih later isNew
        · obtain ⟨kept, among, isKey⟩ := @ih (first.key :: seen) later (by
            rw [List.mem_cons, not_or]
            exact ⟨fun other => same other.symm, isNew⟩)
          exact ⟨kept, List.mem_cons_of_mem first among, isKey⟩

end TypeConcept

/-- How certain a card type that is named is. -/
def nameConfidence : Binary64 := percent 98

/-- The mapping is not more certain than a card type that is named and of no
kind that comes before it. -/
structure Mapping.IsOutranked (mapping : Mapping) : Prop where
  confidence : ¬ nameConfidence < mapping.confidence
  kind : ConceptKind.cardType.rank ≤ mapping.source.rank

/-- The mapping is the condition on a card type that is named. -/
structure Mapping.IsName (mapping : Mapping) (cardType : Text) : Prop where
  onTypes : mapping.operator = "t"
  plain : mapping.negated = false
  values : mapping.values = [cardType]
  terms : mapping.terms = [(none, cardType)]
  confidence : mapping.confidence = nameConfidence
  source : mapping.source = .cardType

private theorem Mapping.best_eq_first {first : Mapping} {rest : List Mapping}
    (isFirst : ∀ mapping ∈ rest, mapping.isBetter first = false) :
    best first rest = first := by
  rw [best]
  induction rest with
  | nil => rfl
  | cons next rest ih =>
      rw [List.foldl_cons, isFirst next List.mem_cons_self]
      exact ih fun mapping member =>
        isFirst mapping (List.mem_cons_of_mem next member)

private theorem Mapping.IsOutranked.isBetter_eq_false {mapping first : Mapping}
    (outranked : mapping.IsOutranked) {cardType : Text}
    (isName : first.IsName cardType) : mapping.isBetter first = false := by
  rw [isBetter, isName.confidence, isName.source, Bool.or_eq_false_iff]
  refine ⟨decide_eq_false outranked.confidence, ?_⟩
  rw [decide_eq_false (Nat.not_lt.mpr outranked.kind), Bool.and_false]

private theorem TypeConcept.isOutranked_of_mem_extract {text : Text}
    {concept : TypeConcept}
    (member : concept ∈ extract TypePhrase.table text) :
    concept.mapping.IsOutranked := by
  have certain : ∀ phrase ∈ TypePhrase.table,
      ¬ nameConfidence < percent phrase.hundredths := by
    decide +kernel
  obtain ⟨_, confidence, source⟩ := concept.mapping_cases
  obtain ⟨phrase, among, rfl⟩ := List.mem_map.mp (mem_of_mem_firstKeys member)
  constructor
  · rw [confidence]
    exact certain phrase (List.mem_filter.mp among).1
  · rw [source]

private theorem SubtypeConcept.isOutranked_of_mem_extract {text : Text}
    {concept : SubtypeConcept}
    (member : concept ∈ extract SubtypePhrase.table text) :
    concept.mapping.IsOutranked := by
  have certain : ∀ entry ∈ SubtypePhrase.table,
      ¬ nameConfidence < percent entry.hundredths := by
    decide +kernel
  obtain ⟨entry, among, rfl⟩ := List.mem_map.mp member
  exact ⟨certain entry (List.mem_filter.mp among).1, Nat.le_refl _⟩

namespace ArchetypeConcept

private theorem of_mem_mappings {concept : ArchetypeConcept} {mapping : Mapping}
    (member : mapping ∈ concept.mappings) (onTypes : mapping.operator = "t") :
    mapping.confidence = concept.confidence * .ofDecimal false 9 (-1) ∧
      mapping.source = .archetype := by
  rcases cases_of_mem_mappings member with
    ⟨_, rfl⟩ | ⟨_, rfl⟩ | ⟨_, _, _, keywords | functions | ⟨rfl, types⟩⟩
  · exact absurd onTypes (show "mv".toList ≠ "t".toList by decide)
  · exact absurd onTypes (show "pow".toList ≠ "t".toList by decide)
  · rw [(of_mem_hints keywords).1] at onTypes
    exact absurd onTypes (by decide)
  · rw [(of_mem_hints functions).1] at onTypes
    exact absurd onTypes (by decide)
  · exact (of_mem_hints types).2

private theorem isOutranked_of_mem_extract {text : Text}
    {concept : ArchetypeConcept}
    (member : concept ∈ extract Archetype.table text) (subtypes : List Text)
    {mapping : Mapping}
    (isHint : mapping ∈ (concept.withSubtypes subtypes).mappings)
    (onTypes : mapping.operator = "t") : mapping.IsOutranked := by
  have certain : ∀ archetype ∈ Archetype.table,
      ¬ nameConfidence <
          percent archetype.hundredths * .ofDecimal false 9 (-1) ∧
        ¬ nameConfidence < (percent archetype.hundredths + percent 10) *
          .ofDecimal false 9 (-1) := by
    decide +kernel
  obtain ⟨archetype, among, rfl⟩ := List.mem_map.mp member
  obtain ⟨asFound, asTribe⟩ := certain archetype (List.mem_filter.mp among).1
  obtain ⟨confidence, source⟩ := of_mem_mappings isHint onTypes
  constructor
  · rw [confidence, withSubtypes]
    split
    · exact asTribe
    · exact asFound
  · rw [source]
    decide

end ArchetypeConcept

namespace Reading

private theorem types_of_ofText {text : Text} {reading : Reading}
    (read : ofText text = .ok reading)
    (written : Wording.normalize text ≠ []) :
    reading.types =
        TypeConcept.extract TypePhrase.table (Wording.normalize text) ∧
      reading.subtypes =
        SubtypeConcept.extract SubtypePhrase.table (Wording.normalize text) ∧
      reading.archetypes =
        ArchetypeConcept.extract Archetype.table (Wording.normalize text) := by
  rw [ofText] at read
  dsimp only at read
  rw [if_neg (by simpa using written)] at read
  obtain ⟨stats, _, same⟩ := Outcome.bind_eq_ok_iff.mp read
  rw [← Except.ok.inj same]
  exact ⟨rfl, rfl, rfl⟩

private theorem isOutranked_of_mem_candidates {text : Text} {reading : Reading}
    (read : ofText text = .ok reading)
    (written : Wording.normalize text ≠ []) :
    ∀ mapping ∈ reading.candidates,
      mapping.operator = "t" → mapping.IsOutranked := by
  obtain ⟨types, subtypes, archetypes⟩ := types_of_ofText read written
  apply forall_mem_candidates
  · intro concept _ mapping found onTypes
    rw [ColorConcept.operator_of_mapping? found] at onTypes
    exact absurd onTypes (by decide)
  · intro concept member _
    exact TypeConcept.isOutranked_of_mem_extract (types ▸ member)
  · intro concept member _
    exact SubtypeConcept.isOutranked_of_mem_extract (subtypes ▸ member)
  · intro concept _ mapping found onTypes
    rw [PriceConcept.operator_of_mapping? found] at onTypes
    cases currency : concept.currency <;> rw [currency] at onTypes <;>
      exact absurd onTypes (by decide)
  · intro concept _ onTypes
    exact absurd onTypes (show "f".toList ≠ "t".toList by decide)
  · intro concept _ onTypes
    exact absurd onTypes (show "o".toList ≠ "t".toList by decide)
  · intro concept _ onTypes
    cases stat : concept.stat <;>
      simp [StatConcept.mapping, single, stat, Stat.operator] at onTypes
  · intro concept member mapping isHint onTypes
    exact ArchetypeConcept.isOutranked_of_mem_extract (archetypes ▸ member) _
      isHint onTypes

end Reading

deriving instance DecidableEq for TypePhrase

namespace TypePhrase

/-- The types that a text can exclude. -/
def excludable : List Text := ["land", "creature"]

/-- Whether a text holds the word for a type behind `non`, with a hyphen or
without. -/
def excludes (text cardType : Text) : Bool :=
  Text.includes text ("non" ++ cardType) ||
    Text.includes text ("non-" ++ cardType)

/-- The phrases of the table in front of those for a type. -/
def before (cardType : Text) : List TypePhrase :=
  table.takeWhile (·.cardType != some cardType)

theorem table_eq_before_append {cardType : Text}
    (isType : cardType ∈ excludable) :
    (∃ more, table =
      before cardType ++ ofType 98 cardType cardType :: more) ∧
      ∀ phrase ∈ before cardType, ∃ other ∈ primaryTypes,
        phrase = ofType 98 other phrase.phrase ∧ other ≠ cardType := by
  have split : ∀ cardType ∈ excludable, table = before cardType ++
      ofType 98 cardType cardType ::
        table.drop ((before cardType).length + 1) := by
    decide
  have others : ∀ cardType ∈ excludable, ∀ phrase ∈ before cardType,
      ∃ other ∈ primaryTypes,
        phrase = ofType 98 other phrase.phrase ∧ other ≠ cardType := by
    decide
  exact ⟨⟨_, split cardType isType⟩, others cardType isType⟩

private theorem includes_of_excludes {text cardType : Text}
    (isType : cardType ∈ excludable)
    (excluded : excludes text cardType = true) :
    Text.includes (Text.lower text) cardType = true ∧
      ∃ phrase ∈ table, Text.includes (Text.lower text) phrase.phrase = true ∧
        phrase = ofOther 85 cardType phrase.phrase := by
  have steady : ∀ cardType ∈ excludable, ∀ front ∈ ["non".toList, "non-"],
      (front ++ cardType).all Text.isSteady = true ∧
        ofOther 85 cardType (front ++ cardType) ∈ table := by
    decide
  have found {front : Text} (isFront : front ∈ ["non".toList, "non-"])
      (included : Text.includes text (front ++ cardType) = true) :
      Text.includes (Text.lower text) cardType = true ∧
        ∃ phrase ∈ table,
          Text.includes (Text.lower text) phrase.phrase = true ∧
          phrase = ofOther 85 cardType phrase.phrase := by
    obtain ⟨isSteady, inTable⟩ := steady cardType isType front isFront
    have lowered := Text.includes_lower isSteady included
    exact ⟨Text.includes_append_right lowered, _, inTable, lowered, rfl⟩
  rcases Bool.or_eq_true_iff.mp excluded with plain | hyphened
  · exact found (by decide) plain
  · exact found (by decide) hyphened

private theorem exists_find?_eq {text cardType : Text}
    (isType : cardType ∈ excludable)
    (named : Text.includes text cardType = true) :
    ∃ other ∈ primaryTypes, ∃ word,
      (table.find? fun phrase => Text.includes text phrase.phrase) =
        some (ofType 98 other word) ∧
      (other ≠ cardType ↔
        ∃ phrase ∈ before cardType,
          Text.includes text phrase.phrase = true) := by
  obtain ⟨⟨more, split⟩, others⟩ := table_eq_before_append isType
  rw [split, List.find?_append]
  cases earlier : (before cardType).find? fun phrase =>
      Text.includes text phrase.phrase with
  | none =>
      have isPrimary : ∀ cardType ∈ excludable, cardType ∈ primaryTypes := by
        decide
      refine ⟨cardType, isPrimary cardType isType, cardType, ?_, ?_⟩
      · exact (Option.none_or).trans (List.find?_cons_of_pos named)
      · refine iff_of_false (not_not.mpr rfl) ?_
        simpa using List.find?_eq_none.mp earlier
  | some phrase =>
      have member := List.mem_of_find?_eq_some earlier
      have included := List.find?_some earlier
      obtain ⟨other, isPrimary, isName, differs⟩ := others phrase member
      refine ⟨other, isPrimary, phrase.phrase, by rw [Option.some_or, ← isName],
        iff_of_true differs ⟨phrase, member, included⟩⟩

end TypePhrase

namespace TypeConcept

open TypePhrase

private theorem mapping_of_cardType {concept : TypeConcept} {cardType : Text}
    (isType : concept.cardType = some cardType)
    (noSupertype : concept.supertype = none)
    (noFunction : concept.function = none)
    (single : Text.includes cardType " OR " = false) :
    concept.mapping =
      { Mapping.single "t" cardType none concept.confidence .cardType
          (some (.cardType concept)) with negated := concept.negated } := by
  rw [mapping, isType, noSupertype, noFunction]
  simp only [Option.getD_some, Option.getD_none, List.isEmpty_nil,
    Bool.not_true, Bool.false_and, Bool.false_eq_true, if_false, single]

private theorem isName_mapping {cardType : Text}
    (isType : cardType ∈ primaryTypes)
    (text word : Text) :
    (TypePhrase.concept text (ofType 98 cardType word)).mapping.IsName
      cardType := by
  have single : ∀ cardType ∈ primaryTypes,
      Text.includes cardType " OR " = false := by
    decide
  rw [@mapping_of_cardType _ cardType rfl rfl rfl (single cardType isType)]
  exact ⟨rfl, rfl, rfl, rfl, by simp only [TypePhrase.concept, ofType,
    Mapping.single, nameConfidence], rfl⟩

private theorem exists_exclusion {text cardType : Text}
    (isType : cardType ∈ excludable)
    (excluded : excludes text cardType = true) :
    ∃ concept ∈ extract TypePhrase.table text,
      concept.mapping.operator = "t" ∧ concept.mapping.negated = true := by
  have keyed : ∀ cardType ∈ excludable, ∀ phrase ∈ TypePhrase.table,
      (TypePhrase.concept [] phrase).key = '-' :: cardType →
        phrase = ofOther 85 cardType phrase.phrase := by
    decide
  have ofExclusion : ∀ cardType ∈ excludable,
      (TypePhrase.concept [] (ofOther 85 cardType [])).key =
          '-' :: cardType ∧
        Text.includes cardType " OR " = false := by
    decide
  obtain ⟨isExclusion, single⟩ := ofExclusion cardType isType
  obtain ⟨_, phrase, inTable, included, isOther⟩ :=
    includes_of_excludes isType excluded
  have found : TypePhrase.concept (Text.lower text) phrase ∈
      (TypePhrase.table.filter fun phrase =>
        Text.includes (Text.lower text) phrase.phrase).map
          (TypePhrase.concept (Text.lower text)) :=
    List.mem_map.mpr ⟨phrase, List.mem_filter.mpr ⟨inTable, included⟩, rfl⟩
  obtain ⟨kept, isKept, same⟩ := exists_mem_firstKeys found List.not_mem_nil
  obtain ⟨other, among, rfl⟩ := List.mem_map.mp (mem_of_mem_firstKeys isKept)
  have isKey : (TypePhrase.concept [] other).key = '-' :: cardType := by
    rw [isOther] at same
    exact same.trans isExclusion
  have again := keyed cardType isType other (List.mem_filter.mp among).1 isKey
  refine ⟨_, isKept, ?_⟩
  rw [again, @mapping_of_cardType _ cardType rfl rfl rfl single]
  exact ⟨rfl, rfl⟩

end TypeConcept

namespace Reading

private theorem exists_onOperator_eq {reading : Reading} {first : TypeConcept}
    {more : List TypeConcept} (types : reading.types = first :: more)
    (onTypes : first.mapping.operator = "t") :
    ∃ rest, onOperator reading.candidates "t" = first.mapping :: rest := by
  have noColors : onOperator
      (reading.colors.filterMap ColorConcept.mapping?) "t" = [] := by
    rw [List.eq_nil_iff_forall_not_mem]
    intro mapping member
    obtain ⟨isMapping, onTypes⟩ := mem_onOperator_iff.mp member
    obtain ⟨concept, _, found⟩ := List.mem_filterMap.mp isMapping
    rw [ColorConcept.operator_of_mapping? found] at onTypes
    exact absurd onTypes (by decide)
  rw [candidates]
  simp only [List.append_assoc, types, List.map_cons, List.cons_append]
  rw [onOperator, List.filter_append, ← onOperator, noColors, List.nil_append,
    List.filter_cons, if_pos (by simp [onTypes])]
  exact ⟨_, rfl⟩

private theorem resolve_eq_first {first : Mapping} {rest : List Mapping}
    {cardType : Text} (isName : first.IsName cardType)
    (outranked : ∀ mapping ∈ rest, mapping.IsOutranked)
    (exclusion : ∃ mapping ∈ first :: rest, mapping.negated = true) :
    resolve first rest = first := by
  have apart : isCombinable (first :: rest) = false := by
    rw [isCombinable, Bool.and_eq_false_iff]
    left
    rw [Bool.not_eq_false', List.any_eq_true]
    obtain ⟨mapping, member, negated⟩ := exclusion
    exact ⟨mapping, member, by rw [negated, Bool.true_or]⟩
  have noColor : (first.operator == ['c']) = false := by
    rw [isName.onTypes]
    decide
  rw [resolve, apart, noColor, Bool.and_false, Bool.false_and]
  simp only [Bool.false_eq_true, if_false, ite_eq_left_iff]
  intro _
  exact best_eq_first fun mapping member =>
    (outranked mapping member).isBetter_eq_false isName

private theorem exists_onOperator_of_excludes {text : Text} {reading : Reading}
    (read : ofText text = .ok reading)
    (written : Wording.normalize text ≠ []) {cardType : Text}
    (isType : cardType ∈ TypePhrase.excludable)
    (excluded : TypePhrase.excludes (Wording.normalize text) cardType = true) :
    ∃ other ∈ TypePhrase.primaryTypes, ∃ first rest,
      onOperator reading.candidates "t" = first :: rest ∧
      first.IsName other ∧
      (∃ mapping ∈ first :: rest, mapping.negated = true) ∧
      (other ≠ cardType ↔ ∃ phrase ∈ TypePhrase.before cardType,
        Text.includes (Text.lower (Wording.normalize text)) phrase.phrase =
          true) := by
  obtain ⟨types, _, _⟩ := types_of_ofText read written
  have named := (TypePhrase.includes_of_excludes isType excluded).1
  obtain ⟨other, isPrimary, word, found, differs⟩ :=
    TypePhrase.exists_find?_eq isType named
  have isHead := TypeConcept.head?_extract TypePhrase.table
    (Wording.normalize text)
  rw [found, ← types, Option.map_some] at isHead
  obtain ⟨more, isFirst⟩ := List.head?_eq_some_iff.mp isHead
  have isName := TypeConcept.isName_mapping isPrimary
    (Text.lower (Wording.normalize text)) word
  obtain ⟨rest, candidates⟩ := exists_onOperator_eq isFirst isName.onTypes
  refine ⟨other, isPrimary, _, rest, candidates, isName, ?_, differs⟩
  obtain ⟨concept, member, onTypes, negated⟩ :=
    TypeConcept.exists_exclusion isType excluded
  rw [← types] at member
  have isCandidate : concept.mapping ∈ reading.candidates := by
    simp only [Reading.candidates, List.mem_append, List.mem_map]
    exact Or.inl (Or.inl (Or.inl (Or.inl (Or.inl (Or.inl (Or.inr
      ⟨concept, member, rfl⟩))))))
  rw [← candidates]
  exact ⟨concept.mapping, mem_onOperator_iff.mpr ⟨isCandidate, onTypes⟩,
    negated⟩

/-- A text that excludes a type has one mapping on types: the condition on the
card type that it names first in the table. -/
theorem exists_type_of_excludes {text : Text} {reading : Reading}
    (read : ofText text = .ok reading) {cardType : Text}
    (isType : cardType ∈ TypePhrase.excludable)
    (excluded : TypePhrase.excludes (Wording.normalize text) cardType = true) :
    ∃ other,
      (other ≠ cardType ↔ ∃ phrase ∈ TypePhrase.before cardType,
        Text.includes (Text.lower (Wording.normalize text)) phrase.phrase =
          true) ∧
      (∃ mapping ∈ reading.mappings Registry.standard,
        mapping.operator = "t") ∧
      ∀ mapping ∈ reading.mappings Registry.standard, mapping.operator = "t" →
        mapping.IsName other := by
  have written : Wording.normalize text ≠ [] := by
    intro nothing
    have impossible : ∀ cardType ∈ TypePhrase.excludable,
        TypePhrase.excludes [] cardType = false := by
      decide
    rw [nothing, impossible cardType isType] at excluded
    cases excluded
  obtain ⟨other, isPrimary, first, rest, candidates, isName, exclusion,
    differs⟩ := exists_onOperator_of_excludes read written isType excluded
  have outranked : ∀ mapping ∈ rest, mapping.IsOutranked := by
    intro mapping member
    have isCandidate := List.mem_cons_of_mem first member
    rw [← candidates] at isCandidate
    obtain ⟨among, onTypes⟩ := mem_onOperator_iff.mp isCandidate
    exact isOutranked_of_mem_candidates read written mapping among onTypes
  have resolved := resolve_eq_first isName outranked exclusion
  refine ⟨other, differs, ⟨first, mem_mappings_iff.mpr ⟨?_, ?_⟩,
    isName.onTypes⟩, ?_⟩
  · exact ⟨first, rest, by rw [isName.onTypes, candidates], resolved.symm⟩
  · have accepted : ∀ other ∈ TypePhrase.primaryTypes,
        Registry.standard.accepts "t" other none = true := by
      decide +kernel
    rw [isAccepted, isName.terms, isName.onTypes, List.all_cons, List.all_nil,
      Bool.and_true]
    exact accepted other isPrimary
  · intro mapping member onTypes
    obtain ⟨⟨start, others, members, isResolved⟩, _⟩ :=
      mem_mappings_iff.mp member
    rw [onTypes, candidates] at members
    cases members
    rw [isResolved, resolved]
    exact isName

/-- A text that excludes a type does not ask for it exactly if it names a card
type that is in front of it in the table.  Whatever else the text says of the
type, the exclusion itself has no say in this. -/
theorem asks_for_no_excluded_type_iff {text : Text} {reading : Reading}
    (read : ofText text = .ok reading) {cardType : Text}
    (isType : cardType ∈ TypePhrase.excludable)
    (excluded : TypePhrase.excludes (Wording.normalize text) cardType = true) :
    (∀ mapping ∈ reading.mappings Registry.standard, mapping.operator = "t" →
        mapping.negated = false → cardType ∉ mapping.values) ↔
      ∃ phrase ∈ TypePhrase.before cardType,
        Text.includes (Text.lower (Wording.normalize text)) phrase.phrase =
          true := by
  obtain ⟨other, differs, ⟨mapping, member, onTypes⟩, only⟩ :=
    exists_type_of_excludes read isType excluded
  rw [← differs]
  constructor
  · intro avoids same
    have isName := only mapping member onTypes
    apply avoids mapping member onTypes isName.plain
    rw [isName.values, same]
    exact List.mem_singleton_self cardType
  · intro differs mapping member onTypes _ asked
    rw [(only mapping member onTypes).values, List.mem_singleton] at asked
    exact differs asked.symm

theorem asks_for_no_excluded_type_iff_artifact :
    ∃ reading, ofText "nonland artifact" = .ok reading ∧
      TypePhrase.excludes (Wording.normalize "nonland artifact") "land" =
        true ∧
      ∀ mapping ∈ reading.mappings Registry.standard, mapping.operator = "t" →
        mapping.negated = false → "land".toList ∉ mapping.values := by
  have excluded : TypePhrase.excludes (Wording.normalize "nonland artifact")
      "land" = true := by
    decide +kernel
  refine ⟨_, rfl, excluded, ?_⟩
  apply (asks_for_no_excluded_type_iff rfl (by decide) excluded).mpr
  exact ⟨TypePhrase.ofType 98 "artifact" "artifact", by decide,
    by decide +kernel⟩

/-- A text that says of no land but `nonland` asks for lands. -/
theorem not_asks_for_no_excluded_type_land :
    TypePhrase.excludes (Wording.normalize "nonland") "land" = true ∧
      (∀ index < (Wording.normalize "nonland").length,
        "land".toList <+: (Wording.normalize "nonland").drop index →
          "non".toList <:+ (Wording.normalize "nonland").take index ∨
            "non-".toList <:+ (Wording.normalize "nonland").take index) ∧
      ∃ reading, ofText "nonland" = .ok reading ∧
        ∃ mapping ∈ reading.mappings Registry.standard,
          mapping.operator = "t" ∧ mapping.negated = false ∧
            "land".toList ∈ mapping.values := by
  have excluded : TypePhrase.excludes (Wording.normalize "nonland") "land" =
      true := by
    decide +kernel
  refine ⟨excluded, by decide +kernel, _, rfl, ?_⟩
  obtain ⟨other, differs, ⟨mapping, member, onTypes⟩, only⟩ :=
    exists_type_of_excludes rfl (by decide) excluded
  have isName := only mapping member onTypes
  have isLand : other = "land" := by
    by_contra isOther
    exact absurd (differs.mp isOther) (by decide +kernel)
  refine ⟨mapping, member, onTypes, isName.plain, ?_⟩
  rw [isName.values, isLand]
  exact List.mem_singleton_self _

end Reading

end CardQuery
