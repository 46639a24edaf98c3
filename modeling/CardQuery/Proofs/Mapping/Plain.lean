import CardQuery.Proofs.Concept.Plain
import CardQuery.Proofs.Mapping.OfConcept
import CardQuery.Proofs.Mapping.Resolution

/-!
# Mappings of plain readings

The values of a plain reading hold no symbols, and neither does what groups are
resolved to: free text is joined from the words of the reading, and all other
values are such that the registry would not accept a symbol in them.  A query of
such mappings is therefore valid.
-/

namespace CardQuery

open Lexeme Structure

namespace Text

private theorem mem_of_mem_splitFrom {separator text piece : Text}
    {skipped : Nat}
    (isPiece : piece ∈ splitFrom separator skipped text) {character : Char}
    (member : character ∈ piece) : character ∈ text := by
  induction text generalizing skipped piece with
  | nil =>
      rw [splitFrom, List.mem_singleton] at isPiece
      rw [isPiece] at member
      exact member
  | cons first rest ih =>
      cases skipped with
      | succ skipped =>
          exact List.mem_cons_of_mem first (ih isPiece member)
      | zero =>
          rw [splitFrom] at isPiece
          split at isPiece
          · rcases List.mem_cons.mp isPiece with rfl | later
            · cases member
            · exact List.mem_cons_of_mem first (ih later member)
          · split at isPiece
            next piece more isSplit =>
              rcases List.mem_cons.mp isPiece with rfl | later
              · rcases List.mem_cons.mp member with rfl | inPiece
                · exact List.mem_cons_self
                · exact List.mem_cons_of_mem first
                    (ih (by rw [isSplit]; exact List.mem_cons_self) inPiece)
              · exact List.mem_cons_of_mem first
                  (ih (by rw [isSplit]; exact List.mem_cons_of_mem _ later)
                    member)
            next =>
              rw [List.mem_singleton] at isPiece
              rw [isPiece, List.mem_singleton] at member
              rw [member]
              exact List.mem_cons_self

private theorem isSymbolFree_of_mem_split {separator text piece : Text}
    (isPiece : piece ∈ split separator text)
    (free : isSymbolFree text = true) : isSymbolFree piece = true := by
  rw [isSymbolFree_iff] at free ⊢
  exact fun character member =>
    free character (mem_of_mem_splitFrom isPiece member)

end Text

namespace Mapping

/-- A mapping that can be rendered and whose values hold no symbol. -/
structure IsPlain (mapping : Mapping) : Prop extends IsWritable mapping where
  filled : mapping.value ≠ []
  symbolFree : ∀ term ∈ mapping.terms, isSymbolFree term.2 = true

private theorem startsWithSymbol_of_isSymbolFree {value : Text}
    (free : isSymbolFree value = true) : startsWithSymbol value = false := by
  rw [startsWithSymbol, Bool.and_eq_false_iff]
  right
  rw [Bool.eq_false_iff]
  intro symbol
  obtain ⟨part, rest, isPart, rfl⟩ := startsSymbol_iff.mp symbol
  have plain := isSymbolFree_iff.mp free part List.mem_cons_self
  rw [isPart] at plain
  contradiction

private theorem endsInConnective_of_isSymbolFree {value : Text}
    (free : isSymbolFree value = true) : endsInConnective value = false := by
  have none : leftover value = [] := by
    rw [leftover]
    split
    next bare =>
      rw [spanRun_eq_self (fun character member =>
        endsRun_of_not_isSpecial (not_isSpecial_of_isBare bare member))
          (isSymbolFree_iff.mp free)]
    next => rfl
  rw [endsInConnective, none, Lexeme.forms_nil]
  rfl

private theorem areSeparate_of_isPlain {mappings : List Mapping}
    (plain : ∀ mapping ∈ mappings, mapping.IsPlain) : AreSeparate mappings where
  starts := fun mapping member term isTerm =>
    startsWithSymbol_of_isSymbolFree
      ((plain mapping member).symbolFree term isTerm)
  alternatives := fun mapping member _ term isTerm =>
    endsInConnective_of_isSymbolFree
      ((plain mapping member).symbolFree term isTerm)
  ends := fun mapping isLast term isLastTerm =>
    endsInConnective_of_isSymbolFree
      ((plain mapping (List.mem_of_getLast? isLast)).symbolFree term
        (List.mem_of_getLast? isLastTerm))

theorem errors_eq_nil_of_isPlain {mappings : List Mapping}
    (nonempty : mappings ≠ []) (plain : ∀ mapping ∈ mappings, mapping.IsPlain)
    (settings : Settings) :
    (Validator.make Registry.standard settings).errors
      (Text.join " " (mappings.map written)) = [] := by
  have rendered : query mappings =
      .ok (Text.join " " (mappings.map written)) :=
    query_eq_ok_iff.mpr
      ⟨fun mapping member => (plain mapping member).filled, nonempty, rfl⟩
  exact (errors_query_eq_nil_iff (fun mapping member =>
    (plain mapping member).toIsWritable) rendered settings).mpr
      (areSeparate_of_isPlain plain)

private theorem grammar_ne_text {name : Text} (known : name ∈ operators)
    (notCombined : name ∉ combinedOperators) {operator : Operator}
    (found : Registry.standard.get? name = some operator) :
    operator.grammar ≠ .text := by
  have grammars : ∀ name ∈ operators, name ∉ combinedOperators →
      (Registry.standard.get? name).all (·.grammar != .text) = true := by
    decide
  have notText := grammars name known notCombined
  rw [found] at notText
  simpa using notText

/-- What resolving leaves of a plain reading: free text without symbols, and a
power that can be read. -/
structure IsSimple (mapping : Mapping) : Prop where
  words : mapping.operator ∈ combinedOperators →
    ∀ value ∈ mapping.values, isSymbolFree value = true
  power : mapping.operator = "pow".toList →
    ∃ number, readNumber mapping.value = .ok number

private theorem isSimple_of_other {mapping : Mapping}
    (notCombined : mapping.operator ∉ combinedOperators)
    (notPower : mapping.operator ≠ "pow".toList) : mapping.IsSimple where
  words := fun combined => absurd combined notCombined
  power := fun power => absurd power notPower

private theorem isSimple_of_words {mapping : Mapping}
    (notPower : mapping.operator ≠ "pow".toList)
    (free : ∀ value ∈ mapping.values, isSymbolFree value = true) :
    mapping.IsSimple where
  words := fun _ => free
  power := fun power => absurd power notPower

private theorem isSymbolFree_of_mem_parts {mapping : Mapping}
    {words : List Text}
    (parts : mapping.parts = Text.distinct words)
    (noParts : mapping.parts = [] → mapping.value = [])
    (free : ∀ word ∈ words, isSymbolFree word = true) :
    ∀ value ∈ mapping.values, isSymbolFree value = true := by
  intro value member
  rw [values] at member
  split at member
  next none =>
    rw [List.mem_singleton.mp member, noParts (List.isEmpty_iff.mp none)]
    rfl
  next =>
    rw [parts] at member
    exact free value (Text.mem_distinct_iff.mp member)

private theorem isSymbolFree_of_mem_single {mapping : Mapping} {only : Text}
    {words : List Text} (isValue : mapping.value = only)
    (noParts : mapping.parts = []) (alone : Text.distinct words = [only])
    (free : ∀ word ∈ words, isSymbolFree word = true) :
    ∀ value ∈ mapping.values, isSymbolFree value = true := by
  intro value member
  simp only [values, noParts, List.isEmpty_nil, if_true,
    List.mem_singleton] at member
  rw [member, isValue]
  apply free
  rw [← Text.mem_distinct_iff, alone]
  exact List.mem_singleton_self only

private theorem isSymbolFree_of_mem_joined {joiner : Joiner} {operator : Text}
    {parts : List Text} {confidence : Binary64} {source : ConceptKind}
    {concept : Option Concept}
    (free : ∀ part ∈ parts, isSymbolFree part = true) :
    ∀ value ∈ (joined joiner operator parts confidence source concept).values,
      isSymbolFree value = true := by
  unfold joined
  split
  next only alone => exact isSymbolFree_of_mem_single rfl rfl alone free
  next =>
    exact isSymbolFree_of_mem_parts rfl (fun none => by
      change joiner.join (Text.distinct parts) = []
      rw [show Text.distinct parts = [] from none]
      rfl) free

private theorem isSimple_joined {joiner : Joiner} {operator : Text}
    {parts : List Text} {confidence : Binary64} {source : ConceptKind}
    {concept : Option Concept} (notPower : operator ≠ "pow".toList)
    (free : ∀ part ∈ parts, isSymbolFree part = true) :
    (joined joiner operator parts confidence source concept).IsSimple := by
  have same : (joined joiner operator parts confidence source
      concept).operator = operator := by
    unfold joined
    split <;> rfl
  apply isSimple_of_words
  · rw [same]
    exact notPower
  · exact isSymbolFree_of_mem_joined free

private theorem isSimple_single {operator value : Text}
    {comparison : Option Comparison} {confidence : Binary64}
    {source : ConceptKind} {concept : Option Concept}
    (notPower : operator ≠ "pow".toList) (free : isSymbolFree value = true) :
    (single operator value comparison confidence source concept).IsSimple := by
  apply isSimple_of_words notPower
  intro other member
  rw [List.mem_singleton.mp member]
  exact free

private theorem isSimple_count {operator : Text}
    (notCombined : operator ∉ combinedOperators) {value : Int}
    (isCount : IsCount value) {comparison : Option Comparison}
    {confidence : Binary64} {source : ConceptKind} {concept : Option Concept} :
    (single operator (Text.ofInt value) comparison confidence source
      concept).IsSimple where
  words := fun combined => absurd combined notCombined
  power := by
    intro _
    obtain ⟨number, rfl, readable⟩ := isCount
    change ∃ again, readNumber (Text.ofInt number) = .ok again
    rw [Text.ofInt_natCast]
    exact ⟨number, readNumber_ofNat_of_isReadable readable⟩

private theorem resolve_isSimple {first : Mapping} {rest : List Mapping}
    (isGroup : IsGroup (first :: rest))
    (simple : ∀ mapping ∈ first :: rest, mapping.IsSimple) :
    (resolve first rest).IsSimple := by
  have isBest := best_mem first rest
  have bestSimple := simple _ isBest
  have same := isGroup.uniform first List.mem_cons_self _ isBest
  rw [resolve]
  split
  · exact simple first List.mem_cons_self
  · split
    next letters =>
      rw [Bool.and_eq_true, beq_iff_eq] at letters
      have isColor : (uniteColors first rest).operator = ['c'] :=
        same.symm.trans letters.1
      apply isSimple_of_other
      · rw [isColor]
        decide
      · rw [isColor]
        decide
    next =>
      split
      next combinable =>
        rw [Bool.and_eq_true, List.contains_iff_mem] at combinable
        have words : ∀ value ∈ (first :: rest).flatMap values,
            isSymbolFree value = true := by
          intro value member
          obtain ⟨mapping, among, inMapping⟩ := List.mem_flatMap.mp member
          have combined : mapping.operator ∈ combinedOperators := by
            rw [← isGroup.uniform first List.mem_cons_self mapping among]
            exact combinable.1
          exact (simple mapping among).words combined value inMapping
        have notPower : (best first rest).operator ≠ "pow".toList := by
          rw [← same]
          intro isPower
          rw [isPower] at combinable
          exact absurd combinable.1 (by decide)
        unfold combine
        split
        next only alone =>
          exact isSimple_of_words notPower
            (isSymbolFree_of_mem_single rfl rfl alone words)
        next =>
          exact isSimple_of_words notPower
            (isSymbolFree_of_mem_parts rfl (fun none => by
              change Joiner.and.join (Text.distinct _) = []
              rw [show Text.distinct _ = [] from none]
              rfl) words)
      next => exact bestSimple

end Mapping

open Mapping

private theorem ColorConcept.isSimple_mapping? {concept : ColorConcept}
    {mapping : Mapping} (found : mapping ∈ concept.mapping?) :
    mapping.IsSimple := by
  have isColor := ColorConcept.operator_of_mapping? found
  apply isSimple_of_other
  · rw [isColor]
    decide
  · rw [isColor]
    decide

private theorem TypeConcept.isSimple_mapping {concept : TypeConcept}
    (cardType : isSymbolFree (concept.cardType.getD []) = true)
    (supertype : isSymbolFree (concept.supertype.getD []) = true)
    (function : isSymbolFree (concept.function.getD []) = true) :
    concept.mapping.IsSimple := by
  unfold TypeConcept.mapping
  dsimp only
  split
  · split
    · exact isSimple_single (by decide) supertype
    · split
      · exact isSimple_joined (by decide) fun piece isPiece =>
          Text.isSymbolFree_of_mem_split isPiece cardType
      · refine isSimple_of_words (by simp [single]) ?_
        intro value member
        rw [List.mem_singleton.mp member]
        exact cardType
  · exact isSimple_single (by decide) function

private theorem PriceConcept.isSimple_mapping? {concept : PriceConcept}
    {mapping : Mapping} (found : mapping ∈ concept.mapping?) :
    mapping.IsSimple := by
  have isPrice := PriceConcept.operator_of_mapping? found
  apply isSimple_of_other
  · rw [isPrice]
    cases concept.currency <;> decide
  · rw [isPrice]
    cases concept.currency <;> decide

namespace ArchetypeConcept

private theorem isSimple_of_mem_hints {concept : ArchetypeConcept}
    {joiner : Joiner} {operator : Text} {share : Nat} {values : List Text}
    {mapping : Mapping} (notPower : operator ≠ "pow".toList)
    (free : ∀ value ∈ values, isSymbolFree value = true)
    (member : mapping ∈ concept.hints joiner operator share values) :
    mapping.IsSimple := by
  rw [hints] at member
  split at member
  · cases member
  · rw [List.mem_singleton.mp member]
    exact isSimple_joined notPower free

private theorem isSimple_of_mem_mappings {concept : ArchetypeConcept}
    (free : ∀ word ∈ concept.constraints.keywords ++
      concept.constraints.functions ++ concept.constraints.cardTypes ++
      concept.constraints.subtypes, isSymbolFree word = true)
    (power : ∀ power ∈ concept.constraints.powerMin, IsCount power)
    {mapping : Mapping} (member : mapping ∈ concept.mappings) :
    mapping.IsSimple := by
  simp only [List.mem_append, or_imp, forall_and] at free
  obtain ⟨⟨⟨keywords, functions⟩, cardTypes⟩, subtypes⟩ := free
  simp only [mappings, List.mem_append, Option.mem_toList,
    Option.map_eq_some_iff] at member
  rcases member with
    (((⟨range, _, rfl⟩ | ⟨least, isLeast, rfl⟩) | inKeywords) | inFunctions) |
      inTypes
  · exact isSimple_of_other (by simp [hint, single, combinedOperators])
      (by simp [hint, single])
  · exact isSimple_count (by decide) (power least isLeast)
  · exact isSimple_of_mem_hints (by decide) keywords inKeywords
  · exact isSimple_of_mem_hints (by decide) functions inFunctions
  · split at inTypes
    · exact isSimple_of_mem_hints (by decide) cardTypes inTypes
    · exact isSimple_of_mem_hints (by decide) subtypes inTypes

private theorem isSimple_of_mem_withSubtypes {concept : ArchetypeConcept}
    {subtypes : List Text}
    (free : ∀ word ∈ concept.constraints.keywords ++
      concept.constraints.functions ++ concept.constraints.cardTypes ++
      concept.constraints.subtypes, isSymbolFree word = true)
    (power : ∀ power ∈ concept.constraints.powerMin, IsCount power)
    (subtypesFree : ∀ subtype ∈ subtypes, isSymbolFree subtype = true)
    {mapping : Mapping}
    (member : mapping ∈ (concept.withSubtypes subtypes).mappings) :
    mapping.IsSimple := by
  rw [withSubtypes] at member
  split at member
  · refine @isSimple_of_mem_mappings _ ?_ ?_ _ member
    · simp only [List.mem_append, or_imp, forall_and] at free ⊢
      exact ⟨free.1, subtypesFree⟩
    · exact power
  · exact isSimple_of_mem_mappings free power member

end ArchetypeConcept

namespace Reading

private theorem isSimple_of_mem_candidates {reading : Reading}
    (plain : reading.IsPlain) :
    ∀ mapping ∈ reading.candidates, mapping.IsSimple := by
  apply forall_mem_candidates
  · intro concept _ mapping found
    exact ColorConcept.isSimple_mapping? found
  · intro concept among
    obtain ⟨cardType, supertype, function⟩ := plain.types concept among
    exact TypeConcept.isSimple_mapping cardType supertype function
  · intro concept among
    exact isSimple_single (by decide) (plain.subtypes concept among)
  · intro concept _ mapping found
    exact PriceConcept.isSimple_mapping? found
  · intro concept _
    exact isSimple_of_other
      (by simp [FormatConcept.mapping, single, combinedOperators])
      (by simp [FormatConcept.mapping, single])
  · intro concept among
    exact isSimple_single (by decide) (plain.keywords concept among)
  · intro concept among
    apply isSimple_count _ (plain.stats concept among)
    cases concept.stat <;> decide
  · intro concept among mapping member
    obtain ⟨words, powers⟩ := plain.archetypes concept among
    refine ArchetypeConcept.isSimple_of_mem_withSubtypes words powers ?_ member
    intro subtype isSubtype
    obtain ⟨found, inSubtypes, rfl⟩ := List.mem_map.mp isSubtype
    exact plain.subtypes found (List.mem_filter.mp inSubtypes).1

theorem isSimple_of_mem_mappings {reading : Reading} (plain : reading.IsPlain)
    {registry : Registry} {mapping : Mapping}
    (member : mapping ∈ reading.mappings registry) : mapping.IsSimple := by
  obtain ⟨⟨first, rest, rfl, isGroup, candidates⟩, _⟩ := mem_mappings member
  exact resolve_isSimple isGroup fun candidate among =>
    isSimple_of_mem_candidates plain candidate (candidates candidate among)

end Reading

namespace Mapping

theorem accepts_of_isAccepted {registry : Registry} {mapping : Mapping}
    (accepted : mapping.isAccepted registry = true)
    {term : Option Comparison × Text} (isTerm : term ∈ mapping.terms) :
    registry.accepts mapping.operator term.2 term.1 = true :=
  List.all_eq_true.mp accepted term isTerm

theorem terms_of_uncompared {mapping : Mapping}
    (none : mapping.comparisons = []) :
    mapping.terms = mapping.values.map (mapping.comparison, ·) := by
  rw [terms, none]
  rfl

theorem value_ne_nil_of_isAccepted {registry : Registry} {mapping : Mapping}
    (regular : mapping.IsRegular)
    (accepted : mapping.isAccepted registry = true) :
    mapping.value ≠ [] := by
  by_cases noParts : mapping.parts = []
  · have uncompared : mapping.comparisons = [] := by
      rcases regular.compared with none | ⟨parts, _⟩
      · exact none
      · contradiction
    have isTerm : (mapping.comparison, mapping.value) ∈ mapping.terms := by
      rw [terms_of_uncompared uncompared, values, noParts]
      exact List.mem_singleton_self _
    obtain ⟨_, _, nonempty, _⟩ :=
      Registry.accepts_iff.mp (accepts_of_isAccepted accepted isTerm)
    exact nonempty
  · exact regular.filled noParts

private theorem isSymbolFree_of_mem_terms {mapping : Mapping}
    (regular : mapping.IsRegular) (simple : mapping.IsSimple)
    (accepted : mapping.isAccepted Registry.standard = true)
    {term : Option Comparison × Text} (isTerm : term ∈ mapping.terms) :
    isSymbolFree term.2 = true := by
  by_cases combined : mapping.operator ∈ combinedOperators
  · have uncompared : mapping.comparisons = [] := by
      rcases regular.compared with none | ⟨_, apart⟩
      · exact none
      · contradiction
    rw [terms_of_uncompared uncompared] at isTerm
    obtain ⟨value, inValues, rfl⟩ := List.mem_map.mp isTerm
    exact simple.words combined value inValues
  · obtain ⟨operator, found, _, _, clean⟩ :=
      Registry.accepts_iff.mp (accepts_of_isAccepted accepted isTerm)
    exact Grammar.isSymbolFree_of_accepted
      (grammar_ne_text regular.known combined found)
      (fun _ _ choice => Operator.isSymbolFree_of_choice
        (Registry.mem_of_get? found) choice) clean

private theorem isPlain_of_isRegular {mapping : Mapping}
    (regular : mapping.IsRegular)
    (simple : mapping.IsSimple)
    (accepted : mapping.isAccepted Registry.standard = true) :
    mapping.IsPlain where
  toIsWritable := isWritable_of_isRegular regular accepted
  filled := value_ne_nil_of_isAccepted regular accepted
  symbolFree := fun _ => isSymbolFree_of_mem_terms regular simple accepted

end Mapping

theorem Reading.isPlain_of_mem_mappings {reading : Reading}
    (plain : reading.IsPlain) {mapping : Mapping}
    (member : mapping ∈ reading.mappings Registry.standard) :
    mapping.IsPlain :=
  isPlain_of_isRegular (isRegular_of_mem_mappings member)
    (isSimple_of_mem_mappings plain member) (mem_mappings member).2

end CardQuery
