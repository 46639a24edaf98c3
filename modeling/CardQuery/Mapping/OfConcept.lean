import CardQuery.Concept.Archetype
import CardQuery.Mapping.Basic
import CardQuery.Number.Decimal

/-!
# The mappings of a concept

Every concept becomes no, one or several mappings.  What a kind of deck asks of
its cards becomes hints, each with a share of the confidence in the kind of
deck.
-/

namespace CardQuery

def ColorConcept.mapping? (concept : ColorConcept) : Option Mapping :=
  let value : Text :=
    if concept.colorless then "c"
    else if concept.multicolor then "m"
    else concept.colors.map Color.letter
  let comparison : Option Comparison :=
    if concept.isExact || concept.exclusive then some .eq
    else if concept.inclusive then some .ge
    else none
  if value.isEmpty then none
  else
    some (.single "c" value comparison concept.confidence .color
      (some (.color concept)))

def TypeConcept.mapping (concept : TypeConcept) : Mapping :=
  let single (operator value : Text) : Mapping :=
    .single operator value none concept.confidence .cardType
      (some (.cardType concept))
  let cardType := concept.cardType.getD []
  let supertype := concept.supertype.getD []
  match concept.function.getD [] with
  | [] =>
      if !supertype.isEmpty && cardType.isEmpty then single "t" supertype
      else if Text.includes cardType " OR " then
        .joined .or "t" (Text.split " OR " cardType) concept.confidence
          .cardType (some (.cardType concept))
      else { single "t" cardType with negated := concept.negated }
  | function => single "function" function

def SubtypeConcept.mapping (concept : SubtypeConcept) : Mapping :=
  .single "t" concept.subtype none concept.confidence .subtype
    (some (.subtype concept))

/-- The mapping of a price: one bound, two bounds or, where they are equal, one
value.  A price without a bound has none. -/
def PriceConcept.mapping? (concept : PriceConcept) : Option Mapping :=
  let single (value : Binary64) (comparison : Comparison) : Mapping :=
    .single concept.currency.name value.plain (some comparison)
      concept.confidence .price (some (.price concept))
  match concept.min, concept.max with
  | some low, some high =>
      if low ≤ high ∧ high ≤ low then some (single low .eq)
      else
        let parts := [low.plain, high.plain]
        some
          { single low .ge with
            value := Joiner.and.join parts
            comparison := none
            parts
            joiner := some .and
            comparisons := [.ge, .le] }
  | none, some high => some (single high .le)
  | some low, none => some (single low .ge)
  | none, none => none

def FormatConcept.mapping (concept : FormatConcept) : Mapping :=
  .single "f" concept.name none concept.confidence .format
    (some (.format concept))

def KeywordConcept.mapping (concept : KeywordConcept) : Mapping :=
  .single "o" concept.keyword none concept.confidence .keyword
    (some (.keyword concept))

def Stat.operator : Stat → Text
  | manaValue => "mv"
  | power => "pow"
  | toughness => "tou"

def StatConcept.mapping (concept : StatConcept) : Mapping :=
  .single concept.stat.operator (Text.ofInt concept.value)
    (some concept.comparison) concept.confidence .stat (some (.stat concept))

namespace ArchetypeConcept

/-- A hint with one value and a share of the confidence in the kind of deck. -/
def hint (concept : ArchetypeConcept) (operator : Text) (share : Nat)
    (value : Int) (comparison : Comparison) : Mapping :=
  .single operator (Text.ofInt value) (some comparison)
    (concept.confidence * .ofDecimal false share (-1)) .archetype
    (some (.archetype concept))

/-- A hint with joined values, if there are any. -/
def hints (concept : ArchetypeConcept) (joiner : Joiner) (operator : Text)
    (share : Nat) (values : List Text) : List Mapping :=
  if values.isEmpty then []
  else
    [.joined joiner operator values
      (concept.confidence * .ofDecimal false share (-1)) .archetype
      (some (.archetype concept))]

def mappings (concept : ArchetypeConcept) : List Mapping :=
  let constraints := concept.constraints
  (constraints.manaRange.map fun range =>
    concept.hint "mv" 8 range.2 .le).toList ++
    (constraints.powerMin.map fun power =>
      concept.hint "pow" 7 power .ge).toList ++
    concept.hints .or "o" 6 constraints.keywords ++
    concept.hints .or "function" 8 constraints.functions ++
    if constraints.subtypes.isEmpty then
      concept.hints .or "t" 9 constraints.cardTypes
    else concept.hints .and "t" 9 constraints.subtypes

end ArchetypeConcept

namespace Reading

def creatureSubtypes (reading : Reading) : List Text :=
  (reading.subtypes.filter (·.category == .creature)).map (·.subtype)

/-- The mappings of all concepts, before conflicts are resolved. -/
def candidates (reading : Reading) : List Mapping :=
  reading.colors.filterMap ColorConcept.mapping? ++
    reading.types.map TypeConcept.mapping ++
    reading.subtypes.map SubtypeConcept.mapping ++
    reading.prices.filterMap PriceConcept.mapping? ++
    reading.formats.map FormatConcept.mapping ++
    reading.keywords.map KeywordConcept.mapping ++
    reading.stats.map StatConcept.mapping ++
    reading.archetypes.flatMap fun archetype =>
      (archetype.withSubtypes reading.creatureSubtypes).mappings

end Reading

end CardQuery
