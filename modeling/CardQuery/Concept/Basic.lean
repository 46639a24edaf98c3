import CardQuery.Number.Binary64
import CardQuery.Search.Token

/-!
# Concepts

A concept is something about cards that an English text asks for: colors, a card
type, a subtype, a kind of deck, a price, a format, a keyword ability or a
number on the card.  Each concept has a confidence, and a `Reading` holds all
concepts of one text.
-/

namespace CardQuery

inductive Color where
  | white
  | blue
  | black
  | red
  | green
deriving DecidableEq, Repr, Inhabited

namespace Color

def letter : Color → Char
  | white => 'w'
  | blue => 'u'
  | black => 'b'
  | red => 'r'
  | green => 'g'

/-- The colors in their canonical order. -/
def all : List Color := [white, blue, black, red, green]

def ofLetter? (letter : Text) : Option Color :=
  all.find? fun color => [color.letter] == letter

/-- The colors of a list in canonical order, each once. -/
def sorted (colors : List Color) : List Color := all.filter colors.contains

theorem mem_sorted {color : Color} {colors : List Color} :
    color ∈ sorted colors ↔ color ∈ colors := by
  cases color <;> simp [sorted, all]

theorem sorted_sorted (colors : List Color) :
    sorted (sorted colors) = sorted colors := by
  unfold sorted
  apply List.filter_congr
  intro color _
  simp only [List.contains_eq_mem]
  congr 1
  exact propext mem_sorted

end Color

/-- A restriction of colors. -/
structure ColorConcept where
  colors : List Color
  isExact : Bool
  exclusive : Bool
  inclusive : Bool
  multicolor : Bool
  colorless : Bool
  confidence : Binary64
deriving DecidableEq, Repr

/-- What a kind of deck asks of its cards. -/
structure ArchetypeConstraints where
  /-- The least and the greatest mana value. -/
  manaRange : Option (Int × Int)
  powerMin : Option Int
  keywords : List Text
  functions : List Text
  cardTypes : List Text
  subtypes : List Text
deriving DecidableEq, Repr, Inhabited

structure ArchetypeConcept where
  name : Text
  constraints : ArchetypeConstraints
  confidence : Binary64
deriving DecidableEq, Repr

/-- A card type, a supertype or what a card is for. -/
structure TypeConcept where
  cardType : Option Text
  supertype : Option Text
  function : Option Text
  negated : Bool
  /-- The words around the mention. -/
  context : Text
  confidence : Binary64
deriving DecidableEq, Repr

inductive SubtypeCategory where
  | creature
  | artifact
  | land
  | enchantment
deriving DecidableEq, Repr, Inhabited

namespace SubtypeCategory

def name : SubtypeCategory → Text
  | creature => "creature"
  | artifact => "artifact"
  | land => "land"
  | enchantment => "enchantment"

def ofName? (name : Text) : Option SubtypeCategory :=
  [creature, artifact, land, enchantment].find? (·.name == name)

end SubtypeCategory

structure SubtypeConcept where
  subtype : Text
  category : SubtypeCategory
  confidence : Binary64
deriving DecidableEq, Repr

inductive Currency where
  | usd
  | eur
  | tix
deriving DecidableEq, Repr, Inhabited

namespace Currency

def name : Currency → Text
  | usd => "usd"
  | eur => "eur"
  | tix => "tix"

def ofName? (name : Text) : Option Currency :=
  [usd, eur, tix].find? (·.name == name)

end Currency

/-- How a text speaks of a price without an amount. -/
inductive PriceCondition where
  | budget
  | value
  | premium
deriving DecidableEq, Repr, Inhabited

namespace PriceCondition

def name : PriceCondition → Text
  | budget => "budget"
  | value => "value"
  | premium => "premium"

def ofName? (name : Text) : Option PriceCondition :=
  [budget, value, premium].find? (·.name == name)

end PriceCondition

structure PriceConcept where
  min : Option Binary64
  max : Option Binary64
  currency : Currency
  condition : Option PriceCondition
  confidence : Binary64
deriving DecidableEq, Repr

structure FormatConcept where
  name : Text
  confidence : Binary64
deriving DecidableEq, Repr

structure KeywordConcept where
  keyword : Text
  confidence : Binary64
deriving DecidableEq, Repr

inductive Stat where
  | manaValue
  | power
  | toughness
deriving DecidableEq, Repr, Inhabited

namespace Stat

def name : Stat → Text
  | manaValue => "mana_value"
  | power => "power"
  | toughness => "toughness"

def ofName? (name : Text) : Option Stat :=
  [manaValue, power, toughness].find? (·.name == name)

end Stat

structure StatConcept where
  stat : Stat
  value : Int
  comparison : Comparison
  confidence : Binary64
deriving DecidableEq, Repr

inductive ConceptKind where
  | color
  | cardType
  | subtype
  | price
  | format
  | keyword
  | stat
  | archetype
deriving DecidableEq, Repr, Inhabited

namespace ConceptKind

def name : ConceptKind → Text
  | color => "color"
  | cardType => "type"
  | subtype => "subtype"
  | price => "price"
  | format => "format"
  | keyword => "keyword"
  | stat => "stat"
  | archetype => "archetype"

def ofName? (name : Text) : Option ConceptKind :=
  [color, cardType, subtype, price, format, keyword, stat,
   archetype].find? (·.name == name)

/-- The rank of a kind: concepts of a lower rank come first and win ties. -/
def rank : ConceptKind → Nat
  | color => 0
  | cardType => 1
  | subtype => 1
  | price => 2
  | format => 3
  | keyword => 4
  | stat => 4
  | archetype => 5

end ConceptKind

/-- Something about cards that a text asks for. -/
inductive Concept where
  | color (concept : ColorConcept)
  | archetype (concept : ArchetypeConcept)
  | cardType (concept : TypeConcept)
  | subtype (concept : SubtypeConcept)
  | price (concept : PriceConcept)
  | format (concept : FormatConcept)
  | keyword (concept : KeywordConcept)
  | stat (concept : StatConcept)
deriving DecidableEq, Repr

/-- All concepts of one text, with the confidence in them and what is ambiguous
about them. -/
structure Reading where
  passage : Text
  colors : List ColorConcept
  types : List TypeConcept
  subtypes : List SubtypeConcept
  archetypes : List ArchetypeConcept
  prices : List PriceConcept
  formats : List FormatConcept
  keywords : List KeywordConcept
  stats : List StatConcept
  confidence : Binary64
  ambiguities : List Text
deriving DecidableEq, Repr

namespace Reading

def empty (text : Text) : Reading :=
  ⟨text, [], [], [], [], [], [], [], [], .finite 0, []⟩

def concepts (reading : Reading) : List Concept :=
  reading.colors.map .color ++ reading.types.map .cardType ++
    reading.subtypes.map .subtype ++ reading.archetypes.map .archetype ++
    reading.prices.map .price ++ reading.formats.map .format ++
    reading.keywords.map .keyword ++ reading.stats.map .stat

def isEmpty (reading : Reading) : Bool := reading.concepts.isEmpty

end Reading

def percent (hundredths : Nat) : Binary64 := .ofDecimal false hundredths (-2)

end CardQuery
