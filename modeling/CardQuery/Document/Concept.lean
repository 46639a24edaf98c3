import CardQuery.Concept.Basic
import CardQuery.Concept.CardType
import CardQuery.Document.Reader

/-!
# Documents of concepts

How concepts and readings are written as documents and read from them.  Texts in
a concept are read without white space around them, and the colors of a concept
are read into canonical order.
-/

namespace CardQuery

open Reader

namespace ColorConcept

def document (concept : ColorConcept) : Document :=
  .record
    [("confidence", .number concept.confidence), ("kind", .text "color"),
     ("colors", .list (concept.colors.map fun color => .text [color.letter])),
     ("exact", .truth concept.isExact), ("exclusive", .truth concept.exclusive),
     ("inclusive", .truth concept.inclusive),
     ("multicolor", .truth concept.multicolor),
     ("colorless", .truth concept.colorless)]

def fieldNames : List Text :=
  ["confidence", "kind", "colors", "exact", "exclusive", "inclusive",
   "multicolor", "colorless"]

def read : Reader ColorConcept :=
  record fieldNames fun document =>
    (Checked.ofFunction
        fun confidence (_ : Unit) colors isExact exclusive inclusive multicolor
            colorless =>
          (⟨colors, isExact, exclusive, inclusive, multicolor, colorless,
            confidence⟩ : ColorConcept))
      |>.apply (required document "confidence" unitInterval)
      |>.apply (field document "kind" () (kind "color"))
      |>.apply (field document "colors" [] fun value =>
        (row (named Color.ofLetter?) value).map Color.sorted)
      |>.apply (field document "exact" false truth)
      |>.apply (field document "exclusive" false truth)
      |>.apply (field document "inclusive" false truth)
      |>.apply (field document "multicolor" false truth)
      |>.apply (field document "colorless" false truth)

end ColorConcept

namespace ArchetypeConstraints

def document (constraints : ArchetypeConstraints) : Document :=
  .record
    [("cmc_range",
        .optional (fun range => .list [.whole range.1, .whole range.2])
          constraints.manaRange),
     ("power_min", .optional .whole constraints.powerMin),
     ("keywords", .texts constraints.keywords),
     ("functions", .texts constraints.functions),
     ("card_types", .texts constraints.cardTypes),
     ("subtypes", .texts constraints.subtypes)]

/-- Whether the least mana value is not above the greatest. -/
def isOrdered (constraints : ArchetypeConstraints) : Bool :=
  constraints.manaRange.all fun range => range.1 ≤ range.2

def fieldNames : List Text :=
  ["cmc_range", "power_min", "keywords", "functions", "card_types", "subtypes"]

/-- Reads constraints, whose least mana value is not above the greatest. -/
def read : Reader ArchetypeConstraints :=
  satisfying isOrdered <| record fieldNames fun document =>
    (Checked.ofFunction ArchetypeConstraints.mk)
      |>.apply (field document "cmc_range" none (nullable (pair whole whole)))
      |>.apply (field document "power_min" none (nullable whole))
      |>.apply (field document "keywords" [] (row text))
      |>.apply (field document "functions" [] (row text))
      |>.apply (field document "card_types" [] (row text))
      |>.apply (field document "subtypes" [] (row text))

/-- Constraints that ask for nothing. -/
def nothing : ArchetypeConstraints := ⟨none, none, [], [], [], []⟩

end ArchetypeConstraints

namespace ArchetypeConcept

def document (concept : ArchetypeConcept) : Document :=
  .record
    [("kind", .text "archetype"), ("name", .text concept.name),
     ("constraints", concept.constraints.document),
     ("confidence", .number concept.confidence)]

/-- Reads the concept, whose confidence may exceed one. -/
def read : Reader ArchetypeConcept :=
  record ["kind", "name", "constraints", "confidence"] fun document =>
    (Checked.ofFunction fun (_ : Unit) name constraints confidence =>
        (⟨name, constraints, confidence⟩ : ArchetypeConcept))
      |>.apply (field document "kind" () (kind "archetype"))
      |>.apply (required document "name" trimmed)
      |>.apply (field document "constraints" .nothing ArchetypeConstraints.read)
      |>.apply (required document "confidence" (between (.finite 0) none))

end ArchetypeConcept

namespace TypeConcept

def document (concept : TypeConcept) : Document :=
  .record
    [("confidence", .number concept.confidence), ("kind", .text "type"),
     ("type", .optional .text concept.cardType),
     ("supertype", .optional .text concept.supertype),
     ("function", .optional .text concept.function),
     ("negated", .truth concept.negated), ("context", .text concept.context)]

/-- Whether the concept has a type, a supertype or a function. -/
def hasTarget (concept : TypeConcept) : Bool :=
  [concept.cardType, concept.supertype, concept.function].any fun name =>
    (nonEmpty? name).isSome

def fieldNames : List Text :=
  ["confidence", "kind", "type", "supertype", "function", "negated", "context"]

/-- Reads the concept, which has a type, a supertype or a function. -/
def read : Reader TypeConcept :=
  satisfying hasTarget <| record fieldNames fun document =>
    (Checked.ofFunction
        fun confidence (_ : Unit) cardType supertype function negated context =>
          (⟨cardType, supertype, function, negated, context, confidence⟩ :
            TypeConcept))
      |>.apply (required document "confidence" unitInterval)
      |>.apply (field document "kind" () (kind "type"))
      |>.apply (field document "type" none (nullable trimmed))
      |>.apply (field document "supertype" none (nullable trimmed))
      |>.apply (field document "function" none (nullable trimmed))
      |>.apply (field document "negated" false truth)
      |>.apply (field document "context" [] trimmed)

end TypeConcept

namespace SubtypeConcept

def document (concept : SubtypeConcept) : Document :=
  .record
    [("confidence", .number concept.confidence), ("kind", .text "subtype"),
     ("subtype", .text concept.subtype),
     ("category", .text concept.category.name)]

def read : Reader SubtypeConcept :=
  record ["confidence", "kind", "subtype", "category"] fun document =>
    (Checked.ofFunction fun confidence (_ : Unit) subtype category =>
        (⟨subtype, category, confidence⟩ : SubtypeConcept))
      |>.apply (required document "confidence" unitInterval)
      |>.apply (field document "kind" () (kind "subtype"))
      |>.apply (required document "subtype" trimmed)
      |>.apply (required document "category" (named SubtypeCategory.ofName?))

end SubtypeConcept

namespace PriceConcept

def document (concept : PriceConcept) : Document :=
  .record
    [("confidence", .number concept.confidence), ("kind", .text "price"),
     ("min", .optional .number concept.min),
     ("max", .optional .number concept.max),
     ("currency", .text concept.currency.name),
     ("condition",
        .optional (fun condition => .text condition.name) concept.condition)]

/-- Whether a bound is missing or not below zero. -/
def isBound (bound : Option Binary64) : Bool :=
  bound.all fun value => !decide (value < .finite 0)

/-- Whether the concept has a bound and none below zero. -/
def isBounded (concept : PriceConcept) : Bool :=
  (concept.min.isSome || concept.max.isSome) && isBound concept.min &&
    isBound concept.max

/-- Reads the concept, which has a bound and none below zero. -/
def read : Reader PriceConcept :=
  satisfying isBounded <|
    record ["confidence", "kind", "min", "max", "currency", "condition"]
        fun document =>
      (Checked.ofFunction
          fun confidence (_ : Unit) min max currency condition =>
            (⟨min, max, currency, condition, confidence⟩ : PriceConcept))
        |>.apply (required document "confidence" unitInterval)
        |>.apply (field document "kind" () (kind "price"))
        |>.apply (field document "min" none (nullable number))
        |>.apply (field document "max" none (nullable number))
        |>.apply (field document "currency" .usd (named Currency.ofName?))
        |>.apply (field document "condition" none
          (nullable (named PriceCondition.ofName?)))

end PriceConcept

namespace FormatConcept

def document (concept : FormatConcept) : Document :=
  .record
    [("confidence", .number concept.confidence), ("kind", .text "format"),
     ("name", .text concept.name)]

def read : Reader FormatConcept :=
  record ["confidence", "kind", "name"] fun document =>
    (Checked.ofFunction fun confidence (_ : Unit) name =>
      (⟨name, confidence⟩ : FormatConcept))
      |>.apply (required document "confidence" unitInterval)
      |>.apply (field document "kind" () (kind "format"))
      |>.apply (required document "name" trimmed)

end FormatConcept

namespace KeywordConcept

def document (concept : KeywordConcept) : Document :=
  .record
    [("confidence", .number concept.confidence), ("kind", .text "keyword"),
     ("keyword", .text concept.keyword)]

def read : Reader KeywordConcept :=
  record ["confidence", "kind", "keyword"] fun document =>
    (Checked.ofFunction fun confidence (_ : Unit) keyword =>
        (⟨keyword, confidence⟩ : KeywordConcept))
      |>.apply (required document "confidence" unitInterval)
      |>.apply (field document "kind" () (kind "keyword"))
      |>.apply (required document "keyword" trimmed)

end KeywordConcept

/-- The comparison with a given sign, apart from inequality, which concepts do
not have. -/
def Comparison.ofConceptSymbol? (symbol : Text) : Option Comparison :=
  (ofSymbol? symbol).filter (· != .ne)

namespace StatConcept

def document (concept : StatConcept) : Document :=
  .record
    [("confidence", .number concept.confidence), ("kind", .text "stat"),
     ("stat", .text concept.stat.name), ("value", .whole concept.value),
     ("comparison", .text concept.comparison.symbol)]

def read : Reader StatConcept :=
  record ["confidence", "kind", "stat", "value", "comparison"] fun document =>
    (Checked.ofFunction fun confidence (_ : Unit) stat value comparison =>
        (⟨stat, value, comparison, confidence⟩ : StatConcept))
      |>.apply (required document "confidence" unitInterval)
      |>.apply (field document "kind" () (kind "stat"))
      |>.apply (required document "stat" (named Stat.ofName?))
      |>.apply (required document "value" whole)
      |>.apply (field document "comparison" .eq
        (worded Comparison.ofConceptSymbol?))

end StatConcept

namespace Concept

def document : Concept → Document
  | color concept => concept.document
  | archetype concept => concept.document
  | cardType concept => concept.document
  | subtype concept => concept.document
  | price concept => concept.document
  | format concept => concept.document
  | keyword concept => concept.document
  | stat concept => concept.document

/-- Reads a concept of a given kind. -/
def readKind : ConceptKind → Reader Concept
  | .color => fun document => (ColorConcept.read document).map color
  | .archetype => fun document => (ArchetypeConcept.read document).map archetype
  | .cardType => fun document => (TypeConcept.read document).map cardType
  | .subtype => fun document => (SubtypeConcept.read document).map subtype
  | .price => fun document => (PriceConcept.read document).map price
  | .format => fun document => (FormatConcept.read document).map format
  | .keyword => fun document => (KeywordConcept.read document).map keyword
  | .stat => fun document => (StatConcept.read document).map stat

/-- Reads a concept of the kind that its document names; problems are found
below that name. -/
def read : Reader Concept
  | .record fields =>
      match (Document.record fields).field? "kind" with
      | some (.text name) =>
          match ConceptKind.ofName? name with
          | some kind => (readKind kind (.record fields)).under name
          | none => .fail .unknownKind
      | some _ => .fail .unknownKind
      | none => .fail .noKind
  | _ => .fail (.otherShape .variant)

end Concept

namespace Reading

def document (reading : Reading) : Document :=
  .record
    [("original_text", .text reading.passage),
     ("colors", .list (reading.colors.map ColorConcept.document)),
     ("types", .list (reading.types.map TypeConcept.document)),
     ("subtypes", .list (reading.subtypes.map SubtypeConcept.document)),
     ("archetypes", .list (reading.archetypes.map ArchetypeConcept.document)),
     ("prices", .list (reading.prices.map PriceConcept.document)),
     ("formats", .list (reading.formats.map FormatConcept.document)),
     ("keywords", .list (reading.keywords.map KeywordConcept.document)),
     ("stats", .list (reading.stats.map StatConcept.document)),
     ("confidence", .number reading.confidence),
     ("ambiguities", .texts reading.ambiguities)]

def fieldNames : List Text :=
  ["original_text", "colors", "types", "subtypes", "archetypes", "prices",
   "formats", "keywords", "stats", "confidence", "ambiguities"]

def read : Reader Reading :=
  record fieldNames fun document =>
    (Checked.ofFunction Reading.mk)
      |>.apply (field document "original_text" [] text)
      |>.apply (field document "colors" [] (list ColorConcept.read))
      |>.apply (field document "types" [] (list TypeConcept.read))
      |>.apply (field document "subtypes" [] (list SubtypeConcept.read))
      |>.apply (field document "archetypes" [] (list ArchetypeConcept.read))
      |>.apply (field document "prices" [] (list PriceConcept.read))
      |>.apply (field document "formats" [] (list FormatConcept.read))
      |>.apply (field document "keywords" [] (list KeywordConcept.read))
      |>.apply (field document "stats" [] (list StatConcept.read))
      |>.apply (field document "confidence" (.finite 0) unitInterval)
      |>.apply (field document "ambiguities" [] (list text))

end Reading

end CardQuery
