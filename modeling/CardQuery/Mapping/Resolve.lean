import CardQuery.Concept.CardType
import CardQuery.Mapping.OfConcept
import CardQuery.Operator.Registry

/-!
# One mapping for each operator

Mappings on one operator are resolved into one.  Color letters are united, and
types, rules texts and functions are joined where that can be meant; otherwise
the most certain mapping stays.  A mapping with a condition that the registry
does not accept is dropped.
-/

namespace CardQuery

namespace Mapping

/-- Adds a mapping to the group of its operator, or starts a new group. -/
def addToGroup (mapping : Mapping) : List (List Mapping) → List (List Mapping)
  | [] => [[mapping]]
  | group :: rest =>
      if group.head?.any (·.operator == mapping.operator) then
        (group ++ [mapping]) :: rest
      else group :: addToGroup mapping rest

def groups (mappings : List Mapping) : List (List Mapping) :=
  mappings.foldl (fun groups mapping => addToGroup mapping groups) []

/-- Whether a mapping is more certain than another, or as certain and of a kind
that comes first. -/
def isBetter (mapping other : Mapping) : Bool :=
  other.confidence < mapping.confidence ||
    (mapping.confidence ≤ other.confidence &&
      other.confidence ≤ mapping.confidence &&
      mapping.source.rank < other.source.rank)

/-- The best of some mappings, the first of equal ones. -/
def best (first : Mapping) (rest : List Mapping) : Mapping :=
  rest.foldl
    (fun best mapping => if mapping.isBetter best then mapping else best) first

/-- Whether the value of the mapping is a set of color letters. -/
def isLetterSet (mapping : Mapping) : Bool :=
  !mapping.negated && mapping.parts.isEmpty && mapping.value != ['c'] &&
    mapping.value != ['m'] && mapping.value.all Vocabulary.colorLetters.contains

def uniteColors (first : Mapping) (rest : List Mapping) : Mapping :=
  { best first rest with
    value := Vocabulary.colorLetters.filter fun letter =>
      (first :: rest).any (·.value.contains letter) }

/-- Whether all mappings can hold at once: none is negated or asks for one of
several values, and they name at most one card type. -/
def isCombinable (group : List Mapping) : Bool :=
  !group.any (fun mapping => mapping.negated || mapping.joiner == some .or) &&
    (Text.distinct ((group.flatMap values).filter
      TypePhrase.primaryTypes.contains)).length ≤ 1

/-- The best mapping with the values of all of them. -/
def combine (first : Mapping) (rest : List Mapping) : Mapping :=
  match Text.distinct ((first :: rest).flatMap values) with
  | [only] =>
      { best first rest with value := only, parts := [], joiner := none }
  | parts =>
      { best first rest with
        value := Joiner.and.join parts, parts, joiner := some .and }

def combinedOperators : List Text := ["t", "o", "function"]

def resolve (first : Mapping) (rest : List Mapping) : Mapping :=
  if rest.isEmpty then first
  else if first.operator == ['c'] && (first :: rest).all isLetterSet then
    uniteColors first rest
  else if combinedOperators.contains first.operator &&
      isCombinable (first :: rest) then
    combine first rest
  else best first rest

def resolveGroup? : List Mapping → Option Mapping
  | [] => none
  | first :: rest => some (resolve first rest)

def isAccepted (registry : Registry) (mapping : Mapping) : Bool :=
  mapping.terms.all fun (comparison, value) =>
    registry.accepts mapping.operator value comparison

end Mapping

/-- The mappings of a reading, at most one for each operator. -/
def Reading.mappings (registry : Registry) (reading : Reading) : List Mapping :=
  ((Mapping.groups reading.candidates).filterMap Mapping.resolveGroup?).filter
    (Mapping.isAccepted registry)

end CardQuery
