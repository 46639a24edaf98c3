import CardQuery.Concept.Basic

/-!
# Mappings

A mapping is a condition or several conditions on one operator that stand for a
concept.  It has one value, or parts that are joined: all of them or any of them
must hold.  Parts are compared as the mapping says, or each in its own way.
-/

namespace CardQuery

/-- How the parts of a mapping are joined. -/
inductive Joiner where
  | and
  | or
deriving DecidableEq, Repr, Inhabited

namespace Joiner

def name : Joiner → Text
  | and => "AND"
  | or => "OR"

def ofName? (name : Text) : Option Joiner :=
  [Joiner.and, or].find? (·.name == name)

/-- Parts with the joiner between them. -/
def join (joiner : Joiner) (parts : List Text) : Text :=
  Text.join (" " ++ joiner.name ++ " ") parts

end Joiner

/-- Conditions on one operator that stand for a concept. -/
structure Mapping where
  operator : Text
  /-- The value, or all parts with the joiner between them. -/
  value : Text
  comparison : Option Comparison
  confidence : Binary64
  source : ConceptKind
  sourceConcept : Option Concept
  negated : Bool
  parts : List Text
  joiner : Option Joiner
  /-- The comparison of each part, or nothing where all parts are compared in
  one way. -/
  comparisons : List Comparison
deriving DecidableEq, Repr

namespace Mapping

/-- A mapping with one value. -/
def single (operator value : Text) (comparison : Option Comparison)
    (confidence : Binary64) (source : ConceptKind) (concept : Option Concept) :
    Mapping :=
  ⟨operator, value, comparison, confidence, source, concept, false, [],
    none, []⟩

/-- A mapping with parts, each once; one part alone is a value. -/
def joined (joiner : Joiner) (operator : Text) (parts : List Text)
    (confidence : Binary64) (source : ConceptKind) (concept : Option Concept) :
    Mapping :=
  match Text.distinct parts with
  | [only] => single operator only none confidence source concept
  | parts =>
      ⟨operator, joiner.join parts, none, confidence, source, concept, false,
        parts, some joiner, []⟩

/-- The parts, or the value where there are none. -/
def values (mapping : Mapping) : List Text :=
  if mapping.parts.isEmpty then [mapping.value] else mapping.parts

/-- The comparison and the value of each condition. -/
def terms (mapping : Mapping) : List (Option Comparison × Text) :=
  if mapping.comparisons.isEmpty then mapping.values.map (mapping.comparison, ·)
  else (mapping.comparisons.map some).zip mapping.parts

end Mapping

end CardQuery
