import CardQuery.Mapping.OfConcept
import CardQuery.Operator.Registry

/-!
# Options of a build

Whoever has a query built chooses what it is made for, and may force a format
and a budget in dollars.  A forced value takes the place of the first mapping on
its operator; where there is none, it comes behind all mappings of a kind that
does not come after its own.
-/

namespace CardQuery

inductive Strategy where
  | precision
  /-- More results rather than fewer. -/
  | coverage
  | discovery
  | budget
deriving DecidableEq, Repr, Inhabited

namespace Strategy

def name : Strategy → Text
  | precision => "precision"
  | coverage => "recall"
  | discovery => "discovery"
  | budget => "budget"

def all : List Strategy := [precision, coverage, discovery, budget]

def ofName? (name : Text) : Option Strategy := all.find? (·.name == name)

end Strategy

structure BuildOptions where
  strategy : Strategy
  format : Option Text
  priceBudget : Option Binary64
  maxResults : Int
deriving DecidableEq, Repr

/-- The options of a caller who wants nothing in particular. -/
def BuildOptions.standard : BuildOptions := ⟨.precision, none, none, 20⟩

namespace Mapping

/-- Inserts a mapping before the first one of a kind that comes after its
own. -/
def insertByRank (mapping : Mapping) : List Mapping → List Mapping
  | [] => [mapping]
  | first :: rest =>
      if mapping.source.rank < first.source.rank then mapping :: first :: rest
      else first :: insertByRank mapping rest

/-- Replaces the first mapping on the operator, if there is one. -/
def replaceFirst? (mapping : Mapping) : List Mapping → Option (List Mapping)
  | [] => none
  | first :: rest =>
      if first.operator = mapping.operator then some (mapping :: rest)
      else (replaceFirst? mapping rest).map (first :: ·)

/-- Puts a mapping into the place of the first one on its operator, or inserts
it by its kind. -/
def override (mapping : Mapping) (mappings : List Mapping) : List Mapping :=
  (replaceFirst? mapping mappings).getD (insertByRank mapping mappings)

def ofFormat (name : Text) : Mapping :=
  single "f" name none (.ofInt 1) .format none

def ofBudget (budget : Binary64) : Mapping :=
  single "usd" budget.plain (some .le) (.ofInt 1) .price none

end Mapping

structure UnknownFormat where
  format : Text
deriving DecidableEq, Repr

namespace BuildOptions

/-- Forces the format, if there is one, onto mappings. -/
def applyFormat (options : BuildOptions) (registry : Registry)
    (mappings : List Mapping) : Except UnknownFormat (List Mapping) :=
  match options.format with
  | none | some [] => .ok mappings
  | some format =>
      let name := Text.lower format
      if registry.accepts "f" name none then
        .ok ((Mapping.ofFormat name).override mappings)
      else .error ⟨format⟩

def applyBudget (options : BuildOptions) (mappings : List Mapping) :
    List Mapping :=
  match options.priceBudget with
  | none => mappings
  | some budget => (Mapping.ofBudget budget).override mappings

def apply (options : BuildOptions) (registry : Registry)
    (mappings : List Mapping) : Except UnknownFormat (List Mapping) :=
  (options.applyFormat registry mappings).map options.applyBudget

end BuildOptions

end CardQuery
