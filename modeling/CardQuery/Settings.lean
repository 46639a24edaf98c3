import CardQuery.Number.Binary64
import CardQuery.Text.Basic

/-!
# Settings

Thresholds of the advice that is given on a query.  They never change which
queries are valid.
-/

namespace CardQuery

/-- Thresholds of advice. -/
structure Settings where
  logLevel : Text
  /-- How many conditions a query may have before it is called slow. -/
  maxOperators : Nat
  /-- How many characters a query may have before it is called slow. -/
  maxQueryLength : Nat
  /-- How deep brackets may nest before they are warned of. -/
  maxNestingDepth : Nat
  /-- The share of its confidence that a query loses by each warning. -/
  warningPenalty : Binary64
  /-- The number of results above which a narrower query is offered. -/
  refinementThreshold : Nat
  /-- How far a correction may lie from a misspelt operator. -/
  suggestionDistance : Nat
deriving DecidableEq, Repr

/-- The settings of an environment that sets nothing. -/
def Settings.standard : Settings where
  logLevel := "INFO"
  maxOperators := 10
  maxQueryLength := 200
  maxNestingDepth := 5
  warningPenalty := Binary64.ofDecimal false 1 (-1)
  refinementThreshold := 100
  suggestionDistance := 2

end CardQuery
