import CardQuery.Number.Binary64
import CardQuery.Operator.Registry
import CardQuery.Repair.Edit
import CardQuery.Repair.Suggestion
import CardQuery.Search.Scan

/-!
# Refinements

A query without results is broadened by removing all conditions of a group of
operators, one group at a time.  A query with more results than a threshold is
narrowed by one more condition.
-/

namespace CardQuery.Refine

/-- The number of results that a query had, as it was told. -/
inductive ResultCount where
  | number (count : Int)
  /-- A number that need not be whole, as one that is estimated. -/
  | estimate (count : Binary64)
  /-- Something that is no number. -/
  | other
deriving DecidableEq, Repr

namespace ResultCount

def isZero : ResultCount → Bool
  | number count => count == 0
  | estimate count => count == .finite 0 || count == .negativeZero
  | other => false

/-- Whether there were more results than a threshold; nothing but a number can
be compared. -/
def exceeds (threshold : Int) : ResultCount → Except Fault Bool
  | number count => .ok (threshold < count)
  | estimate count => .ok (count.exceeds threshold)
  | other => .error .incomparable

end ResultCount

/-- Operators that are dropped together to broaden a query. -/
structure Group where
  names : List Text
  description : Text

/-- The groups in the order in which they are offered. -/
def groups : List Group :=
  [⟨["set"], "Remove the set restriction"⟩,
   ⟨["manavalue"], "Remove the mana value constraint"⟩,
   ⟨["format", "banned", "restricted"], "Remove the format restriction"⟩]

/-- The conditions of a query with a known operator, each with the operator's
own name. -/
def knownConditions (registry : Registry) (query : Text) :
    List (Token × Text) :=
  (Token.conditions (Token.read query)).filterMap fun (token, condition) =>
    (registry.get? condition.name).map fun operator => (token, operator.name)

/-- The query without the spans, which are removed from the last to the
first. -/
def removeAll (query : Text) (spans : List Span) : Text :=
  spans.foldr (fun span rest =>
    Edit.removeSpan rest span.position.toNat span.stop.toNat) query

/-- The query without the conditions of a group. -/
def broadenBy? (registry : Registry) (query : Text) (group : Group) :
    Option Suggestion :=
  let spans := ((knownConditions registry query).filter fun (_, name) =>
    group.names.contains name).map (·.1.span)
  let broadened := Text.strip (removeAll query spans)
  if spans.isEmpty || broadened.isEmpty || broadened == query then none
  else
    some ⟨.refinement, group.description ++ " to broaden your search",
      broadened, .medium, .broadensResults⟩

/-- The queries that ask for less. -/
def broaden (registry : Registry) (query : Text) : List Suggestion :=
  groups.filterMap (broadenBy? registry query)

def narrowBy (query condition description : Text) : Suggestion :=
  ⟨.refinement, description ++ " to narrow your search",
    Text.stripEnd query ++ ' ' :: condition, .medium, .narrowsResults⟩

/-- The query that asks for more: for a format, or else for a small mana
value. -/
def narrow (registry : Registry) (query : Text) : List Suggestion :=
  let present := (knownConditions registry query).map (·.2)
  if !present.contains "format".toList then
    [narrowBy query "f:standard" "Restrict to Standard-legal cards"]
  else if !present.contains "manavalue".toList then
    [narrowBy query "mv<=6" "Limit mana value to 6 or less"]
  else []

/-- The queries to use instead of one that had a number of results. -/
def suggestions (registry : Registry) (threshold : Int) (query : Text)
    (count : ResultCount) : Except Fault (List Suggestion) := do
  if count.isZero then return broaden registry query
  else if ← count.exceeds threshold then return narrow registry query
  else return []

end CardQuery.Refine
