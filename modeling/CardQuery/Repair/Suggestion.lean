import CardQuery.Text.Basic

/-!
# Suggestions

A suggestion is a whole query to use instead of another one, with the reason to
do so.
-/

namespace CardQuery

inductive Change where
  | addition
  | removal
  | replacement
  | refinement
deriving DecidableEq, Repr, Inhabited

def Change.name : Change → Text
  | .addition => "addition"
  | .removal => "removal"
  | .replacement => "replacement"
  | .refinement => "query_refinement"

inductive Certainty where
  | high
  | medium
deriving DecidableEq, Repr, Inhabited

def Certainty.name : Certainty → Text
  | .high => "high"
  | .medium => "medium"

inductive Impact where
  | fixesError
  | improvesStyle
  | broadensResults
  | narrowsResults
deriving DecidableEq, Repr, Inhabited

def Impact.name : Impact → Text
  | .fixesError => "fixes_error"
  | .improvesStyle => "improves_style"
  | .broadensResults => "broadens_results"
  | .narrowsResults => "narrows_results"

/-- A query to use instead of another one. -/
structure Suggestion where
  change : Change
  description : Text
  query : Text
  certainty : Certainty
  impact : Impact
deriving DecidableEq, Repr, Inhabited

end CardQuery
