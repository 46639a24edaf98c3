import CardQuery.Operator.Standard
import CardQuery.Operator.Usage
import CardQuery.Repair.Fix
import CardQuery.Repair.Refine
import CardQuery.Search.Measure
import CardQuery.Search.Quotation
import CardQuery.Search.Scan
import CardQuery.Search.Structure
import CardQuery.Settings

/-!
# Validation of a query

A validator reads a query, checks its structure, its quotes, its conditions and
their values, adds advice on style and size, and suggests better queries.  A
query is valid when no check finds an error; each warning about a valid query
lowers the confidence in it.

Nothing goes wrong outside the result: a fault inside is reported as an error of
the query.
-/

namespace CardQuery

/-- What is known about a query after its validation. -/
structure Validation where
  errors : List Finding
  warnings : List Finding
  suggestions : List Suggestion
  confidence : Binary64
  /-- Twice the complexity of the query. -/
  complexityHalves : Nat
deriving DecidableEq, Repr

namespace Validation

def isValid (validation : Validation) : Bool := validation.errors.isEmpty

def complexity (validation : Validation) : Binary64 :=
  (Binary64.ofInt validation.complexityHalves).divideBy 2

/-- The validation of a query that a fault has kept from being checked. -/
def failed (query : Text) : Validation where
  errors :=
    [⟨.internalError, "Internal validation error", some ⟨0, query.length⟩, []⟩]
  warnings := []
  suggestions := []
  confidence := Binary64.finite 0
  complexityHalves := 0

end Validation

/-- A registry and settings to validate queries with. -/
structure Validator where
  registry : Registry
  settings : Settings

namespace Validator

/-- The validator with the registry, or with the standard one in place of one
without operators. -/
def make (registry : Registry) (settings : Settings) : Validator :=
  ⟨registry.orElse Registry.standard, settings⟩

def standard : Validator := make Registry.standard Settings.standard

/-- Asks for each unknown operator whether its first correction was meant. -/
def meantWarnings (errors : List Finding) : List Finding :=
  errors.filterMap fun error =>
    if error.code = .unknownOperator then
      error.corrections.head?.map fun correction =>
        { error with message := "Did you mean '" ++ correction ++ "'?" }
    else none

/-- Asks for words in the place of symbols. -/
def styleWarnings (tokens : List Token) : List Finding :=
  tokens.filterMap fun token =>
    if token.form = .word then
      (Fix.symbolName? token.text).map fun name =>
        .onToken token .symbolicConnective
          ("Use '" ++ name ++ "' instead of '" ++ token.text ++ "'") []
    else none

/-- A warning about the whole query if one number is larger than another. -/
def warnAbove (number limit : Nat) (message : Text) : List Finding :=
  if limit < number then [⟨.costly, message, none, []⟩] else []

def sizeWarnings (settings : Settings) (query : Text) (tokens : List Token) :
    List Finding :=
  let count := (Token.conditions tokens).length
  let depth := Token.nestingDepth tokens
  warnAbove count settings.maxOperators
      ("Query uses " ++ Text.ofNat count ++ " operators (more than " ++
        Text.ofNat settings.maxOperators ++ ") and may be slow") ++
    warnAbove query.length settings.maxQueryLength
      ("Query is " ++ Text.ofNat query.length ++
        " characters long (more than " ++
        Text.ofNat settings.maxQueryLength ++ ") and may be slow") ++
    warnAbove depth settings.maxNestingDepth
      ("Parentheses nest " ++ Text.ofNat depth ++ " levels deep (more than " ++
        Text.ofNat settings.maxNestingDepth ++ ")")

def errors (validator : Validator) (query : Text) : List Finding :=
  let tokens := Token.read query
  Structure.findings tokens ++ Quotation.findings query ++
    (Usage.checkConditions validator.registry
      validator.settings.suggestionDistance tokens).errors ++
    (Usage.checkValues validator.registry tokens).errors

def warnings (validator : Validator) (query : Text) : List Finding :=
  let tokens := Token.read query
  let meaningful := Token.meaningful tokens
  let conditions :=
    Usage.checkConditions validator.registry
      validator.settings.suggestionDistance tokens
  meantWarnings conditions.errors ++ conditions.warnings ++
    (Usage.checkValues validator.registry tokens).warnings ++
    styleWarnings meaningful ++
    sizeWarnings validator.settings query meaningful

def confidence (validator : Validator) (errors warnings : List Finding) :
    Binary64 :=
  if errors.isEmpty then
    (Binary64.ofInt 1 - validator.settings.warningPenalty).power warnings.length
  else Binary64.finite 0

def refinements (validator : Validator) (query : Text)
    (count : Option Refine.ResultCount) : Except Fault (List Suggestion) :=
  match count with
  | none => .ok []
  | some count =>
      Refine.suggestions validator.registry
        validator.settings.refinementThreshold query count

/-- Checks a query, unless a fault keeps it from being checked or its findings
from being acted on. -/
def run (validator : Validator) (query : Text)
    (count : Option Refine.ResultCount) : Except Fault Validation := do
  Usage.requireMeasurable validator.registry
    validator.settings.suggestionDistance (Token.read query)
  let errors := validator.errors query
  let warnings := validator.warnings query
  let fixes ← Fix.suggestions query (errors ++ warnings)
  let refinements ← validator.refinements query count
  return {
    errors
    warnings
    suggestions := fixes ++ refinements
    confidence := validator.confidence errors warnings
    complexityHalves :=
      Token.complexityHalves (Token.meaningful (Token.read query)) }

/-- Validates a query; the number of results that it had before leads to
refinements. -/
def validate (validator : Validator) (query : Text)
    (count : Option Refine.ResultCount) : Validation :=
  match validator.run query count with
  | .ok validation => validation
  | .error _ => .failed query

/-- One step of repairing a query: the query and its validation. -/
structure RepairStep where
  query : Text
  validation : Validation

/-- Repairs a query step by step, at most `steps` of them: while there is a
suggestion, the query is replaced by the one that `pick` chooses, counted around
the list of suggestions. -/
def repair (validator : Validator) (count : Option Refine.ResultCount)
    (pick : Int) : (steps : Nat) → Text → List RepairStep
  | 0, _ => []
  | steps + 1, query =>
      let validation := validator.validate query count
      let chosen :=
        validation.suggestions[(pick % validation.suggestions.length).toNat]?
      ⟨query, validation⟩ ::
        match chosen with
        | none => []
        | some suggestion => validator.repair count pick steps suggestion.query

end Validator

end CardQuery
