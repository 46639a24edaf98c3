import CardQuery.Build.Explain
import CardQuery.Concept.Reading
import CardQuery.Mapping.Resolve
import CardQuery.Text.Quoted
import CardQuery.Validation

/-!
# Building a query

A builder turns a reading into a query: it maps the concepts, forces the
caller's options, applies the strategy, validates the result and offers other
queries for the same text.
-/

namespace CardQuery

inductive AlternativeKind where
  | formatRestriction
  | optimization
deriving DecidableEq, Repr, Inhabited

def AlternativeKind.name : AlternativeKind → Text
  | formatRestriction => "format_restriction"
  | optimization => "optimization"

/-- Another query for the same text. -/
structure Alternative where
  query : Text
  description : Text
  kind : AlternativeKind
  confidence : Binary64
deriving DecidableEq, Repr

/-- A query with what is known about it. -/
structure Built where
  query : Text
  explanation : Text
  confidence : Binary64
  alternatives : List Alternative
  optimizations : List Optimization
  mappings : List Mapping
  validation : Validation
deriving DecidableEq, Repr

/-- Why there is no query for what is asked. -/
inductive Refusal where
  | unknownFormat (format : Text)
  /-- Nothing in the text can be searched for. -/
  | nothingToSearch (text : Text)
deriving DecidableEq, Repr

def Refusal.message : Refusal → Text
  | unknownFormat format => "Unknown format: " ++ format
  | nothingToSearch text => "No searchable concepts in: " ++ Text.quoted text

inductive BuildError where
  | refused (refusal : Refusal)
  | strategy (error : StrategyError)
deriving DecidableEq, Repr

def BuildError.message : BuildError → Text
  | refused refusal => refusal.message
  | strategy error => error.message

/-- A validator, whose registry maps concepts as well. -/
structure Builder where
  registry : Registry
  validator : Validator

namespace Builder

def make (registry : Registry) (settings : Settings) : Builder :=
  ⟨registry.orElse Registry.standard, Validator.make registry settings⟩

/-- The confidence in a query: that in the reading, more if nothing was changed
and less for every change, between zero and one. -/
def confidence (reading : Reading) (optimizations : List Optimization)
    (validation : Validation) : Binary64 :=
  if validation.isValid then
    let usual := reading.confidence
    let raised := if optimizations.isEmpty then usual + percent 10 else usual
    let reduced := raised - percent 5 * .ofInt optimizations.length
    (Binary64.finite 0).larger ((Binary64.ofInt 1).smaller reduced)
  else .finite 0

/-- The queries with one more format, where the mappings name none. -/
def formatAlternatives (mappings : List Mapping) :
    Except RenderError (List Alternative) :=
  if Strategy.mentions mappings ["f"] then .ok []
  else
    ["standard".toList, "modern", "commander", "legacy"].mapM fun name => do
      let query ← Optimized.render ⟨mappings, ["f:" ++ name], []⟩
      return ⟨query, "Same search restricted to " ++ name, .formatRestriction,
        percent 80⟩

def strategyAlternative? (mappings : List Mapping) (base : Text)
    (strategy : Strategy) : Except StrategyError (Option Alternative) := do
  let optimized ← strategy.apply mappings
  let query ← optimized.render.mapError .render
  return if query = base then none
    else
      some ⟨query, "Optimized for " ++ strategy.name, .optimization, percent 70⟩

/-- The alternatives whose query is none of those seen and none of an earlier
alternative. -/
def fresh (seen : List Text) : List Alternative → List Alternative
  | [] => []
  | first :: rest =>
      if first.query.isEmpty || seen.contains first.query then fresh seen rest
      else first :: fresh (first.query :: seen) rest

/-- At most three other queries for the mappings. -/
def alternatives (mappings : List Mapping) (chosen : Strategy) (query : Text) :
    Except StrategyError (List Alternative) := do
  let base ← (Optimized.render ⟨mappings, [], []⟩).mapError .render
  let formats ← (formatAlternatives mappings).mapError .render
  let strategies ← (Strategy.all.filter (· != chosen)).mapM
    (strategyAlternative? mappings base)
  return (fresh [query] (formats ++ strategies.filterMap id)).take 3

def build (builder : Builder) (reading : Reading) (options : BuildOptions) :
    Except BuildError Built := do
  let mappings ←
    (options.apply builder.registry
      (reading.mappings builder.registry)).mapError
      fun unknown => .refused (.unknownFormat unknown.format)
  let optimized ← (options.strategy.apply mappings).mapError .strategy
  let query ← optimized.render.mapError fun error => .strategy (.render error)
  if query.isEmpty then throw (.refused (.nothingToSearch reading.passage))
  let validation := builder.validator.validate query none
  let alternatives ←
    (alternatives mappings options.strategy query).mapError .strategy
  return {
    query
    explanation := Explain.sentence optimized.mappings (some options.strategy)
    confidence := confidence reading optimized.optimizations validation
    alternatives
    optimizations := optimized.optimizations
    mappings := optimized.mappings
    validation }

end Builder

end CardQuery
