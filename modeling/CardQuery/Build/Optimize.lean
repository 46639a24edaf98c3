import CardQuery.Build.Options
import CardQuery.Concept.Trait
import CardQuery.Mapping.Render

/-!
# Strategies

A strategy adds terms to a query or relaxes its mappings, and reports each
change.  Precision and budget cap the price, precision also asks for common
formats, discovery for unusual printings; coverage lowers a bound of the power
and widens the first card type that has relatives.
-/

namespace CardQuery

inductive OptimizationKind where
  | broadening
  | narrowing
  | formatConstraint
  | priceConstraint
deriving DecidableEq, Repr, Inhabited

def OptimizationKind.name : OptimizationKind → Text
  | broadening => "broadening"
  | narrowing => "narrowing"
  | formatConstraint => "format_constraint"
  | priceConstraint => "price_constraint"

structure Optimization where
  kind : OptimizationKind
  reason : Text
  change : Text
deriving DecidableEq, Repr, Inhabited

/-- Mappings after a strategy, with the terms that it added and its changes. -/
structure Optimized where
  mappings : List Mapping
  extras : List Text
  optimizations : List Optimization
deriving DecidableEq, Repr

inductive StrategyError where
  /-- A bound has digits that are not read as a number. -/
  | number (error : NumberError)
  | render (error : RenderError)
deriving DecidableEq, Repr

def StrategyError.message : StrategyError → Text
  | number error => error.message
  | render error => error.message

namespace Strategy

def priceOperators : List Text := ["usd", "eur", "tix"]

/-- A group of terms of which any may hold. -/
def anyTerm (operator : Text) (values : List Text) : Text :=
  "(" ++ Text.join " OR " (values.map fun value =>
    operator ++ ":" ++ value) ++ ")"

/-- An added term with the change that it makes. -/
structure Addition where
  term : Text
  kind : OptimizationKind
  reason : Text

def withAdditions (mappings : List Mapping) (additions : List Addition) :
    Optimized where
  mappings := mappings
  extras := additions.map (·.term)
  optimizations := additions.map fun addition =>
    ⟨addition.kind, addition.reason, "added " ++ addition.term⟩

def mentions (mappings : List Mapping) (operators : List Text) : Bool :=
  mappings.any fun mapping => operators.contains mapping.operator

def precisionAdditions (mappings : List Mapping) : List Addition :=
  (if mentions mappings ["f"] then []
    else
      [⟨anyTerm "f" ["standard", "modern", "commander"], .formatConstraint,
        "No format specified"⟩])
    ++ if mentions mappings priceOperators then []
      else [⟨"usd<=50", .priceConstraint, "No price specified"⟩]

def discoveryAdditions (mappings : List Mapping) : List Addition :=
  if mentions mappings ["is"] then []
  else
    [⟨anyTerm "is" ["unique", "reserved", "promo"], .narrowing,
      "Favor unusual printings"⟩]

def budgetAdditions (mappings : List Mapping) : List Addition :=
  if mentions mappings priceOperators then []
  else [⟨"usd<=5", .priceConstraint, "Budget search"⟩]

/-- The card types that are like a card type. -/
def relatedTypes : List (Text × List Text) :=
  [("creature", ["planeswalker"]), ("instant", ["sorcery"]),
   ("sorcery", ["instant"]), ("artifact", ["enchantment"]),
   ("enchantment", ["artifact"])]

def broadening (reason : Text) (before after : Mapping) :
    Except RenderError Optimization := do
  let before ← before.render
  let after ← after.render
  return ⟨.broadening, reason, before ++ " → " ++ after⟩

/-- The bound of power by one less, but not less than one; nothing for any other
mapping and for a bound that stays as it is written. -/
def lowerPower? (mapping : Mapping) : Except NumberError (Option Mapping) :=
  if mapping.operator == "pow".toList && mapping.comparison == some .ge &&
      !mapping.value.isEmpty && mapping.value.all Text.isDigitLike then do
    let power ← readNumber mapping.value
    let lowered := Text.ofNat (max 1 (power - 1))
    return if lowered = mapping.value then none
      else some { mapping with value := lowered }
  else .ok none

/-- The mapping of a card type with the types that are like it. -/
def widenType? (mapping : Mapping) : Option Mapping :=
  if mapping.operator == "t".toList && mapping.parts.isEmpty &&
      !mapping.negated then
    (relatedTypes.lookup mapping.value).map fun related =>
      let parts := mapping.value :: related
      { mapping with value := Joiner.or.join parts, parts, joiner := some .or }
  else none

/-- One mapping after it has been relaxed, with the change. -/
structure Relaxed where
  mapping : Mapping
  optimization : Option Optimization
  widened : Bool

/-- Relaxes one mapping; `widened` tells whether a card type has been widened
before. -/
def relaxOne (widened : Bool) (mapping : Mapping) :
    Except StrategyError Relaxed := do
  match ← (lowerPower? mapping).mapError .number with
  | some lowered =>
      let change ←
        (broadening "Relax power requirement" mapping lowered).mapError .render
      return ⟨lowered, some change, widened⟩
  | none =>
      match if widened then none else widenType? mapping with
      | some wider =>
          let change ←
            (broadening "Include related card types" mapping wider).mapError
              .render
          return ⟨wider, some change, true⟩
      | none => return ⟨mapping, none, widened⟩

def relax (widened : Bool) : List Mapping → Except StrategyError Optimized
  | [] => .ok ⟨[], [], []⟩
  | first :: rest => do
      let relaxed ← relaxOne widened first
      let later ← relax relaxed.widened rest
      return ⟨relaxed.mapping :: later.mappings, [],
        relaxed.optimization.toList ++ later.optimizations⟩

def apply (strategy : Strategy) (mappings : List Mapping) :
    Except StrategyError Optimized :=
  match strategy with
  | precision => .ok (withAdditions mappings (precisionAdditions mappings))
  | coverage => relax false mappings
  | discovery => .ok (withAdditions mappings (discoveryAdditions mappings))
  | budget => .ok (withAdditions mappings (budgetAdditions mappings))

end Strategy

namespace Optimized

/-- Mappings and added terms as a query, which may be empty. -/
def render (optimized : Optimized) : Except RenderError Text := do
  let rendered ← optimized.mappings.mapM Mapping.render
  return Text.join " " (rendered ++ optimized.extras)

end Optimized

end CardQuery
