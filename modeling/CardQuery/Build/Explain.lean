import CardQuery.Build.Optimize

/-!
# Explanations

An explanation says in one English sentence what a query asks for.
-/

namespace CardQuery.Explain

/-- Words in a row, the last one after the conjunction. -/
def joinWords (words : List Text) (conjunction : Text) : Text :=
  match words.getLast? with
  | none => []
  | some last =>
      if words.length = 1 then last
      else Text.join ", " words.dropLast ++ " " ++ conjunction ++ " " ++ last

def colorNames : List (Char × Text) :=
  [('w', "white"), ('u', "blue"), ('b', "black"), ('r', "red"), ('g', "green"),
   ('c', "colorless"), ('m', "multicolor")]

def colorName (letter : Char) : Text := (colorNames.lookup letter).getD [letter]

def statLabels : List (Text × Text) :=
  [("mv", "mana value"), ("pow", "power"), ("tou", "toughness")]

def sign (comparison : Option Comparison) : Text := (comparison.getD .eq).symbol

def colorClause (mapping : Mapping) : Text :=
  let colors := joinWords (mapping.value.map colorName) "and"
  match mapping.comparison with
  | some .eq => "that are exactly " ++ colors
  | some .ge => "that include " ++ colors
  | _ => "that are " ++ colors

def priceClause (mapping : Mapping) : Text :=
  let before : Text :=
    if mapping.operator = "usd".toList then "$"
    else if mapping.operator = "eur".toList then "€"
    else ""
  let after : Text := if mapping.operator = "tix".toList then " tix" else ""
  if mapping.comparisons.isEmpty then
    "priced " ++ sign mapping.comparison ++ " " ++
      before ++ mapping.value ++ after
  else
    "priced between " ++ before ++ mapping.values.headD [] ++ after ++
      " and " ++ before ++ mapping.values.getLastD [] ++ after

/-- What a mapping asks for, if it is on an operator that is explained. -/
def clause? (mapping : Mapping) : Option Text :=
  let values :=
    joinWords mapping.values (if mapping.joiner = some .or then "or" else "and")
  let operator := mapping.operator
  if operator = "c".toList then some (colorClause mapping)
  else if operator = "t".toList then
    some ((if mapping.negated then "not of type " else "of type ") ++ values)
  else if operator = "function".toList then
    some ("with " ++ values ++ " effects")
  else if operator = "o".toList then some ("mentioning " ++ values)
  else if Strategy.priceOperators.contains operator then
    some (priceClause mapping)
  else if operator = "f".toList then some ("legal in " ++ values)
  else
    (statLabels.lookup operator).map fun label =>
      "with " ++ label ++ " " ++ sign mapping.comparison ++ " " ++ mapping.value

/-- What mappings ask for, and what the query is made for. -/
def sentence (mappings : List Mapping) (strategy : Option Strategy) : Text :=
  let clauses := mappings.filterMap clause?
  let searched : Text :=
    if clauses.isEmpty then "Searching for all cards"
    else "Searching for cards " ++ Text.join ", " clauses
  match strategy with
  | none => searched
  | some strategy => searched ++ " (optimized for " ++ strategy.name ++ ")"

end CardQuery.Explain
