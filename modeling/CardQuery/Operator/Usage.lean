import CardQuery.Operator.Registry

/-!
# How a query uses operators

Two checks look at the conditions of a query with a registry at hand.
`checkConditions` asks of every condition whether its operator is known, may be
compared in this way and has a value, and then warns of pairs of conditions that
are allowed but hardly meant.  `checkValues` reports what the grammars say about
the values.  A comparison that a grammar refuses is the concern of the first
check alone.
-/

namespace CardQuery.Usage

/-- A condition with a value and an operator that the registry knows. -/
structure Known where
  token : Token
  condition : Condition
  operator : Operator

def place (token : Token) (issue : Issue) : Finding :=
  .onToken token issue.code issue.message issue.corrections

def unknownOperator (registry : Registry) (maxDistance : Int) (token : Token)
    (condition : Condition) : Finding :=
  let corrections :=
    registry.closest condition.name maxDistance Spelling.usualLimit
  .onToken token .unknownOperator
    ("Unknown operator '" ++ condition.name ++ "'" ++
      Grammar.didYouMean corrections) corrections

/-- Finds fault with an ordering comparison that the operator does not have. -/
def unsupportedComparison (token : Token) (condition : Condition)
    (operator : Operator) : List Finding :=
  match condition.comparison with
  | some comparison =>
      if comparison.isOrdering && !operator.allowsOrdering then
        [.onToken token .comparisonNotSupported
          ("Operator '" ++ condition.name ++
            "' does not support comparison '" ++ comparison.symbol ++
            "'; use ':'") []]
      else []
  | none => []

def missingValue (token : Token) (condition : Condition) : Finding :=
  .onToken token .missingValue
    ("Operator '" ++ condition.name ++
      Comparison.separator condition.comparison ++
      "' is missing a value") []

/-- The faults of a value whose comparison the grammar refuses. -/
def refusedComparison (token : Token) (condition : Condition)
    (operator : Operator) : List Finding :=
  ((operator.grammar.check condition.value condition.sign?).errors.filter
    (·.code == .comparisonNotAllowed)).map (place token)

def conditionErrors (registry : Registry) (maxDistance : Int) (token : Token)
    (condition : Condition) : List Finding :=
  match registry.get? condition.name with
  | none => [unknownOperator registry maxDistance token condition]
  | some operator =>
      let unsupported := unsupportedComparison token condition operator
      if condition.value.isEmpty then
        unsupported ++ [missingValue token condition]
      else if unsupported.isEmpty then
        refusedComparison token condition operator
      else unsupported

def known (registry : Registry) (tokens : List Token) : List Known :=
  (Token.conditions tokens).filterMap fun (token, condition) =>
    if condition.value.isEmpty then none
    else (registry.get? condition.name).map fun operator =>
      ⟨token, condition, operator⟩

/-- Every element with every later one. -/
def laterPairs {α : Type} : List α → List (α × α)
  | [] => []
  | first :: rest => rest.map (first, ·) ++ laterPairs rest

/-- Whether two conditions ask for the same thing. -/
def isDuplicate (first second : Known) : Bool :=
  first.operator.name == second.operator.name &&
    Text.lower first.condition.value == Text.lower second.condition.value &&
    first.condition.comparison == second.condition.comparison &&
    first.condition.negated == second.condition.negated

def isAboutColors (operator : Operator) : Bool :=
  ["color".toList, "coloridentity"].contains operator.name

def isColored (value : Text) : Bool :=
  !(["c".toList, "colorless"].contains (Text.lower value))

def isColorConflict (first second : Known) : Bool :=
  isAboutColors first.operator && isAboutColors second.operator &&
    !first.condition.negated && !second.condition.negated &&
    isColored first.condition.value != isColored second.condition.value

def isFormatPair (first second : Known) : Bool :=
  first.operator.name == "format".toList &&
    second.operator.name == "format".toList &&
    !first.condition.negated && !second.condition.negated &&
    Text.lower first.condition.value != Text.lower second.condition.value

def isPrintingPair (first second : Known) : Bool :=
  let names := [first.operator.name, second.operator.name]
  names.contains "set".toList && names.contains "number".toList

def duplicateWarning (second : Known) : Finding :=
  .onToken second.token .duplicateOperator
    ("Duplicate condition '" ++ second.token.text ++ "' has no effect") []

def colorWarning (first second : Known) : Finding :=
  .onToken second.token .conflictingColors
    ("'" ++ first.token.text ++ "' and '" ++ second.token.text ++
      "' conflict: colorless cards have no colors") []

def formatWarning (second : Known) : Finding :=
  .onToken second.token .multipleFormats
    "Multiple formats are required at once; only cards legal in all of them match"
    []

def printingWarning (second : Known) : Finding :=
  .onToken second.token .overlySpecific
    "Set plus collector number pins a single printing; the rest of the query is redundant"
    []

/-- The warnings about pairs of conditions.  A second format and a single
printing are each warned of once: `formats` and `printing` tell whether that has
been done. -/
def pairWarnings (formats printing : Bool) : List (Known × Known) → List Finding
  | [] => []
  | (first, second) :: rest =>
      let newFormats := !formats && isFormatPair first second
      let newPrinting := !printing && isPrintingPair first second
      (if isDuplicate first second then [duplicateWarning second] else []) ++
        (if isColorConflict first second then [colorWarning first second]
          else []) ++
        (if newFormats then [formatWarning second] else []) ++
        (if newPrinting then [printingWarning second] else []) ++
        pairWarnings (formats || newFormats) (printing || newPrinting) rest

/-- Whether the value of a condition is one of the given words. -/
def refersTo (words : List Text) (known : Known) : Bool :=
  words.contains (Text.lower known.condition.value)

/-- Warns of a power without a toughness or the other way round, unless one is
compared with the other. -/
def statWarnings (known : List Known) : List Finding :=
  let required (name : Text) := known.filter fun item =>
    item.operator.name == name && !item.condition.negated
  let power := required "power"
  let toughness := required "toughness"
  if power.any (refersTo ["tou", "toughness"]) ||
      toughness.any (refersTo ["pow", "power"]) then []
  else
    match power, toughness with
    | first :: _, [] =>
        [.onToken first.token .powerWithoutToughness
          "Power is constrained without toughness; consider adding a toughness condition"
          []]
    | [], first :: _ =>
        [.onToken first.token .toughnessWithoutPower
          "Toughness is constrained without power; consider adding a power condition"
          []]
    | _, _ => []

def checkConditions (registry : Registry) (maxDistance : Int)
    (tokens : List Token) : CheckResult :=
  let usable := known registry tokens
  ⟨(Token.conditions tokens).flatMap fun (token, condition) =>
      conditionErrors registry maxDistance token condition,
    pairWarnings false false (laterPairs usable) ++ statWarnings usable⟩

/-- Whether the name of every condition can be compared with the known names or
is one of them. -/
def isMeasurable (registry : Registry) (maxDistance : Int)
    (tokens : List Token) : Bool :=
  (Token.conditions tokens).all fun (_, condition) =>
    registry.isMeasurable condition.name maxDistance ||
      registry.contains condition.name

/-- Fails if names are to be compared at a distance that is too large. -/
def requireMeasurable (registry : Registry) (maxDistance : Int)
    (tokens : List Token) : Except Fault Unit :=
  if isMeasurable registry maxDistance tokens then .ok ()
  else .error .distanceTooLarge

def checkValues (registry : Registry) (tokens : List Token) : CheckResult :=
  let checked := (known registry tokens).map fun item =>
    (item.token,
     item.operator.grammar.check item.condition.value item.condition.sign?)
  ⟨checked.flatMap fun (token, check) =>
      (check.errors.filter (·.code != .comparisonNotAllowed)).map (place token),
    checked.flatMap fun (token, check) => check.warnings.map (place token)⟩

end CardQuery.Usage
