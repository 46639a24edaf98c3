import CardQuery.Operator.Grammar

/-!
# The registry of operators

A registry knows operators by their name and by their other names, without
regard to case.  No two names in a registry are equal in small letters, so a
name belongs to at most one operator.
-/

namespace CardQuery

/-- An operator of the search language.  Ordering comparisons need leave;
equality and inequality are left to the grammar of the values. -/
structure Operator where
  name : Text
  aliases : List Text
  grammar : Grammar
  allowsOrdering : Bool
  description : Text
  validValues : List Text
deriving DecidableEq, Repr, Inhabited

namespace Operator

def names (operator : Operator) : List Text := operator.name :: operator.aliases

def isNamed (operator : Operator) (word : Text) : Bool :=
  operator.names.any fun name => Text.lower name == Text.lower word

end Operator

/-- The first element that an earlier element is equal to, when both are changed
by a function. -/
def firstRepeated {α β : Type} [BEq β] (view : α → β) :
    (seen : List β) → List α → Option α
  | _, [] => none
  | seen, first :: rest =>
      if seen.contains (view first) then some first
      else firstRepeated view (view first :: seen) rest

theorem firstRepeated_eq_none_iff {α β : Type} [BEq β] [LawfulBEq β]
    {view : α → β} {seen : List β} {items : List α} :
    firstRepeated view seen items = none ↔
      (items.map view).Nodup ∧ ∀ item ∈ items, view item ∉ seen := by
  induction items generalizing seen with
  | nil => simp [firstRepeated]
  | cons first rest ih =>
      simp only [firstRepeated, List.contains_iff_mem, List.map_cons,
        List.nodup_cons]
      split
      · simp_all
      · rw [ih]
        simp only [List.mem_cons, List.mem_map, not_or, not_exists, not_and]
        grind

def operatorNames (operators : List Operator) : List Text :=
  operators.flatMap Operator.names

/-- Operators of which no two share a name. -/
structure Registry where
  operators : List Operator
  distinct : firstRepeated Text.lower [] (operatorNames operators) = none

inductive RegistryError where
  /-- A name is equal to an earlier name in small letters. -/
  | repeated (name : Text)
deriving DecidableEq, Repr

namespace RegistryError

def message : RegistryError → Text
  | repeated name => "duplicate operator name or alias: " ++ name

end RegistryError

namespace Registry

def ofOperators (operators : List Operator) : Except RegistryError Registry :=
  match unique : firstRepeated Text.lower [] (operatorNames operators) with
  | none => .ok ⟨operators, unique⟩
  | some name => .error (.repeated name)

def get? (registry : Registry) (name : Text) : Option Operator :=
  registry.operators.find? (·.isNamed name)

def contains (registry : Registry) (name : Text) : Bool :=
  (registry.get? name).isSome

/-- The registry, or the other one if it holds no operator. -/
def orElse (registry other : Registry) : Registry :=
  if registry.operators.isEmpty then other else registry

def names (registry : Registry) : List Text := operatorNames registry.operators

def closest (registry : Registry) (name : Text) (maxDistance limit : Int) :
    List Text :=
  Spelling.closest name registry.names maxDistance limit

def isMeasurable (registry : Registry) (name : Text) (maxDistance : Int) :
    Bool :=
  Spelling.isMeasurable name registry.names maxDistance

/-- Whether the name is known and has the value behind a sign without an
error. -/
def acceptsSign (registry : Registry) (name value : Text) (sign : Option Text) :
    Bool :=
  match registry.get? name with
  | none => false
  | some operator =>
      !value.isEmpty &&
        (!(sign.bind Comparison.ofSymbol?).any Comparison.isOrdering ||
          operator.allowsOrdering) &&
        (operator.grammar.check value sign).isClean

/-- Whether the name is known and has the value, compared in a given way,
without an error. -/
def accepts (registry : Registry) (name value : Text)
    (comparison : Option Comparison) : Bool :=
  registry.acceptsSign name value (comparison.map Comparison.symbol)

end Registry

end CardQuery
