import CardQuery.Proofs.Operator.Lookup
import Mathlib.Data.List.Perm.Basic
import Mathlib.Data.List.Pairwise

/-!
# Operators by their names

The names of a list of operators are entered one after another, those of one
operator before those of the next.  The first name that is equal to an earlier
one in small letters is refused, and no registry is made.  Otherwise the
operators become a registry in which every name leads to its own operator.  What
a word leads to depends on which operators there are, and not on their order.
-/

namespace CardQuery

/-- The first element that is repeated stands behind elements of which none is,
and one of these or something seen before them is equal to it. -/
theorem firstRepeated_eq_some_iff {α β : Type} [BEq β] [LawfulBEq β]
    {view : α → β} {seen : List β} {items : List α} {item : α} :
    firstRepeated view seen items = some item ↔
      ∃ before after, items = before ++ item :: after ∧
        firstRepeated view seen before = none ∧
        (view item ∈ seen ∨ view item ∈ before.map view) := by
  induction items generalizing seen with
  | nil => simp [firstRepeated]
  | cons first rest ih =>
      rw [firstRepeated]
      constructor
      · intro found
        split at found
        next repeated =>
          cases found
          exact ⟨[], rest, rfl, rfl, Or.inl (List.contains_iff_mem.mp repeated)⟩
        next fresh =>
          obtain ⟨before, after, rfl, unique, earlier⟩ := ih.mp found
          refine ⟨first :: before, after, rfl, ?_, ?_⟩
          · rw [firstRepeated, if_neg fresh]
            exact unique
          · rw [List.map_cons, List.mem_cons]
            rw [List.mem_cons] at earlier
            tauto
      · rintro ⟨before, after, split, unique, earlier⟩
        cases before with
        | nil =>
            obtain ⟨rfl, rfl⟩ := List.cons.inj split
            rw [List.map_nil, or_iff_left List.not_mem_nil] at earlier
            rw [if_pos (List.contains_iff_mem.mpr earlier)]
        | cons other before =>
            obtain ⟨rfl, rfl⟩ := List.cons.inj split
            rw [firstRepeated] at unique
            split at unique
            next => cases unique
            next fresh =>
              rw [if_neg fresh, ih]
              refine ⟨before, after, rfl, unique, ?_⟩
              rw [List.map_cons, List.mem_cons] at earlier
              rw [List.mem_cons]
              tauto

private theorem operatorNames_perm {operators others : List Operator}
    (order : operators.Perm others) :
    (operatorNames operators).Perm (operatorNames others) :=
  order.flatMap fun _ _ => List.Perm.refl _

private theorem Operator.isNamed_eq_decide (word : Text) :
    (fun operator : Operator => operator.isNamed word) =
      fun operator => decide (∃ name ∈ operator.names,
        Text.lower name = Text.lower word) := by
  funext operator
  rw [Bool.eq_iff_iff]
  simp [isNamed]

namespace Registry

variable {operators : List Operator}

private theorem ofOperators_eq_ok_iff {registry : Registry} :
    ofOperators operators = .ok registry ↔ registry.operators = operators := by
  unfold ofOperators
  constructor
  · intro made
    split at made
    · cases made
      rfl
    · cases made
  · rintro rfl
    split
    · rfl
    next name repeated =>
      rw [registry.distinct] at repeated
      cases repeated

private theorem ofOperators_eq_error_iff {name : Text} :
    ofOperators operators = .error (.repeated name) ↔
      firstRepeated Text.lower [] (operatorNames operators) = some name := by
  unfold ofOperators
  split
  next unique => simp [unique]
  next other repeated => simp [repeated]

private theorem exists_ofOperators_eq_ok_iff :
    (∃ registry, ofOperators operators = .ok registry) ↔
      ((operatorNames operators).map Text.lower).Nodup := by
  constructor
  · rintro ⟨registry, made⟩
    rw [← ofOperators_eq_ok_iff.mp made]
    exact registry.nodup_lower_names
  · intro nodup
    have unique : firstRepeated Text.lower [] (operatorNames operators) =
        none := firstRepeated_eq_none_iff.mpr ⟨nodup, by simp⟩
    exact ⟨⟨operators, unique⟩, ofOperators_eq_ok_iff.mpr rfl⟩

/-- No registry is made exactly if two of the names are equal in small
letters. -/
theorem exists_ofOperators_eq_error_iff :
    (∃ error, ofOperators operators = .error error) ↔
      ∃ first second, [first, second].Sublist (operatorNames operators) ∧
        Text.lower first = Text.lower second := by
  have notMade : (∃ error, ofOperators operators = .error error) ↔
      ¬ ∃ registry, ofOperators operators = .ok registry := by
    cases ofOperators operators <;> simp
  rw [notMade, exists_ofOperators_eq_ok_iff, List.Nodup, List.pairwise_map,
    List.pairwise_iff_forall_sublist]
  simp only [not_forall, not_not, exists_prop]

variable {registry : Registry} {word : Text} {operator : Operator}

/-- What a word leads to is the only operator that it names. -/
theorem get?_eq_some_iff_filter :
    registry.get? word = some operator ↔
      registry.operators.filter (·.isNamed word) = [operator] := by
  constructor
  · intro found
    have apart : registry.operators.Pairwise fun first second =>
        List.Disjoint (first.names.map Text.lower)
          (second.names.map Text.lower) := by
      have nodup := registry.nodup_lower_names
      rw [names, operatorNames, List.map_flatMap, List.nodup_flatMap] at nodup
      exact nodup.2
    have isHead : (registry.operators.filter (·.isNamed word)).head? =
        some operator := by
      rw [List.head?_filter]
      exact found
    obtain ⟨others, named⟩ := List.head?_eq_some_iff.mp isHead
    have ofNamed := apart.filter (·.isNamed word)
    rw [named, List.pairwise_cons] at ofNamed
    rw [named, List.cons.injEq]
    refine ⟨rfl, List.eq_nil_iff_forall_not_mem.mpr fun other member => ?_⟩
    have otherNamed : other ∈ registry.operators.filter (·.isNamed word) := by
      rw [named]
      exact List.mem_cons_of_mem _ member
    exact ofNamed.1 other member
      (Operator.isNamed_iff.mp (isNamed_of_get? found))
      (Operator.isNamed_iff.mp (List.mem_filter.mp otherNamed).2)
  · intro named
    rw [get?, ← List.head?_filter, named]
    rfl

private theorem get?_eq_none_iff :
    registry.get? word = none ↔
      ∀ operator ∈ registry.operators, ∀ name ∈ operator.names,
        Text.lower name ≠ Text.lower word := by
  simp [get?, Operator.isNamed]

private theorem get?_of_mem_names (member : operator ∈ registry.operators)
    {name : Text} (isName : name ∈ operator.names) :
    registry.get? name = some operator :=
  get?_eq_some_iff.mpr
    ⟨member, Operator.isNamed_iff.mpr (List.mem_map_of_mem isName)⟩

/-- The order of the operators has no part in what a word leads to. -/
theorem get?_of_perm {other : Registry}
    (order : registry.operators.Perm other.operators) (word : Text) :
    registry.get? word = other.get? word := by
  apply Option.ext
  intro operator
  rw [get?_eq_some_iff, get?_eq_some_iff, order.mem_iff]

/-- Operators are refused for the first name that is equal to an earlier one in
small letters, and so exactly if two of their names are equal.  Otherwise a word
leads to the only operator with a name that it is equal to, every name leads to
its own operator, and the same holds of the operators in any other order. -/
theorem ofOperators_finds_by_name (operators : List Operator) :
    (∀ name, ofOperators operators = .error (.repeated name) ↔
      ∃ before after, operators.flatMap Operator.names =
          before ++ name :: after ∧
        (before.map Text.lower).Nodup ∧
        Text.lower name ∈ before.map Text.lower) ∧
    ((∃ error, ofOperators operators = .error error) ↔
      ∃ first second,
        [first, second].Sublist (operators.flatMap Operator.names) ∧
        Text.lower first = Text.lower second) ∧
    ∀ registry, ofOperators operators = .ok registry →
      registry.names = operators.flatMap Operator.names ∧
      (∀ word operator, registry.get? word = some operator ↔
        operators.filter (fun operator => ∃ name ∈ operator.names,
          Text.lower name = Text.lower word) = [operator]) ∧
      (∀ word, registry.get? word = none ↔
        ∀ operator ∈ operators, ∀ name ∈ operator.names,
          Text.lower name ≠ Text.lower word) ∧
      (∀ operator ∈ operators, ∀ name ∈ operator.names,
        registry.get? name = some operator) ∧
      ∀ others, operators.Perm others →
        ∃ other, ofOperators others = .ok other ∧
          ∀ word, other.get? word = registry.get? word := by
  refine ⟨fun name => ?_, exists_ofOperators_eq_error_iff, ?_⟩
  · rw [ofOperators_eq_error_iff, firstRepeated_eq_some_iff]
    simp only [firstRepeated_eq_none_iff, List.not_mem_nil, not_false_eq_true,
      implies_true, and_true, false_or]
    rfl
  · intro registry made
    obtain rfl := ofOperators_eq_ok_iff.mp made
    refine ⟨rfl, fun word operator => ?_, fun word => get?_eq_none_iff,
      fun operator member name => get?_of_mem_names member, ?_⟩
    · rw [get?_eq_some_iff_filter, Operator.isNamed_eq_decide]
    · intro others order
      have nodup := ((operatorNames_perm order).map Text.lower).nodup_iff.mp
        registry.nodup_lower_names
      obtain ⟨other, otherMade⟩ := exists_ofOperators_eq_ok_iff.mpr nodup
      refine ⟨other, otherMade, fun word => (get?_of_perm ?_ word).symm⟩
      rw [ofOperators_eq_ok_iff.mp otherMade]
      exact order

end Registry

end CardQuery
