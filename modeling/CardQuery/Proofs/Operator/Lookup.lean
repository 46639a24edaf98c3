import CardQuery.Operator.Registry
import Mathlib.Data.List.Nodup
import Mathlib.Data.List.Pairwise

/-!
# Looking operators up

No two names in a registry are equal in small letters.  A word is therefore a
name of one operator at most, and looking it up finds this operator, whichever
of its names the word is and in whatever case it is written.
-/

namespace CardQuery

theorem Operator.isNamed_iff {operator : Operator} {word : Text} :
    operator.isNamed word = true ↔
      Text.lower word ∈ operator.names.map Text.lower := by
  simp [isNamed]

namespace Registry

theorem nodup_lower_names (registry : Registry) :
    (registry.names.map Text.lower).Nodup :=
  (firstRepeated_eq_none_iff.mp registry.distinct).1

variable {registry : Registry} {word : Text} {operator other : Operator}

theorem isNamed_of_get? (found : registry.get? word = some operator) :
    operator.isNamed word = true := by
  rw [get?] at found
  have named := List.find?_some found
  exact named

private theorem eq_of_isNamed (member : operator ∈ registry.operators)
    (isNamed : operator.isNamed word = true)
    (otherMember : other ∈ registry.operators)
    (otherNamed : other.isNamed word = true) : operator = other := by
  have nodup := registry.nodup_lower_names
  rw [names, operatorNames, List.map_flatMap, List.nodup_flatMap] at nodup
  have symmetric : Std.Symm (Function.onFun List.Disjoint
      fun operator : Operator => operator.names.map Text.lower) :=
    ⟨fun _ _ apart => List.disjoint_symm apart⟩
  by_contra different
  have apart := nodup.2.forall member otherMember different
  exact apart (Operator.isNamed_iff.mp isNamed)
    (Operator.isNamed_iff.mp otherNamed)

theorem get?_eq_some_iff :
    registry.get? word = some operator ↔
      operator ∈ registry.operators ∧ operator.isNamed word = true := by
  constructor
  · intro found
    exact ⟨List.mem_of_find?_eq_some found, isNamed_of_get? found⟩
  · rintro ⟨member, isNamed⟩
    have known : (registry.get? word).isSome = true :=
      List.find?_isSome.mpr ⟨operator, member, isNamed⟩
    obtain ⟨found, isFound⟩ := Option.isSome_iff_exists.mp known
    rw [isFound, eq_of_isNamed (List.mem_of_find?_eq_some isFound)
      (isNamed_of_get? isFound) member isNamed]

theorem get?_of_isNamed {name : Text}
    (found : registry.get? name = some operator)
    (isNamed : operator.isNamed word = true) :
    registry.get? word = some operator :=
  get?_eq_some_iff.mpr ⟨(get?_eq_some_iff.mp found).1, isNamed⟩

theorem get?_name {name : Text} (found : registry.get? name = some operator) :
    registry.get? operator.name = some operator := by
  apply get?_of_isNamed found
  rw [Operator.isNamed_iff]
  exact List.mem_map_of_mem List.mem_cons_self

end Registry

end CardQuery
