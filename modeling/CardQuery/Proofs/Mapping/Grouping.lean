import CardQuery.Mapping.Resolve
import CardQuery.Proofs.Text.Distinct

/-!
# Groups of mappings

Mappings are grouped one after another, each into the group of its operator.
What comes out is said here without that walk: there is one group for each
operator, in the order in which the operators first occur, and it holds all
mappings on the operator in their order.

The last mapping is the one that was added last, so the proofs go from the end
of the list.
-/

namespace CardQuery

namespace Mapping

/-- The mappings on an operator. -/
def onOperator (mappings : List Mapping) (operator : Text) : List Mapping :=
  mappings.filter (·.operator == operator)

theorem mem_onOperator_iff {mappings : List Mapping} {operator : Text}
    {mapping : Mapping} :
    mapping ∈ onOperator mappings operator ↔
      mapping ∈ mappings ∧ mapping.operator = operator := by
  simp [onOperator]

private theorem onOperator_concat_self (mappings : List Mapping)
    (mapping : Mapping) :
    onOperator (mappings ++ [mapping]) mapping.operator =
      onOperator mappings mapping.operator ++ [mapping] := by
  simp [onOperator]

private theorem onOperator_concat_other {mappings : List Mapping}
    {mapping : Mapping}
    {operator : Text} (other : mapping.operator ≠ operator) :
    onOperator (mappings ++ [mapping]) operator =
      onOperator mappings operator := by
  simp [onOperator, other]

theorem map_onOperator_concat {mappings : List Mapping} {mapping : Mapping}
    {operators : List Text} (apart : mapping.operator ∉ operators) :
    operators.map (onOperator (mappings ++ [mapping])) =
      operators.map (onOperator mappings) := by
  apply List.map_congr_left
  intro operator member
  exact onOperator_concat_other fun same => apart (same ▸ member)

private theorem addToGroup_map {mappings : List Mapping} (mapping : Mapping)
    {operators : List Text} (nodup : operators.Nodup)
    (filled : ∀ operator ∈ operators, onOperator mappings operator ≠ []) :
    addToGroup mapping (operators.map (onOperator mappings)) =
      if mapping.operator ∈ operators then
        operators.map (onOperator (mappings ++ [mapping]))
      else operators.map (onOperator mappings) ++ [[mapping]] := by
  induction operators with
  | nil => simp [addToGroup]
  | cons operator rest ih =>
      obtain ⟨apart, restNodup⟩ := List.nodup_cons.mp nodup
      have later := ih restNodup fun other member =>
        filled other (List.mem_cons_of_mem operator member)
      obtain ⟨first, more, isGroup⟩ := List.exists_cons_of_ne_nil
        (filled operator List.mem_cons_self)
      have ofFirst : first.operator = operator :=
        (mem_onOperator_iff.mp (isGroup ▸ List.mem_cons_self)).2
      have joins : (onOperator mappings operator).head?.any
          (·.operator == mapping.operator) =
            (operator == mapping.operator) := by
        simp [isGroup, ofFirst]
      rw [List.map_cons, List.map_cons, addToGroup, joins]
      by_cases same : operator = mapping.operator
      · subst same
        rw [if_pos (by simp), if_pos List.mem_cons_self,
          onOperator_concat_self, map_onOperator_concat apart]
      · rw [if_neg (by simpa using same), later,
          onOperator_concat_other (Ne.symm same)]
        simp only [List.mem_cons, Ne.symm same, false_or]
        split <;> rfl

theorem groups_eq (mappings : List Mapping) :
    groups mappings =
      (Text.distinct (mappings.map (·.operator))).map
        (onOperator mappings) := by
  induction mappings using List.reverseRecOn with
  | nil => rfl
  | append_singleton mappings mapping ih =>
      have filled : ∀ operator ∈ Text.distinct (mappings.map (·.operator)),
          onOperator mappings operator ≠ [] := by
        intro operator member
        obtain ⟨other, isOther, rfl⟩ :=
          List.mem_map.mp (Text.mem_distinct_iff.mp member)
        exact List.ne_nil_of_mem (mem_onOperator_iff.mpr ⟨isOther, rfl⟩)
      have known : groups (mappings ++ [mapping]) =
          addToGroup mapping (groups mappings) := by
        rw [groups, List.foldl_append]
        rfl
      rw [known, ih, addToGroup_map mapping (Text.nodup_distinct _) filled,
        List.map_append, List.map_singleton, Text.distinct_concat]
      split
      next => rfl
      next isNew =>
        have none : onOperator mappings mapping.operator = [] := by
          rw [List.eq_nil_iff_forall_not_mem]
          intro other member
          obtain ⟨isOther, same⟩ := mem_onOperator_iff.mp member
          exact isNew (Text.mem_distinct_iff.mpr
            (List.mem_map.mpr ⟨other, isOther, same⟩))
        rw [List.map_append, map_onOperator_concat isNew, List.map_singleton,
          onOperator_concat_self, none, List.nil_append]

theorem best_mem (first : Mapping) (rest : List Mapping) :
    best first rest ∈ first :: rest := by
  have general (current : Mapping) (rest : List Mapping) :
      rest.foldl (fun best mapping =>
        if mapping.isBetter best then mapping else best) current ∈
          current :: rest := by
    induction rest generalizing current with
    | nil => exact List.mem_cons_self
    | cons next rest ih =>
        rw [List.foldl_cons]
        split
        · exact List.mem_cons_of_mem current (ih next)
        · rcases List.mem_cons.mp (ih current) with same | later
          · rw [same]
            exact List.mem_cons_self
          · exact List.mem_cons_of_mem current
              (List.mem_cons_of_mem next later)
  exact general first rest

theorem resolve_operator {operator : Text} {first : Mapping}
    {rest : List Mapping}
    (uniform : ∀ mapping ∈ first :: rest, mapping.operator = operator) :
    (resolve first rest).operator = operator := by
  have isBest := uniform _ (best_mem first rest)
  rw [resolve]
  split
  · exact uniform first List.mem_cons_self
  · split
    · exact isBest
    · split
      · unfold combine
        split <;> exact isBest
      · exact isBest

end Mapping

/-- A mapping of a reading is what the candidates on its operator are resolved
to. -/
theorem Reading.mem_mappings_iff {registry : Registry} {reading : Reading}
    {mapping : Mapping} :
    mapping ∈ reading.mappings registry ↔
      (∃ first rest,
        Mapping.onOperator reading.candidates mapping.operator =
            first :: rest ∧
          mapping = Mapping.resolve first rest) ∧
        mapping.isAccepted registry = true := by
  rw [mappings, List.mem_filter, List.mem_filterMap, Mapping.groups_eq]
  refine and_congr_left fun _ => ?_
  constructor
  · rintro ⟨group, isGroup, resolved⟩
    obtain ⟨operator, _, rfl⟩ := List.mem_map.mp isGroup
    cases members : Mapping.onOperator reading.candidates operator with
    | nil =>
        rw [members] at resolved
        cases resolved
    | cons first rest =>
        rw [members] at resolved
        cases resolved
        have same := Mapping.resolve_operator fun mapping isMember =>
          (Mapping.mem_onOperator_iff.mp (members ▸ isMember)).2
        exact ⟨first, rest, by rw [same, members], rfl⟩
  · rintro ⟨first, rest, members, resolved⟩
    refine ⟨first :: rest, List.mem_map.mpr
      ⟨mapping.operator, ?_, members⟩, by rw [resolved]; rfl⟩
    obtain ⟨isCandidate, same⟩ := Mapping.mem_onOperator_iff.mp
      (members ▸ List.mem_cons_self : first ∈ _)
    exact Text.mem_distinct_iff.mpr
      (List.mem_map.mpr ⟨first, isCandidate, same⟩)

end CardQuery
