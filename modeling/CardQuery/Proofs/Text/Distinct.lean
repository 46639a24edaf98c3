import CardQuery.Text.Basic
import Mathlib.Data.List.Induction

/-!
# Elements without repetition

The distinct elements of a list are those that occur in it, each once, and they
stand in the order in which they first occur.  The walk over the list adds its
last element last, so the proofs go from the end of the list.
-/

namespace CardQuery.Text

variable {α : Type} [BEq α] [LawfulBEq α]

theorem distinct_concat (items : List α) (item : α) :
    distinct (items ++ [item]) =
      if item ∈ distinct items then distinct items
      else distinct items ++ [item] := by
  have step : distinct (items ++ [item]) =
      if (distinct items).contains item then distinct items
      else distinct items ++ [item] := by
    rw [distinct, List.foldl_append]
    rfl
  simp only [step, List.contains_iff_mem]

/-- Each element occurs among the distinct ones, and nothing else does. -/
theorem mem_distinct_iff {items : List α} {item : α} :
    item ∈ distinct items ↔ item ∈ items := by
  induction items using List.reverseRecOn with
  | nil => rfl
  | append_singleton items last ih =>
      rw [distinct_concat]
      split
      next known =>
        rw [List.mem_append, List.mem_singleton, ← ih]
        constructor
        · exact Or.inl
        · rintro (earlier | rfl)
          · exact earlier
          · exact known
      next => rw [List.mem_append, List.mem_append, ih]

theorem nodup_distinct (items : List α) : (distinct items).Nodup := by
  induction items using List.reverseRecOn with
  | nil => exact List.nodup_nil
  | append_singleton items last ih =>
      rw [distinct_concat]
      split
      next => exact ih
      next isNew =>
        rw [List.nodup_append]
        refine ⟨ih, by simp, ?_⟩
        intro earlier isEarlier other isOther same
        rw [List.mem_singleton.mp isOther] at same
        exact isNew (same ▸ isEarlier)

theorem distinct_cons (item : α) (items : List α) :
    distinct (item :: items) = item :: distinct (items.filter (· != item)) := by
  induction items using List.reverseRecOn with
  | nil => rfl
  | append_singleton items last ih =>
      rw [← List.cons_append, distinct_concat, ih, List.filter_append]
      by_cases again : last = item
      · rw [if_pos (again ▸ List.mem_cons_self),
          List.filter_cons_of_neg (by simpa using again), List.filter_nil,
          List.append_nil]
      · rw [List.filter_cons_of_pos (by simpa using again), List.filter_nil,
          distinct_concat]
        by_cases known : last ∈ distinct (items.filter (· != item))
        · rw [if_pos known, if_pos (List.mem_cons_of_mem item known)]
        · rw [if_neg known, if_neg (by simpa using ⟨again, known⟩),
            List.cons_append]

/-- At most one distinct element is left if all elements are equal. -/
theorem length_distinct_le_one_iff {items : List α} :
    (distinct items).length ≤ 1 ↔
      ∀ item ∈ items, ∀ other ∈ items, item = other := by
  simp only [← @mem_distinct_iff _ _ _ items]
  match isKept : distinct items with
  | [] => simp
  | [only] => simp
  | first :: second :: rest =>
      have differ : first ≠ second := by
        have nodup := nodup_distinct items
        rw [isKept] at nodup
        exact fun same => (List.nodup_cons.mp nodup).1 (same ▸ List.mem_cons_self)
      constructor
      · intro short
        simp at short
      · intro same
        exact absurd (same first (by simp) second (by simp)) differ

/-- Elements that stand in the order in which they first occur in a list.  None
of them is repeated, since no place is before itself. -/
def AreInOrder (items kept : List α) : Prop :=
  kept.Pairwise fun earlier later => items.idxOf earlier < items.idxOf later

namespace AreInOrder

variable {items kept : List α}

omit [LawfulBEq α] in
theorem nodup (inOrder : AreInOrder items kept) : kept.Nodup := by
  refine inOrder.imp ?_
  intro earlier later before same
  rw [same] at before
  exact Nat.lt_irrefl _ before

omit [LawfulBEq α] in
theorem sublist {fewer : List α} (inOrder : AreInOrder items kept)
    (isSublist : fewer.Sublist kept) : AreInOrder items fewer :=
  List.Pairwise.sublist isSublist inOrder

theorem append (inOrder : AreInOrder items kept)
    (member : ∀ item ∈ kept, item ∈ items) (more : List α) :
    AreInOrder (items ++ more) kept := by
  refine List.Pairwise.imp_of_mem ?_ inOrder
  intro earlier later isEarlier isLater before
  rw [List.idxOf_append, List.idxOf_append, if_pos (member earlier isEarlier),
    if_pos (member later isLater)]
  exact before

theorem concat (inOrder : AreInOrder items kept)
    (member : ∀ item ∈ kept, item ∈ items) {item : α} (isNew : item ∉ items) :
    AreInOrder (items ++ [item]) (kept ++ [item]) := by
  apply List.pairwise_append.mpr
  refine ⟨inOrder.append member [item], List.pairwise_singleton _ _, ?_⟩
  intro earlier isEarlier later isLater
  have occurs := member earlier isEarlier
  rw [List.mem_singleton.mp isLater, List.idxOf_append, List.idxOf_append,
    if_pos occurs, if_neg isNew]
  exact Nat.lt_of_lt_of_le (List.idxOf_lt_length_of_mem occurs)
    (Nat.le_add_left _ _)

end AreInOrder

/-- The elements of a list, each once, in the order in which they first
occur. -/
structure AreFirsts (items kept : List α) : Prop where
  mem_iff : ∀ item, item ∈ kept ↔ item ∈ items
  inOrder : AreInOrder items kept

theorem areFirsts_distinct (items : List α) :
    AreFirsts items (distinct items) := by
  refine ⟨fun item => mem_distinct_iff, ?_⟩
  induction items using List.reverseRecOn with
  | nil => exact List.Pairwise.nil
  | append_singleton items last ih =>
      have member : ∀ item ∈ distinct items, item ∈ items :=
        fun item => mem_distinct_iff.mp
      rw [distinct_concat]
      split
      next => exact ih.append member [last]
      next isNew => exact ih.concat member (mt mem_distinct_iff.mpr isNew)

end CardQuery.Text
