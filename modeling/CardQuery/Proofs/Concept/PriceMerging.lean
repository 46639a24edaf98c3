import CardQuery.Concept.Price
import CardQuery.Document.Concept
import CardQuery.Proofs.Number.Comparison
import CardQuery.Proofs.Text.Distinct
import Mathlib.Data.List.Nodup

/-!
# Merging prices

Prices in one currency are merged one after another, and a price keeps to the
merged bounds if it keeps to all of them.  This rests on the order of numbers,
in which of two numbers one is the larger, so it holds of bounds that are
numbers.  A bound that is undefined is comparable with nothing: no price keeps
to it, but it is passed over where another bound has come before it.
-/

namespace CardQuery

namespace PriceConcept

/-- The prices in a currency. -/
def inCurrency (prices : List PriceConcept) (currency : Currency) :
    List PriceConcept :=
  prices.filter (·.currency = currency)

/-- The price is what prices in one currency are merged to, from the first to
the last. -/
def IsMergeOf (group : List PriceConcept) (merged : PriceConcept) : Prop :=
  ∃ first rest, group = first :: rest ∧ merged = rest.foldl merge first

/-- What a list of prices is merged to: one price for each currency. -/
structure MergesTo (prices merged : List PriceConcept) : Prop where
  currencies : merged.map (·.currency) =
    Text.distinct (prices.map (·.currency))
  merges : ∀ price ∈ merged, IsMergeOf (inCurrency prices price.currency) price

section Merging

variable {prices merged : List PriceConcept} {price : PriceConcept}

private theorem inCurrency_concat_self (prices : List PriceConcept)
    (price : PriceConcept) :
    inCurrency (prices ++ [price]) price.currency =
      inCurrency prices price.currency ++ [price] := by
  simp [inCurrency]

private theorem inCurrency_concat_other {currency : Currency}
    (other : price.currency ≠ currency) :
    inCurrency (prices ++ [price]) currency = inCurrency prices currency := by
  simp [inCurrency, other]

theorem inCurrency_eq_nil {currency : Currency}
    (isNew : currency ∉ prices.map (·.currency)) :
    inCurrency prices currency = [] := by
  apply List.filter_eq_nil_iff.mpr
  intro price member same
  apply isNew
  exact List.mem_map.mpr ⟨price, member, of_decide_eq_true same⟩

theorem insert_append {before : List PriceConcept}
    (others : price.currency ∉ before.map (·.currency)) (old : PriceConcept)
    (same : old.currency = price.currency) (after : List PriceConcept) :
    insert price (before ++ old :: after) =
      before ++ old.merge price :: after := by
  induction before with
  | nil =>
      rw [List.nil_append, insert, if_pos same]
      rfl
  | cons first rest ih =>
      rw [List.map_cons, List.mem_cons, not_or] at others
      obtain ⟨other, laterOthers⟩ := others
      rw [List.cons_append, insert, if_neg (Ne.symm other), ih laterOthers]
      rfl

private theorem insert_of_not_mem
    (isNew : price.currency ∉ prices.map (·.currency)) :
    insert price prices = prices ++ [price] := by
  induction prices with
  | nil => rfl
  | cons first rest ih =>
      rw [List.map_cons, List.mem_cons, not_or] at isNew
      obtain ⟨other, laterNew⟩ := isNew
      rw [insert, if_neg (Ne.symm other), ih laterNew]
      rfl

private theorem MergesTo.stays (merges : MergesTo prices merged)
    {other : PriceConcept}
    (member : other ∈ merged) (differs : other.currency ≠ price.currency) :
    IsMergeOf (inCurrency (prices ++ [price]) other.currency) other := by
  rw [inCurrency_concat_other (Ne.symm differs)]
  exact merges.merges other member

private theorem MergesTo.concat_new (merges : MergesTo prices merged)
    (unknown : price.currency ∉ merged.map (·.currency)) :
    MergesTo (prices ++ [price]) (insert price merged) := by
  have unkept : price.currency ∉ Text.distinct (prices.map (·.currency)) := by
    rw [← merges.currencies]
    exact unknown
  rw [insert_of_not_mem unknown]
  constructor
  · rw [List.map_append, List.map_append, List.map_singleton,
      Text.distinct_concat, if_neg unkept, merges.currencies]
  · intro other member
    rcases List.mem_append.mp member with isOld | isLast
    · apply merges.stays isOld
      intro same
      exact unknown (List.mem_map.mpr ⟨other, isOld, same⟩)
    · have isNew : price.currency ∉ prices.map (·.currency) :=
        mt Text.mem_distinct_iff.mpr unkept
      rw [List.mem_singleton.mp isLast, inCurrency_concat_self,
        inCurrency_eq_nil isNew]
      exact ⟨price, [], rfl, rfl⟩

private theorem MergesTo.concat_known (merges : MergesTo prices merged)
    (known : price.currency ∈ merged.map (·.currency)) :
    MergesTo (prices ++ [price]) (insert price merged) := by
  have kept : price.currency ∈ Text.distinct (prices.map (·.currency)) := by
    rw [← merges.currencies]
    exact known
  have nodup : (merged.map (·.currency)).Nodup := by
    rw [merges.currencies]
    exact Text.nodup_distinct _
  obtain ⟨old, isOld, same⟩ := List.mem_map.mp known
  obtain ⟨before, after, rfl⟩ := List.append_of_mem isOld
  rw [List.map_append, List.map_cons, List.nodup_middle, same] at nodup
  obtain ⟨alone, _⟩ := List.nodup_cons.mp nodup
  rw [List.mem_append, not_or] at alone
  rw [insert_append alone.1 old same after]
  constructor
  · have unchanged : (before ++ old.merge price :: after).map (·.currency) =
        (before ++ old :: after).map (·.currency) := by
      simp [merge]
    rw [unchanged, merges.currencies, List.map_append, List.map_singleton,
      Text.distinct_concat, if_pos kept]
  · intro other member
    rcases List.mem_append.mp member with inBefore | inRest
    · apply merges.stays (List.mem_append_left _ inBefore)
      intro alike
      exact alone.1 (List.mem_map.mpr ⟨other, inBefore, alike⟩)
    · rcases List.mem_cons.mp inRest with rfl | inAfter
      · obtain ⟨first, rest, isGroup, isMerge⟩ := merges.merges old isOld
        refine ⟨first, rest ++ [price], ?_, ?_⟩
        · change inCurrency _ old.currency = _
          rw [same, inCurrency_concat_self, ← same, isGroup]
          rfl
        · rw [List.foldl_append, ← isMerge]
          rfl
      · apply merges.stays
          (List.mem_append_right _ (List.mem_cons_of_mem old inAfter))
        intro alike
        exact alone.2 (List.mem_map.mpr ⟨other, inAfter, alike⟩)

theorem MergesTo.concat (merges : MergesTo prices merged)
    (price : PriceConcept) :
    MergesTo (prices ++ [price]) (insert price merged) := by
  by_cases known : price.currency ∈ merged.map (·.currency)
  · exact merges.concat_known known
  · exact merges.concat_new known

theorem mergesTo_mergeAll (prices : List PriceConcept) :
    MergesTo prices (mergeAll prices) := by
  induction prices using List.reverseRecOn with
  | nil => exact ⟨rfl, List.forall_mem_nil _⟩
  | append_singleton prices price ih =>
      rw [mergeAll, List.foldl_append]
      exact ih.concat price

/-- Prices in different currencies are not merged. -/
theorem mergeAll_eq_self (nodup : (prices.map (·.currency)).Nodup) :
    mergeAll prices = prices := by
  induction prices using List.reverseRecOn with
  | nil => rfl
  | append_singleton prices price ih =>
      rw [List.map_append, List.map_singleton, List.nodup_append] at nodup
      obtain ⟨nodup, _, apart⟩ := nodup
      have isNew : price.currency ∉ prices.map (·.currency) := by
        intro member
        exact apart price.currency member price.currency
          (List.mem_singleton_self _) rfl
      rw [mergeAll, List.foldl_append, ← mergeAll, ih nodup]
      exact insert_of_not_mem isNew

end Merging

/-- The price keeps to both bounds. -/
structure Admits (concept : PriceConcept) (price : Binary64) : Prop where
  above : ∀ low ∈ concept.min, low ≤ price
  below : ∀ high ∈ concept.max, price ≤ high

instance (concept : PriceConcept) (price : Binary64) :
    Decidable (concept.Admits price) :=
  decidable_of_iff ((∀ low ∈ concept.min, low ≤ price) ∧
      ∀ high ∈ concept.max, price ≤ high)
    ⟨fun both => ⟨both.1, both.2⟩, fun admits => ⟨admits.above, admits.below⟩⟩

/-- Both bounds, as far as there are any, are numbers. -/
structure IsDefined (concept : PriceConcept) : Prop where
  min : concept.min ≠ some .undefined
  max : concept.max ≠ some .undefined

section Bounds

variable {left right : PriceConcept} {price : Binary64}

private theorem isDefined_of_admits {concept : PriceConcept}
    (admits : concept.Admits price) : concept.IsDefined where
  min isUndefined :=
    (Binary64.le_def.mp (admits.above _ isUndefined)).1 rfl
  max isUndefined :=
    (Binary64.le_def.mp (admits.below _ isUndefined)).2.1 rfl

private theorem forall_mergeBound_iff {choose : Binary64 → Binary64 → Binary64}
    {holds : Binary64 → Prop} {left right : Option Binary64}
    (chooses : ∀ one ∈ left, ∀ other ∈ right,
      holds (choose one other) ↔ holds one ∧ holds other) :
    (∀ bound ∈ mergeBound choose left right, holds bound) ↔
      (∀ bound ∈ left, holds bound) ∧ ∀ bound ∈ right, holds bound := by
  cases left with
  | none => simp [mergeBound]
  | some one =>
      cases right with
      | none => simp [mergeBound]
      | some other => simpa [mergeBound] using chooses one rfl other rfl

private theorem forall_min_merge_iff (leftDefined : left.IsDefined)
    (rightDefined : right.IsDefined) :
    (∀ low ∈ (left.merge right).min, low ≤ price) ↔
      (∀ low ∈ left.min, low ≤ price) ∧ ∀ low ∈ right.min, low ≤ price := by
  apply forall_mergeBound_iff
  intro one isOne other isOther
  apply Binary64.larger_le_iff
  · rintro rfl
    exact leftDefined.min isOne
  · rintro rfl
    exact rightDefined.min isOther

private theorem forall_max_merge_iff (leftDefined : left.IsDefined)
    (rightDefined : right.IsDefined) :
    (∀ high ∈ (left.merge right).max, price ≤ high) ↔
      (∀ high ∈ left.max, price ≤ high) ∧
        ∀ high ∈ right.max, price ≤ high := by
  apply forall_mergeBound_iff
  intro one isOne other isOther
  apply Binary64.le_smaller_iff
  · rintro rfl
    exact leftDefined.max isOne
  · rintro rfl
    exact rightDefined.max isOther

private theorem mergeBound_ne_undefined
    {choose : Binary64 → Binary64 → Binary64}
    (chooses : ∀ one other, choose one other = one ∨ choose one other = other)
    {left right : Option Binary64} (leftDefined : left ≠ some .undefined)
    (rightDefined : right ≠ some .undefined) :
    mergeBound choose left right ≠ some .undefined := by
  cases left with
  | none => exact rightDefined
  | some one =>
      cases right with
      | none => exact leftDefined
      | some other =>
          rw [mergeBound]
          rcases chooses one other with same | same
          · rw [same]
            exact leftDefined
          · rw [same]
            exact rightDefined

private theorem IsDefined.merge (leftDefined : left.IsDefined)
    (rightDefined : right.IsDefined) : (left.merge right).IsDefined where
  min :=
    mergeBound_ne_undefined (fun one other => (ite_eq_or_eq _ other one).symm)
      leftDefined.min rightDefined.min
  max :=
    mergeBound_ne_undefined (fun one other => (ite_eq_or_eq _ other one).symm)
      leftDefined.max rightDefined.max

private theorem foldl_merge_iff {holds : PriceConcept → Prop}
    (ofTwo : ∀ {left right : PriceConcept}, left.IsDefined → right.IsDefined →
      (holds (left.merge right) ↔ holds left ∧ holds right))
    {first : PriceConcept} {rest : List PriceConcept}
    (defined : ∀ concept ∈ first :: rest, concept.IsDefined) :
    holds (rest.foldl merge first) ↔
      ∀ concept ∈ first :: rest, holds concept := by
  induction rest generalizing first with
  | nil => exact List.forall_mem_singleton.symm
  | cons second rest ih =>
      obtain ⟨firstDefined, laterDefined⟩ := List.forall_mem_cons.mp defined
      obtain ⟨secondDefined, restDefined⟩ :=
        List.forall_mem_cons.mp laterDefined
      rw [List.foldl_cons, ih (List.forall_mem_cons.mpr
        ⟨firstDefined.merge secondDefined, restDefined⟩)]
      simp only [List.forall_mem_cons, ofTwo firstDefined secondDefined,
        and_assoc]

variable {group : List PriceConcept} {merged : PriceConcept}

theorem IsMergeOf.forall_min_iff (isMerge : IsMergeOf group merged)
    (defined : ∀ concept ∈ group, concept.IsDefined) (price : Binary64) :
    (∀ low ∈ merged.min, low ≤ price) ↔
      ∀ concept ∈ group, ∀ low ∈ concept.min, low ≤ price := by
  obtain ⟨first, rest, rfl, rfl⟩ := isMerge
  exact @foldl_merge_iff (fun concept => ∀ low ∈ concept.min, low ≤ price)
    (fun left right => forall_min_merge_iff left right) _ _ defined

theorem IsMergeOf.forall_max_iff (isMerge : IsMergeOf group merged)
    (defined : ∀ concept ∈ group, concept.IsDefined) (price : Binary64) :
    (∀ high ∈ merged.max, price ≤ high) ↔
      ∀ concept ∈ group, ∀ high ∈ concept.max, price ≤ high := by
  obtain ⟨first, rest, rfl, rfl⟩ := isMerge
  exact @foldl_merge_iff (fun concept => ∀ high ∈ concept.max, price ≤ high)
    (fun left right => forall_max_merge_iff left right) _ _ defined

private theorem IsMergeOf.admits_iff (isMerge : IsMergeOf group merged)
    (defined : ∀ concept ∈ group, concept.IsDefined) (price : Binary64) :
    merged.Admits price ↔ ∀ concept ∈ group, concept.Admits price := by
  have above := isMerge.forall_min_iff defined price
  have below := isMerge.forall_max_iff defined price
  constructor
  · intro admits concept member
    exact ⟨above.mp admits.above concept member,
      below.mp admits.below concept member⟩
  · intro each
    exact ⟨above.mpr fun concept member => (each concept member).above,
      below.mpr fun concept member => (each concept member).below⟩

/-- Bounds are merged to those of the prices that keep to all of them, unless
one of them is undefined and is passed over: then no price keeps to all. -/
theorem IsMergeOf.intersects_iff (isMerge : IsMergeOf group merged) :
    (∀ price, merged.Admits price ↔
        ∀ concept ∈ group, concept.Admits price) ↔
      (∀ concept ∈ group, concept.IsDefined) ∨
        ∀ price, ¬ merged.Admits price := by
  by_cases defined : ∀ concept ∈ group, concept.IsDefined
  · exact iff_of_true (isMerge.admits_iff defined) (Or.inl defined)
  · have none (price : Binary64) :
        ¬ ∀ concept ∈ group, concept.Admits price := by
      intro each
      apply defined
      intro concept member
      exact isDefined_of_admits (each concept member)
    constructor
    · intro intersects
      right
      intro price admits
      exact none price ((intersects price).mp admits)
    · rintro (allDefined | never)
      · exact absurd allDefined defined
      · exact fun price => iff_of_false (never price) (none price)

end Bounds

section Certainty

/-- The confidence of one of the prices that no other one exceeds. -/
structure IsHighest (group : List PriceConcept) (confidence : Binary64) :
    Prop where
  mem : ∃ concept ∈ group, concept.confidence = confidence
  unexceeded : ∀ concept ∈ group, ¬ confidence < concept.confidence

private theorem IsMergeOf.isHighest {group : List PriceConcept}
    {merged : PriceConcept}
    (isMerge : IsMergeOf group merged) : IsHighest group merged.confidence := by
  obtain ⟨first, rest, rfl, rfl⟩ := isMerge
  induction rest using List.reverseRecOn with
  | nil =>
      refine ⟨⟨first, List.mem_cons_self, rfl⟩, ?_⟩
      intro concept isFirst
      rw [List.mem_singleton.mp isFirst]
      exact Binary64.not_lt_self first.confidence
  | append_singleton rest last ih =>
      rw [List.foldl_append, ← List.cons_append]
      constructor
      · obtain ⟨concept, member, isConfidence⟩ := ih.mem
        simp only [List.foldl_cons, List.foldl_nil, merge, Binary64.larger]
        split
        · exact ⟨last, List.mem_append_right _ (List.mem_singleton_self _), rfl⟩
        · exact ⟨concept, List.mem_append_left _ member, isConfidence⟩
      · intro concept member
        rcases List.mem_append.mp member with earlier | isLast
        · exact Binary64.not_larger_lt_left (ih.unexceeded concept earlier)
        · rw [List.mem_singleton.mp isLast]
          exact Binary64.not_larger_lt_right _ _

private theorem IsMergeOf.condition_eq {group : List PriceConcept}
    {merged : PriceConcept} (isMerge : IsMergeOf group merged) :
    merged.condition = group.findSome? (·.condition) := by
  obtain ⟨first, rest, rfl, rfl⟩ := isMerge
  induction rest using List.reverseRecOn with
  | nil => simp
  | append_singleton rest last ih =>
      rw [List.foldl_append, ← List.cons_append, List.findSome?_append, ← ih]
      simp [merge]

end Certainty

/-- Prices are merged to one for each currency, in the order in which the
currencies first occur.  The prices that keep to its bounds are those that keep
to all bounds in the currency, unless an undefined bound has been passed over.
It has the highest confidence and the first condition in the currency, and
merging once more changes nothing. -/
theorem mergeAll_intersects (prices : List PriceConcept) :
    Text.AreFirsts (prices.map (·.currency))
        ((mergeAll prices).map (·.currency)) ∧
      (∀ merged ∈ mergeAll prices,
        let group := inCurrency prices merged.currency
        ((∀ price, merged.Admits price ↔
            ∀ concept ∈ group, concept.Admits price) ↔
          (∀ concept ∈ group, concept.IsDefined) ∨
            ∀ price, ¬ merged.Admits price) ∧
        IsHighest group merged.confidence ∧
        merged.condition = group.findSome? (·.condition)) ∧
      mergeAll (mergeAll prices) = mergeAll prices := by
  have merges := mergesTo_mergeAll prices
  refine ⟨?_, ?_, ?_⟩
  · rw [merges.currencies]
    exact Text.areFirsts_distinct _
  · intro merged member
    have isMerge := merges.merges merged member
    exact ⟨isMerge.intersects_iff, isMerge.isHighest, isMerge.condition_eq⟩
  · apply mergeAll_eq_self
    rw [merges.currencies]
    exact Text.nodup_distinct _

/-- A bound that is read from the word for no number is passed over behind
another bound, although no price keeps to it. -/
theorem not_mergeAll_intersects_undefined :
    let first : PriceConcept :=
      ⟨none, some (.ofDecimal false 725 (-2)), .usd, none, percent 90⟩
    let second : PriceConcept := { first with max := some .undefined }
    read first.document = .ok first ∧
      read (.record [("max", .text "nan"),
        ("confidence", .number (percent 90))]) = .ok second ∧
      mergeAll [first, second] = [first] ∧
      first.Admits (.ofInt 5) ∧ ¬ second.Admits (.ofInt 5) := by
  decide +kernel

end PriceConcept

end CardQuery
