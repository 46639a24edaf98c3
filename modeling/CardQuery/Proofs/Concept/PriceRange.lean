import CardQuery.Proofs.Concept.PriceMerging

/-!
# Ranges of prices in a text

Every rule that succeeds somewhere in a text sets bounds of its own, and of the
bounds in one currency the largest lower and the smallest upper one are left.
They are not compared with one another.  A range that a text is read to is
therefore one that a price can lie in exactly if no rule has set a lower bound
above the upper bound of another one, or of itself.
-/

namespace CardQuery

namespace PriceRule

private theorem ne_undefined_of_mem_amounts {groups : List Text}
    {amount : Binary64}
    (member : amount ∈ amounts groups) : amount ≠ .undefined := by
  obtain ⟨group, _, found⟩ := List.mem_filterMap.mp member
  obtain ⟨numeral, _, rfl⟩ := Option.map_eq_some_iff.mp found
  exact Binary64.ofDecimal_ne_undefined _ _ _

private theorem bounds_ne_undefined (kind : Kind) {amounts : List Binary64}
    (defined : ∀ amount ∈ amounts, amount ≠ .undefined) :
    (bounds kind amounts).min ≠ some .undefined ∧
      (bounds kind amounts).max ≠ some .undefined := by
  have amountDefined (index : Nat) : amounts[index]? ≠ some .undefined :=
    fun found => defined _ (List.mem_of_getElem? found) rfl
  have wholeDefined (whole : Int) :
      some (Binary64.ofInt whole) ≠ some .undefined := fun same =>
    Binary64.nearest_ne_undefined _ _ _ (Option.some.inj same)
  cases kind with
  | atMost => exact ⟨nofun, amountDefined 0⟩
  | atLeast => exact ⟨amountDefined 0, nofun⟩
  | range => exact ⟨amountDefined 0, amountDefined 1⟩
  | exact => exact ⟨amountDefined 0, amountDefined 0⟩
  | cheap => exact ⟨nofun, wholeDefined 10⟩
  | expensive => exact ⟨wholeDefined 50, nofun⟩

end PriceRule

namespace PriceConcept

variable {table : List PriceRule} {text : Text}

private theorem isDefined_of_ofRule? {rule : PriceRule} {found : PriceConcept}
    (isFound : ofRule? text rule = some found) : found.IsDefined := by
  obtain ⟨place, _, rfl⟩ := Option.map_eq_some_iff.mp isFound
  obtain ⟨ofMin, ofMax⟩ := PriceRule.bounds_ne_undefined rule.kind
    fun _ => PriceRule.ne_undefined_of_mem_amounts
  exact ⟨ofMin, ofMax⟩

/-- A rule of the table finds the price in the text. -/
def IsFound (table : List PriceRule) (text : Text) (found : PriceConcept) :
    Prop :=
  ∃ rule ∈ table, ofRule? text rule = some found

private theorem mem_group_iff {currency : Currency} {found : PriceConcept} :
    found ∈ inCurrency (table.filterMap (ofRule? text)) currency ↔
      IsFound table text found ∧ found.currency = currency := by
  simp [inCurrency, IsFound]

/-- A range has a price in it exactly if its bounds are in order. -/
theorem exists_admits_iff {concept : PriceConcept} {low high : Binary64}
    (isLow : concept.min = some low) (isHigh : concept.max = some high) :
    (∃ price, concept.Admits price) ↔ low ≤ high := by
  constructor
  · rintro ⟨price, above, below⟩
    exact Binary64.le_trans (above low isLow) (below high isHigh)
  · intro inOrder
    refine ⟨low, ?_, ?_⟩
    · intro other isOther
      rw [isLow] at isOther
      rw [← Option.some.inj isOther]
      exact Binary64.le_refl (Binary64.le_def.mp inOrder).1
    · intro other isOther
      rw [isHigh] at isOther
      rw [← Option.some.inj isOther]
      exact inOrder

/-- The bounds that a group is merged to are in order exactly if each lower
bound in it is in order with each upper one. -/
theorem IsMergeOf.min_le_max_iff {group : List PriceConcept}
    {merged : PriceConcept} (isMerge : IsMergeOf group merged)
    (defined : ∀ concept ∈ group, concept.IsDefined) {low high : Binary64}
    (isLow : merged.min = some low) (isHigh : merged.max = some high) :
    low ≤ high ↔ ∀ one ∈ group, ∀ lower ∈ one.min,
      ∀ other ∈ group, ∀ upper ∈ other.max, lower ≤ upper := by
  have aboveAll := isMerge.forall_min_iff defined high
  simp only [isLow, Option.mem_some_iff, forall_eq'] at aboveAll
  rw [aboveAll]
  refine forall₂_congr fun one _ => forall₂_congr fun lower _ => ?_
  have belowAll := isMerge.forall_max_iff defined lower
  simp only [isHigh, Option.mem_some_iff, forall_eq'] at belowAll
  exact belowAll

/-- The range that a text is read to has its bounds in order, and so has a price
in it, exactly if every lower bound that a rule finds in the currency is in
order with every upper bound that a rule finds in it. -/
theorem extract_min_le_max_iff {concept : PriceConcept}
    (extracted : concept ∈ extract table text) {low high : Binary64}
    (isLow : concept.min = some low) (isHigh : concept.max = some high) :
    (low ≤ high ↔ ∀ one other,
      IsFound table text one → one.currency = concept.currency →
      IsFound table text other → other.currency = concept.currency →
        ∀ lower ∈ one.min, ∀ upper ∈ other.max, lower ≤ upper) ∧
      (low ≤ high ↔ ∃ price, concept.Admits price) := by
  refine ⟨?_, (exists_admits_iff isLow isHigh).symm⟩
  have isMerge := (mergesTo_mergeAll _).merges concept extracted
  have defined : ∀ found ∈ inCurrency (table.filterMap (ofRule? text))
      concept.currency, found.IsDefined := by
    intro found member
    obtain ⟨⟨rule, _, isFound⟩, _⟩ := mem_group_iff.mp member
    exact isDefined_of_ofRule? isFound
  rw [isMerge.min_le_max_iff defined isLow isHigh]
  simp only [mem_group_iff]
  constructor
  · intro inOrder one other oneFound oneSame otherFound otherSame
      lower isLower
    exact inOrder one ⟨oneFound, oneSame⟩ lower isLower other
      ⟨otherFound, otherSame⟩
  · rintro inOrder one ⟨oneFound, oneSame⟩ lower isLower other
      ⟨otherFound, otherSame⟩
    exact inOrder one other oneFound oneSame otherFound otherSame lower isLower

theorem extract_min_le_max_iff_between :
    let text : Text := "between $5 and $20"
    let concept : PriceConcept :=
      ⟨some (.ofInt 5), some (.ofInt 20), .usd, none, percent 88⟩
    concept ∈ extract PriceRule.table text ∧
      concept.min = some (.ofInt 5) ∧ concept.max = some (.ofInt 20) ∧
      (∀ one other,
        IsFound PriceRule.table text one → one.currency = .usd →
        IsFound PriceRule.table text other → other.currency = .usd →
          ∀ lower ∈ one.min, ∀ upper ∈ other.max, lower ≤ upper) ∧
      ∃ price, concept.Admits price := by
  intro text concept
  have extracted : concept ∈ extract PriceRule.table text := by
    decide +kernel
  have inOrder : Binary64.ofInt 5 ≤ .ofInt 20 := by
    decide +kernel
  obtain ⟨found, admitted⟩ := extract_min_le_max_iff extracted rfl rfl
  exact ⟨extracted, rfl, rfl, found.mp inOrder, admitted.mp inOrder⟩

/-- The word `expensive` is found inside `inexpensive`, and sets a lower bound
above the upper one that the text gives. -/
theorem not_extract_min_le_max_inexpensive :
    extract PriceRule.table "inexpensive under $5" =
      [⟨some (.ofInt 50), some (.ofInt 5), .usd, some .premium, percent 95⟩] ∧
      ¬ Binary64.ofInt 50 ≤ .ofInt 5 := by
  decide +kernel

end PriceConcept

end CardQuery
