import CardQuery.Proofs.Build.Validity

/-!
# Conditions of a build that the registry accepts

A reading has only mappings that the registry accepts, and options force a
format only if it is accepted.  Strategies keep this: a lowered power is a
number again and a widened card type is free text.  The budget is the one
condition that nobody asks the registry about, and its text is a numeral only
if it is written without an exponent.
-/

namespace CardQuery

open Mapping

namespace Mapping

/-- If the mapping is on the power, its value is a whole number. -/
def BoundsPower (mapping : Mapping) : Prop :=
  mapping.operator = "pow".toList →
    ∃ bound : Int, mapping.value = Text.ofInt bound

/-- A lower bound of the power with more digits than are read. -/
structure BoundsTooLong (mapping : Mapping) : Prop where
  operator : mapping.operator = "pow".toList
  comparison : mapping.comparison = some .ge
  long : longestNumber < mapping.value.length

/-- A mapping that the registry accepts and that can be written, whatever
characters its values have. -/
structure IsSettled (mapping : Mapping) : Prop where
  termed : mapping.terms ≠ []
  accepted : mapping.isAccepted Registry.standard = true
  filled : mapping.value ≠ []
  power : mapping.BoundsPower

/-- A bound of the power by a whole number and nothing else. -/
structure IsPowerBound (mapping : Mapping) : Prop where
  whole : ∃ bound : Int, mapping.value = Text.ofInt bound
  positive : mapping.negated = false
  noParts : mapping.parts = []
  uncompared : mapping.comparisons = []

theorem isPowerBound_single (bound : Int) (comparison : Comparison)
    (confidence : Binary64) (source : ConceptKind) (concept : Option Concept) :
    (single "pow" (Text.ofInt bound) (some comparison) confidence source
      concept).IsPowerBound :=
  ⟨⟨bound, rfl⟩, rfl, rfl, rfl⟩

private theorem boundsPower_of_other {mapping : Mapping}
    (notPower : mapping.operator ≠ "pow".toList) : mapping.BoundsPower :=
  fun isPower => absurd isPower notPower

private theorem resolve_mem {first : Mapping} (rest : List Mapping)
    (notColor : first.operator ≠ ['c'])
    (notCombined : first.operator ∉ combinedOperators) :
    resolve first rest ∈ first :: rest := by
  have noColor : (first.operator == ['c']) = false := by simpa using notColor
  have noCombination : combinedOperators.contains first.operator = false := by
    rw [Bool.eq_false_iff, ne_eq, List.contains_iff_mem]
    exact notCombined
  rw [resolve, noColor, noCombination]
  simp only [Bool.false_and, Bool.false_eq_true, if_false]
  split
  · exact List.mem_cons_self
  · exact best_mem first rest

private theorem isSettled_withValue {mapping : Mapping}
    (settled : mapping.IsSettled)
    {value : Text} (filled : value ≠ [])
    (accepted : Registry.standard.accepts mapping.operator value
      mapping.comparison = true)
    (power : BoundsPower { mapping with value }) :
    IsSettled { mapping with value } := by
  rcases terms_withValue settled.termed value with same | single
  · refine ⟨?_, ?_, filled, power⟩
    · rw [same]
      exact settled.termed
    · rw [isAccepted, same]
      exact settled.accepted
  · refine ⟨?_, ?_, filled, power⟩
    · rw [single]
      exact List.cons_ne_nil _ _
    · rw [isAccepted, single, List.all_eq_true]
      exact List.forall_mem_singleton.mpr accepted

end Mapping

private theorem ArchetypeConcept.isPowerBound_of_mem_mappings
    {concept : ArchetypeConcept} {mapping : Mapping}
    (member : mapping ∈ concept.mappings)
    (onPower : mapping.operator = "pow".toList) : mapping.IsPowerBound := by
  rcases cases_of_mem_mappings member with
    ⟨_, rfl⟩ | ⟨bound, rfl⟩ | ⟨_, _, _, keywords | functions | ⟨_, types⟩⟩
  · exact absurd onPower (show "mv".toList ≠ "pow".toList by decide)
  · exact isPowerBound_single bound _ _ _ _
  · rw [(of_mem_hints keywords).1] at onPower
    exact absurd onPower (by decide)
  · rw [(of_mem_hints functions).1] at onPower
    exact absurd onPower (by decide)
  · rw [(of_mem_hints types).1] at onPower
    exact absurd onPower (by decide)

namespace Reading

private theorem isPowerBound_of_mem_candidates {reading : Reading} :
    ∀ mapping ∈ reading.candidates, mapping.operator = "pow".toList →
      mapping.IsPowerBound := by
  apply forall_mem_candidates
  · intro concept _ mapping found onPower
    rw [ColorConcept.operator_of_mapping? found] at onPower
    exact absurd onPower (by decide)
  · intro concept _ onPower
    have known := concept.mapping_cases.1
    rw [onPower] at known
    exact absurd known (by decide)
  · intro concept _ onPower
    exact absurd onPower (show "t".toList ≠ "pow".toList by decide)
  · intro concept _ mapping found onPower
    have other : concept.currency.name ≠ "pow".toList := by
      cases concept.currency <;> decide
    rw [PriceConcept.operator_of_mapping? found] at onPower
    exact absurd onPower other
  · intro concept _ onPower
    exact absurd onPower (show "f".toList ≠ "pow".toList by decide)
  · intro concept _ onPower
    exact absurd onPower (show "o".toList ≠ "pow".toList by decide)
  · intro concept _ onPower
    have isOne := isPowerBound_single concept.value concept.comparison
      concept.confidence .stat (some (.stat concept))
    rw [← onPower] at isOne
    exact isOne
  · intro concept _ mapping member
    exact ArchetypeConcept.isPowerBound_of_mem_mappings member

theorem isPowerBound_of_mem_mappings {registry : Registry} {reading : Reading}
    {mapping : Mapping} (member : mapping ∈ reading.mappings registry)
    (onPower : mapping.operator = "pow".toList) : mapping.IsPowerBound := by
  obtain ⟨⟨first, rest, members, resolved⟩, _⟩ := mem_mappings_iff.mp member
  have among : ∀ candidate ∈ first :: rest, candidate ∈ reading.candidates ∧
      candidate.operator = mapping.operator := fun candidate isMember =>
    mem_onOperator_iff.mp (members ▸ isMember)
  have firstOnPower : first.operator = "pow".toList :=
    (among first List.mem_cons_self).2.trans onPower
  have isOne : mapping ∈ first :: rest := by
    rw [resolved]
    apply resolve_mem
    · rw [firstOnPower]
      decide
    · rw [firstOnPower]
      decide
  exact isPowerBound_of_mem_candidates mapping (among mapping isOne).1 onPower

private theorem isSettled_of_mem_mappings {reading : Reading}
    {mapping : Mapping}
    (member : mapping ∈ reading.mappings Registry.standard) :
    mapping.IsSettled where
  termed := (isRegular_of_mem_mappings member).terms_ne_nil
  accepted := (mem_mappings member).2
  filled := value_ne_nil_of_isAccepted (isRegular_of_mem_mappings member)
    (mem_mappings member).2
  power := fun onPower => (isPowerBound_of_mem_mappings member onPower).whole

end Reading

private theorem isSettled_ofFormat {name : Text}
    (accepted : Registry.standard.accepts "f" name none = true) :
    (ofFormat name).IsSettled := by
  have plain := (isRelaxable_ofFormat accepted).toIsPlain
  exact ⟨plain.termed, plain.accepted, plain.filled,
    boundsPower_of_other (show "f".toList ≠ "pow".toList by decide)⟩

namespace BuildOptions

/-- A mapping that is settled, or the budget of the options. -/
def Allows (options : BuildOptions) (mapping : Mapping) : Prop :=
  mapping.IsSettled ∨
    ∃ budget ∈ options.priceBudget, mapping = ofBudget budget

/-- Options leave allowed mappings only, and the budget is among them. -/
theorem allows_of_apply {options : BuildOptions}
    {mappings applied : List Mapping}
    (isApplied : options.apply Registry.standard mappings = .ok applied)
    (settled : ∀ mapping ∈ mappings, mapping.IsSettled) :
    (∀ mapping ∈ applied, options.Allows mapping) ∧
      ∀ budget ∈ options.priceBudget, ofBudget budget ∈ applied := by
  obtain ⟨known, rfl⟩ := apply_eq_ok_iff.mp isApplied
  constructor
  · intro mapping member
    rcases mem_or_mem_of_mem_overrideAll member with isForced | old
    · rcases mem_forced_iff.mp isForced with
        ⟨format, isFormat, rfl⟩ | ⟨budget, isBudget, rfl⟩
      · exact Or.inl (isSettled_ofFormat (known format isFormat))
      · exact Or.inr ⟨budget, isBudget, rfl⟩
    · exact Or.inl (settled mapping old)
  · intro budget isBudget
    exact mem_overrideAll options.nodup_forced
      (mem_forced_iff.mpr (Or.inr ⟨budget, isBudget, rfl⟩))

end BuildOptions

/-- The failure is due to a number with more digits than are read. -/
def StrategyError.IsTooLong (error : StrategyError) : Prop :=
  ∃ digits, longestNumber < digits ∧ error = .number (.tooLong digits)

namespace Strategy

/-- A lower bound of the power is lowered by one, but not below one: a one stays
and a zero is raised.  A bound that is too long to be read is left as it is. -/
theorem lowerPower?_of_boundsPower {mapping : Mapping}
    (bounds : mapping.BoundsPower) :
    (mapping.BoundsTooLong ∧
      lowerPower? mapping = .error (.tooLong mapping.value.length)) ∨
    lowerPower? mapping = .ok none ∨
    ∃ bound, mapping.operator = "pow".toList ∧
      mapping.comparison = some .ge ∧ mapping.value = Text.ofNat bound ∧
      bound ≠ 1 ∧ lowerPower? mapping =
        .ok (some { mapping with value := Text.ofNat (max 1 (bound - 1)) }) := by
  rw [lowerPower?]
  split
  next isPower =>
    simp only [Bool.and_eq_true, beq_iff_eq, List.all_eq_true] at isPower
    obtain ⟨⟨⟨operator, comparison⟩, _⟩, digitLike⟩ := isPower
    obtain ⟨bound, isBound⟩ := bounds operator
    have fromZero : 0 ≤ bound := by
      by_contra negative
      have minus : '-' ∈ mapping.value := by
        rw [isBound, Text.ofInt, if_pos (Int.not_le.mp negative)]
        exact List.mem_cons_self
      have noDigit := digitLike '-' minus
      revert noDigit
      decide
    obtain ⟨count, rfl⟩ := Int.eq_ofNat_of_zero_le fromZero
    rw [Text.ofInt_natCast] at isBound
    rw [isBound, readNumber_ofNat]
    by_cases long : longestNumber < (Text.ofNat count).length
    · left
      rw [if_pos long]
      exact ⟨⟨operator, comparison, isBound ▸ long⟩, rfl⟩
    · right
      rw [if_neg long]
      by_cases same : Text.ofNat (max 1 (count - 1)) = Text.ofNat count
      · left
        exact congrArg Except.ok (if_pos same)
      · right
        refine ⟨count, operator, comparison, rfl, ?_,
          congrArg Except.ok (if_neg same)⟩
        rintro rfl
        exact same rfl
  next => exact Or.inr (Or.inl rfl)

private theorem lowerPower?_cases {mapping : Mapping}
    (settled : mapping.IsSettled) :
    (∃ digits, longestNumber < digits ∧
      lowerPower? mapping = .error (.tooLong digits)) ∨
    ∃ lowered, lowerPower? mapping = .ok lowered ∧
      ∀ other ∈ lowered, other.IsSettled := by
  rcases lowerPower?_of_boundsPower settled.power with
    ⟨tooLong, isError⟩ | stays |
      ⟨bound, operator, comparison, _, _, isLowered⟩
  · exact Or.inl ⟨_, tooLong.long, isError⟩
  · exact Or.inr ⟨none, stays, by simp⟩
  · right
    refine ⟨_, isLowered, ?_⟩
    intro other isOther
    rw [← Option.some.inj isOther]
    apply isSettled_withValue settled (Text.ofNat_ne_nil _)
    · rw [operator, comparison]
      exact accepts_power _
    · exact fun _ => ⟨_, (Text.ofInt_natCast _).symm⟩

private theorem isSettled_of_widenType? {mapping wider : Mapping}
    (settled : mapping.IsSettled) (found : widenType? mapping = some wider) :
    wider.IsSettled := by
  obtain ⟨operator, isTerm, related, isRelated, sameOperator, isValue,
    areTerms⟩ := exists_related_of_widenType? settled.termed found
  have accepted := accepts_of_isAccepted settled.accepted isTerm
  rw [operator] at sameOperator accepted
  constructor
  · rw [areTerms]
    exact List.cons_ne_nil _ _
  · rw [isAccepted, areTerms, sameOperator, List.all_eq_true,
      List.forall_mem_map]
    intro word isWord
    exact accepts_type accepted (mem_relatedTypes isRelated word isWord).1
  · rw [isValue]
    exact join_cons_ne_nil settled.filled related
  · apply boundsPower_of_other
    rw [sameOperator]
    decide

theorem relaxOne_of_error {mapping : Mapping} {error : NumberError}
    (isError : lowerPower? mapping = .error error) (widened : Bool) :
    relaxOne widened mapping = .error (.number error) := by
  rw [relaxOne, isError]
  rfl

private theorem relaxOne_cases {mapping : Mapping} (settled : mapping.IsSettled)
    (widened : Bool) :
    (∃ error, relaxOne widened mapping = .error error ∧ error.IsTooLong) ∨
    ∃ relaxed, relaxOne widened mapping = .ok relaxed ∧
      relaxed.mapping.IsSettled := by
  rcases lowerPower?_cases settled with
    ⟨digits, long, isLong⟩ | ⟨lowered, isLowered, loweredSettled⟩
  · exact Or.inl ⟨_, relaxOne_of_error isLong widened, digits, long, rfl⟩
  · exact Or.inr (exists_relaxOne_eq (fun _ settled => settled.filled)
      settled.filled isLowered loweredSettled
      (fun _ _ => isSettled_of_widenType? settled) (fun _ => settled)
      widened)

theorem relaxOne_of_other {mapping : Mapping}
    (notPower : mapping.operator ≠ "pow".toList)
    (notType : mapping.operator ≠ "t".toList) (widened : Bool) :
    relaxOne widened mapping = .ok ⟨mapping, none, widened⟩ := by
  have noPower : (mapping.operator == "pow".toList) = false := by
    simpa using notPower
  have noType : (mapping.operator == "t".toList) = false := by
    simpa using notType
  have stays : lowerPower? mapping = .ok none := by
    rw [lowerPower?, noPower]
    rfl
  have asWide : (if widened then none else widenType? mapping) = none := by
    rw [widenType?, noType]
    cases widened <;> rfl
  rw [relaxOne, stays, asWide]
  rfl

private theorem relaxOne_ofBudget (budget : Binary64) (widened : Bool) :
    relaxOne widened (ofBudget budget) =
      .ok ⟨ofBudget budget, none, widened⟩ :=
  relaxOne_of_other (show "usd".toList ≠ "pow".toList by decide)
    (show "usd".toList ≠ "t".toList by decide) widened

variable {options : BuildOptions}

private theorem relaxOne_allows {mapping : Mapping}
    (allowed : options.Allows mapping)
    (widened : Bool) :
    (∃ error, relaxOne widened mapping = .error error ∧ error.IsTooLong) ∨
    ∃ relaxed, relaxOne widened mapping = .ok relaxed ∧
      options.Allows relaxed.mapping ∧
      ∀ budget, mapping = ofBudget budget →
        relaxed.mapping = ofBudget budget := by
  have keeps (budget : Binary64) (same : mapping = ofBudget budget) :
      relaxOne widened mapping = .ok ⟨mapping, none, widened⟩ := by
    rw [same]
    exact relaxOne_ofBudget budget widened
  rcases allowed with settled | ⟨budget, isBudget, same⟩
  · rcases relaxOne_cases settled widened with
      failed | ⟨relaxed, isRelaxed, relaxedSettled⟩
    · exact Or.inl failed
    · right
      refine ⟨relaxed, isRelaxed, Or.inl relaxedSettled, ?_⟩
      intro budget same
      have stays := isRelaxed.symm.trans (keeps budget same)
      rw [Except.ok.inj stays]
      exact same
  · right
    exact ⟨_, keeps budget same, Or.inr ⟨budget, isBudget, same⟩,
      fun _ same => same⟩

private theorem relax_allows {mappings : List Mapping}
    (allowed : ∀ mapping ∈ mappings, options.Allows mapping) (widened : Bool) :
    (∃ error, relax widened mappings = .error error ∧ error.IsTooLong) ∨
    ∃ optimized, relax widened mappings = .ok optimized ∧
      (∀ mapping ∈ optimized.mappings, options.Allows mapping) ∧
      ∀ budget, ofBudget budget ∈ mappings →
        ofBudget budget ∈ optimized.mappings := by
  rcases @relax_forall₂ _ (fun before after => options.Allows after ∧
        ∀ budget, before = ofBudget budget → after = ofBudget budget) _
      (fun mapping member => relaxOne_allows (allowed mapping member))
      widened with
    failed | ⟨optimized, isOptimized, _, become⟩
  · exact Or.inl failed
  · refine Or.inr ⟨optimized, isOptimized, ?_, ?_⟩
    · intro mapping member
      obtain ⟨_, _, isAllowed, _⟩ :=
        Outcome.exists_mem_of_forall₂ become.flip member
      exact isAllowed
    · intro budget member
      obtain ⟨_, among, _, stays⟩ :=
        Outcome.exists_mem_of_forall₂ become member
      rw [← stays budget rfl]
      exact among

/-- A strategy keeps all mappings allowed and the budget among them. -/
theorem apply_allows (strategy : Strategy) {mappings : List Mapping}
    (allowed : ∀ mapping ∈ mappings, options.Allows mapping) :
    (∃ error, strategy.apply mappings = .error error ∧ error.IsTooLong) ∨
    ∃ optimized, strategy.apply mappings = .ok optimized ∧
      (∀ mapping ∈ optimized.mappings, options.Allows mapping) ∧
      ∀ budget, ofBudget budget ∈ mappings →
        ofBudget budget ∈ optimized.mappings := by
  cases strategy with
  | coverage => exact relax_allows allowed false
  | precision => exact Or.inr ⟨_, rfl, allowed, fun _ member => member⟩
  | discovery => exact Or.inr ⟨_, rfl, allowed, fun _ member => member⟩
  | budget => exact Or.inr ⟨_, rfl, allowed, fun _ member => member⟩

end Strategy

/-- A budget in dollars is accepted exactly if it is written without an
exponent. -/
theorem isAccepted_ofBudget_iff {budget : Binary64}
    (fromZero : .finite 0 ≤ budget) (rounded : budget.IsRounded) :
    (ofBudget budget).isAccepted Registry.standard = true ↔
      budget.IsPositional := by
  have isNumber : Registry.standard.get? "usd" =
      some (.onOrdered "usd" [] (.number "usd")) := by
    decide
  have alone : (ofBudget budget).isAccepted Registry.standard =
      Registry.standard.accepts "usd" budget.plain (some .le) :=
    Bool.and_true _
  rw [alone, ← Binary64.hasShape_plain_iff rounded fromZero,
    ← @Grammar.checkNumber_plain_errors_eq_nil_iff "usd", Registry.accepts_iff]
  constructor
  · rintro ⟨operator, found, _, _, clean⟩
    rw [isNumber] at found
    cases found
    exact clean
  · intro clean
    refine ⟨_, isNumber, ?_, fun _ _ _ => rfl, clean⟩
    intro empty
    rw [Grammar.checkNumber_plain_errors_eq_nil_iff, empty] at clean
    exact absurd (Numeral.read?_isSome_iff.mpr clean) (by decide)

/-- The options can be had from a caller: a budget is a number from zero on. -/
def BuildOptions.IsProper (options : BuildOptions) : Prop :=
  ∀ budget ∈ options.priceBudget, .finite 0 ≤ budget ∧ budget.IsRounded

/-- After any strategy the registry accepts all conditions of a build, if the
budget is written without an exponent, and otherwise it does not.  A strategy
fails only on a power with more digits than are read. -/
theorem Strategy.accepts_apply_iff {reading : Reading} {options : BuildOptions}
    {mappings : List Mapping}
    (applied : options.apply Registry.standard
      (reading.mappings Registry.standard) = .ok mappings)
    (proper : options.IsProper) (strategy : Strategy) :
    match strategy.apply mappings with
    | .ok optimized =>
        (∀ mapping ∈ optimized.mappings, ∀ term ∈ mapping.terms,
          Registry.standard.accepts mapping.operator term.2 term.1 = true) ↔
        ∀ budget ∈ options.priceBudget, budget.IsPositional
    | .error error => error.IsTooLong := by
  obtain ⟨allowed, budgets⟩ := BuildOptions.allows_of_apply applied
    fun _ => Reading.isSettled_of_mem_mappings
  rcases strategy.apply_allows allowed with
    ⟨error, isError, long⟩ | ⟨optimized, isOptimized, keeps, stays⟩
  · rw [isError]
    exact long
  · rw [isOptimized]
    dsimp only
    constructor
    · intro accepted budget isBudget
      obtain ⟨fromZero, rounded⟩ := proper budget isBudget
      apply (isAccepted_ofBudget_iff fromZero rounded).mp
      exact List.all_eq_true.mpr
        (accepted _ (stays budget (budgets budget isBudget)))
    · intro positional mapping member term isTerm
      rcases keeps mapping member with settled | ⟨budget, isBudget, rfl⟩
      · exact accepts_of_isAccepted settled.accepted isTerm
      · obtain ⟨fromZero, rounded⟩ := proper budget isBudget
        exact accepts_of_isAccepted ((isAccepted_ofBudget_iff fromZero
          rounded).mpr (positional budget isBudget)) isTerm

/-- The options of a caller who sets nothing but a budget. -/
def BuildOptions.ofBudget (budget : Binary64) : BuildOptions :=
  { standard with priceBudget := some budget }

private theorem BuildOptions.isProper_ofBudget {budget : Binary64}
    (fromZero : .finite 0 ≤ budget) (rounded : budget.IsRounded) :
    (ofBudget budget).IsProper := by
  intro other isBudget
  rw [← Option.some.inj isBudget]
  exact ⟨fromZero, rounded⟩

/-- A reading of nothing but a bound of the power. -/
def Reading.ofPower (least : Int) : Reading :=
  { Reading.empty [] with stats := [⟨.power, least, .ge, percent 90⟩] }

theorem Strategy.accepts_apply_iff_two_and_a_half :
    (BuildOptions.ofBudget (.ofDecimal false 25 (-1))).IsProper ∧
      ∃ mappings optimized,
        (BuildOptions.ofBudget (.ofDecimal false 25 (-1))).apply
            Registry.standard ((Reading.ofPower 3).mappings Registry.standard) =
          .ok mappings ∧
        Strategy.coverage.apply mappings = .ok optimized ∧
        ∀ mapping ∈ optimized.mappings, ∀ term ∈ mapping.terms,
          Registry.standard.accepts mapping.operator term.2 term.1 = true := by
  have proper : (BuildOptions.ofBudget (.ofDecimal false 25 (-1))).IsProper :=
    BuildOptions.isProper_ofBudget (by decide +kernel)
      (Binary64.isRounded_ofDecimal false 25 (-1))
  have succeeds : (Strategy.coverage.apply
      ((BuildOptions.ofBudget (.ofDecimal false 25 (-1))).applyBudget
        ((Reading.ofPower 3).mappings Registry.standard))).isOk = true := by
    decide +kernel
  have accepted := @accepts_apply_iff (Reading.ofPower 3)
    (.ofBudget (.ofDecimal false 25 (-1))) _ rfl proper .coverage
  cases isOptimized : Strategy.coverage.apply
      ((BuildOptions.ofBudget (.ofDecimal false 25 (-1))).applyBudget
        ((Reading.ofPower 3).mappings Registry.standard)) with
  | error error =>
      rw [isOptimized] at succeeds
      cases succeeds
  | ok optimized =>
      rw [isOptimized] at accepted
      exact ⟨proper, _, optimized, rfl, isOptimized,
        accepted.mpr (by decide +kernel)⟩

/-- A budget of a thousandth of a cent is forced onto a query in a notation that
the registry refuses. -/
theorem Strategy.not_accepts_apply_small_budget :
    (BuildOptions.ofBudget (.ofDecimal false 1 (-5))).IsProper ∧
      ∃ mappings optimized,
        (BuildOptions.ofBudget (.ofDecimal false 1 (-5))).apply
            Registry.standard ((Reading.empty []).mappings Registry.standard) =
          .ok mappings ∧
        Strategy.precision.apply mappings = .ok optimized ∧
        ∃ mapping ∈ optimized.mappings,
          (some Comparison.le, "1e-05".toList) ∈ mapping.terms ∧
            Registry.standard.accepts mapping.operator "1e-05"
              (some .le) = false := by
  refine ⟨BuildOptions.isProper_ofBudget (by decide +kernel)
    (Binary64.isRounded_ofDecimal false 1 (-5)), _, _, rfl, rfl, ?_⟩
  decide +kernel

end CardQuery
