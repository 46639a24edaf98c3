import CardQuery.Proofs.Build.Acceptance

/-!
# Relaxing broadens

Searching for coverage lowers a bound of the power and widens a card type.
Every card that met such a mapping meets it afterwards, and no other mapping
changes.  The one exception is a bound of the power by zero: no bound is lowered
below one, so this one is raised.
-/

namespace CardQuery

/-- A card, as far as single conditions can tell.  Whatever they mean, a card
that meets a bound of the power meets every lower one. -/
structure Card where
  meets : Text → Option Comparison → Text → Prop
  meets_lower : ∀ {lower bound : Int}, lower ≤ bound →
    meets "pow" (some .ge) (Text.ofInt bound) →
      meets "pow" (some .ge) (Text.ofInt lower)

/-- A card that meets every condition except a bound above its power. -/
def Card.ofPower (power : Int) : Card where
  meets operator comparison value := operator = "pow".toList →
    comparison = some .ge → ∀ bound, value = Text.ofInt bound → bound ≤ power
  meets_lower := by
    intro lower bound isLower met _ _ other same
    rw [← Text.ofInt_injective same]
    exact isLower.trans (met rfl rfl bound rfl)

namespace Mapping

variable {mapping : Mapping}

/-- The card meets one condition of the mapping. -/
def TermIsMetBy (mapping : Mapping) (card : Card)
    (term : Option Comparison × Text) : Prop :=
  if mapping.negated then ¬ card.meets mapping.operator term.1 term.2
  else card.meets mapping.operator term.1 term.2

/-- The card meets any of the conditions where they are written with `OR`
between them, and all of them otherwise. -/
def IsMetBy (mapping : Mapping) (card : Card) : Prop :=
  if mapping.joiner = some .or then
    ∃ term ∈ mapping.terms, mapping.TermIsMetBy card term
  else ∀ term ∈ mapping.terms, mapping.TermIsMetBy card term

/-- Every card that meets the one mapping meets the other. -/
def Implies (mapping other : Mapping) : Prop :=
  ∀ card, mapping.IsMetBy card → other.IsMetBy card

private theorem terms_of_noParts (noParts : mapping.parts = [])
    (uncompared : mapping.comparisons = []) :
    mapping.terms = [(mapping.comparison, mapping.value)] := by
  rw [terms_of_uncompared uncompared, values, noParts]
  rfl

private theorem isMetBy_iff_of_noParts {card : Card}
    (noParts : mapping.parts = [])
    (uncompared : mapping.comparisons = []) :
    mapping.IsMetBy card ↔
      mapping.TermIsMetBy card (mapping.comparison, mapping.value) := by
  rw [IsMetBy, terms_of_noParts noParts uncompared]
  split
  · simp only [List.mem_singleton, exists_eq_left]
  · exact List.forall_mem_singleton

private theorem IsPowerBound.isMetBy_iff {card : Card}
    (bound : mapping.IsPowerBound) :
    mapping.IsMetBy card ↔
      card.meets mapping.operator mapping.comparison mapping.value := by
  rw [isMetBy_iff_of_noParts bound.noParts bound.uncompared, TermIsMetBy,
    bound.positive]
  rfl

private theorem IsPowerBound.withValue (bound : mapping.IsPowerBound)
    (other : Nat) :
    IsPowerBound { mapping with value := Text.ofNat other } :=
  ⟨⟨other, (Text.ofInt_natCast other).symm⟩, bound.positive, bound.noParts,
    bound.uncompared⟩

/-- The ways in which a mapping is relaxed. -/
inductive RelaxesTo : Mapping → Mapping → Prop
  | unchanged (mapping : Mapping) : RelaxesTo mapping mapping
  /-- A bound of the power gives way by one, but not to zero. -/
  | lowered {mapping : Mapping} {bound : Nat} (positive : 0 < bound)
      (operator : mapping.operator = "pow".toList)
      (comparison : mapping.comparison = some .ge)
      (value : mapping.value = Text.ofNat (bound + 1)) :
      RelaxesTo mapping { mapping with value := Text.ofNat bound }
  /-- The types that are like a card type are allowed next to it. -/
  | widened {mapping : Mapping} {related : List Text}
      (operator : mapping.operator = "t".toList)
      (noParts : mapping.parts = []) (positive : mapping.negated = false)
      (isRelated : Strategy.relatedTypes.lookup mapping.value = some related) :
      RelaxesTo mapping
        { mapping with
          value := Joiner.or.join (mapping.value :: related)
          parts := mapping.value :: related
          joiner := some .or }

/-- A mapping is relaxed to another one, and asks at least as much as it. -/
structure BroadensTo (before after : Mapping) : Prop where
  relaxes : before.RelaxesTo after
  implies : before.Implies after

/-- The mapping is a bound of the power by zero. -/
structure BoundsByZero (mapping : Mapping) : Prop where
  operator : mapping.operator = "pow".toList
  comparison : mapping.comparison = some .ge
  value : mapping.value = Text.ofNat 0

/-- A mapping that asks one thing wherever relaxing can change it. -/
structure IsBroadenable (mapping : Mapping) : Prop where
  filled : mapping.value ≠ []
  power : mapping.operator = "pow".toList → mapping.IsPowerBound
  uncompared : mapping.parts = [] → mapping.comparisons = []

theorem RelaxesTo.value_ne_nil {before after : Mapping}
    (relaxes : before.RelaxesTo after) (filled : before.value ≠ []) :
    after.value ≠ [] := by
  cases relaxes with
  | unchanged => exact filled
  | lowered => exact Text.ofNat_ne_nil _
  | widened => exact join_cons_ne_nil filled _

private theorem RelaxesTo.broadensTo {before after : Mapping}
    (relaxes : before.RelaxesTo after) (broadenable : before.IsBroadenable) :
    before.BroadensTo after := by
  refine ⟨relaxes, ?_⟩
  intro card met
  cases relaxes with
  | unchanged => exact met
  | @lowered bound _ operator comparison value =>
      have isBound := broadenable.power operator
      rw [isBound.isMetBy_iff, operator, comparison, value,
        ← Text.ofInt_natCast] at met
      rw [(isBound.withValue bound).isMetBy_iff, ← Text.ofInt_natCast]
      dsimp only
      rw [operator, comparison]
      exact card.meets_lower (by omega) met
  | widened operator noParts positive isRelated =>
      have uncompared := broadenable.uncompared noParts
      rw [isMetBy_iff_of_noParts noParts uncompared] at met
      rw [IsMetBy, if_pos rfl]
      refine ⟨(before.comparison, before.value), ?_, met⟩
      simp [terms, values, uncompared]

/-- A card of power zero meets a bound by zero, but no bound by one. -/
theorem BoundsByZero.not_implies (zero : mapping.BoundsByZero)
    (bound : mapping.IsPowerBound) :
    ¬ mapping.Implies { mapping with value := Text.ofNat 1 } := by
  intro implies
  have met : mapping.IsMetBy (.ofPower 0) := by
    rw [bound.isMetBy_iff, zero.value]
    intro _ _ other same
    rw [← Text.ofInt_natCast 0] at same
    exact (Text.ofInt_injective same).ge
  have raised := implies _ met
  rw [(bound.withValue 1).isMetBy_iff] at raised
  exact absurd (raised zero.operator zero.comparison 1 rfl) (by decide)

end Mapping

open Mapping

theorem Reading.isBroadenable_of_mem_mappings {registry : Registry}
    {reading : Reading} {mapping : Mapping}
    (member : mapping ∈ reading.mappings registry) :
    mapping.IsBroadenable where
  filled := value_ne_nil_of_isAccepted (isRegular_of_mem_mappings member)
    (mem_mappings member).2
  power := isPowerBound_of_mem_mappings member
  uncompared noParts := by
    rcases (isRegular_of_mem_mappings member).compared with
      uncompared | ⟨parts, _⟩
    · exact uncompared
    · exact absurd noParts parts

namespace Strategy

variable {mapping : Mapping}

private theorem lowerPower?_of_boundsByZero (zero : mapping.BoundsByZero) :
    lowerPower? mapping =
      .ok (some { mapping with value := Text.ofNat 1 }) := by
  rw [lowerPower?, zero.operator, zero.comparison, zero.value]
  rfl

theorem relaxesTo_of_widenType? {wider : Mapping}
    (found : widenType? mapping = some wider) : mapping.RelaxesTo wider := by
  rw [widenType?] at found
  split at found
  next isType =>
    simp only [Bool.and_eq_true, beq_iff_eq, List.isEmpty_iff,
      Bool.not_eq_true'] at isType
    obtain ⟨⟨operator, noParts⟩, positive⟩ := isType
    obtain ⟨related, isRelated, rfl⟩ := Option.map_eq_some_iff.mp found
    exact .widened operator noParts positive isRelated
  next => cases found

private theorem broadensTo_lowered_iff {bound : Nat}
    (broadenable : mapping.IsBroadenable)
    (operator : mapping.operator = "pow".toList)
    (comparison : mapping.comparison = some .ge)
    (value : mapping.value = Text.ofNat bound) (notOne : bound ≠ 1) :
    mapping.BroadensTo
        { mapping with value := Text.ofNat (max 1 (bound - 1)) } ↔
      ¬ mapping.BoundsByZero := by
  match bound, notOne with
  | 0, _ =>
      have zero : mapping.BoundsByZero := ⟨operator, comparison, value⟩
      have notImplied := zero.not_implies (broadenable.power operator)
      exact iff_of_false (fun broadens => notImplied broadens.implies)
        (not_not_intro zero)
  | next + 2, _ =>
      have relaxes : mapping.RelaxesTo
          { mapping with value := Text.ofNat (next + 1) } :=
        .lowered (Nat.succ_pos next) operator comparison value
      refine iff_of_true (relaxes.broadensTo broadenable) ?_
      intro zero
      exact absurd (Text.ofNat_injective (value.symm.trans zero.value))
        (Nat.succ_ne_zero _)

private theorem relaxOne_broadensTo_iff (broadenable : mapping.IsBroadenable)
    (widened : Bool) :
    (mapping.BoundsTooLong ∧ relaxOne widened mapping =
      .error (.number (.tooLong mapping.value.length))) ∨
    ∃ relaxed, relaxOne widened mapping = .ok relaxed ∧
      (mapping.BroadensTo relaxed.mapping ↔ ¬ mapping.BoundsByZero) := by
  have whole : mapping.BoundsPower := fun onPower =>
    (broadenable.power onPower).whole
  have relaxes {after : Mapping} (notZero : ¬ mapping.BoundsByZero)
      (isRelaxed : mapping.RelaxesTo after) : after.value ≠ [] ∧
        (mapping.BroadensTo after ↔ ¬ mapping.BoundsByZero) :=
    ⟨isRelaxed.value_ne_nil broadenable.filled,
      iff_of_true (isRelaxed.broadensTo broadenable) notZero⟩
  have succeeds := @exists_relaxOne_eq
    (fun after => after.value ≠ [] ∧
      (mapping.BroadensTo after ↔ ¬ mapping.BoundsByZero))
    (fun _ => And.left) _ broadenable.filled
  rcases lowerPower?_of_boundsPower whole with
    ⟨tooLong, isError⟩ | stays |
      ⟨bound, operator, comparison, value, notOne, isLowered⟩
  · exact Or.inl ⟨tooLong, relaxOne_of_error isError widened⟩
  · have notZero : ¬ mapping.BoundsByZero := by
      intro zero
      rw [lowerPower?_of_boundsByZero zero] at stays
      cases stays
    obtain ⟨relaxed, isRelaxed, _, broadens⟩ := succeeds stays (by simp)
      (fun _ wider found => relaxes notZero (relaxesTo_of_widenType? found))
      (fun _ => relaxes notZero (.unchanged mapping)) widened
    exact Or.inr ⟨relaxed, isRelaxed, broadens⟩
  · have lowers := broadensTo_lowered_iff broadenable operator comparison value
      notOne
    obtain ⟨relaxed, isRelaxed, _, broadens⟩ := succeeds isLowered
      (fun _ isLower =>
        Option.some.inj isLower ▸ ⟨Text.ofNat_ne_nil _, lowers⟩)
      nofun nofun widened
    exact Or.inr ⟨relaxed, isRelaxed, broadens⟩

/-- Relaxing mappings broadens each of them, unless it is a bound by zero, and
fails only on a bound that is too long. -/
theorem relax_broadensTo_iff {mappings : List Mapping}
    (broadenable : ∀ mapping ∈ mappings, mapping.IsBroadenable)
    (widened : Bool) :
    match relax widened mappings with
    | .ok optimized =>
        List.Forall₂
          (fun before after => before.BroadensTo after ↔ ¬ before.BoundsByZero)
          mappings optimized.mappings
    | .error error => ∃ mapping ∈ mappings, mapping.BoundsTooLong ∧
        error = .number (.tooLong mapping.value.length) := by
  have each : ∀ mapping ∈ mappings, ∀ widened,
      (∃ error, relaxOne widened mapping = .error error ∧
        ∃ mapping ∈ mappings, mapping.BoundsTooLong ∧
          error = .number (.tooLong mapping.value.length)) ∨
      ∃ relaxed, relaxOne widened mapping = .ok relaxed ∧
        (mapping.BroadensTo relaxed.mapping ↔ ¬ mapping.BoundsByZero) := by
    intro mapping member widened
    rcases relaxOne_broadensTo_iff (broadenable mapping member) widened with
      ⟨tooLong, isError⟩ | relaxed
    · exact Or.inl ⟨_, isError, mapping, member, tooLong, rfl⟩
    · exact Or.inr relaxed
  rcases @relax_forall₂ _
      (fun before after => before.BroadensTo after ↔ ¬ before.BoundsByZero) _
      each widened with
    ⟨error, isError, failed⟩ | ⟨optimized, isOptimized, _, become⟩
  · rw [isError]
    exact failed
  · rw [isOptimized]
    exact become

/-- Coverage turns the mappings of a reading, one by one, into broader ones.  A
bound of the power is at most lowered, a card type is one of the types that are
asked for afterwards, and any other mapping is unchanged.  Only a bound by zero
is not broadened, and only one that is too long lets the strategy fail. -/
theorem coverage_broadensTo_iff (registry : Registry) (reading : Reading) :
    match coverage.apply (reading.mappings registry) with
    | .ok optimized =>
        List.Forall₂
          (fun before after => before.BroadensTo after ↔ ¬ before.BoundsByZero)
          (reading.mappings registry) optimized.mappings
    | .error error =>
        ∃ mapping ∈ reading.mappings registry, mapping.BoundsTooLong ∧
          error = .number (.tooLong mapping.value.length) :=
  relax_broadensTo_iff (fun _ => Reading.isBroadenable_of_mem_mappings) false

/-- A bound by zero is raised to one, which a card without power does not
meet. -/
theorem not_coverage_broadensTo_from_zero :
    ∃ before after optimized,
      (Reading.ofPower 0).mappings Registry.standard = [before] ∧
        before.render = .ok "pow>=0".toList ∧
        coverage.apply [before] = .ok optimized ∧
        optimized.mappings = [after] ∧
        after.render = .ok "pow>=1".toList ∧ ¬ before.Implies after := by
  have zero : (StatConcept.mapping
      ⟨.power, 0, .ge, percent 90⟩).BoundsByZero := ⟨rfl, rfl, rfl⟩
  exact ⟨_, _, _, rfl, rfl, rfl, rfl, rfl,
    zero.not_implies (isPowerBound_single 0 _ _ _ _)⟩

end Strategy

end CardQuery
