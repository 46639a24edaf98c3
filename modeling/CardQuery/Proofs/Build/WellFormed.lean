import CardQuery.Proofs.Build.Relaxation
import CardQuery.Proofs.Mapping.WellFormed

/-!
# Mappings stay well-formed

From the mappings of a reading over the options of a caller to what a strategy
makes of them, every mapping is well-formed.  Options bring in mappings with one
value.  Relaxing writes another value into a bound of the power, which has no
parts, and gives a card type parts, a joiner and a value all at once.
-/

namespace CardQuery

open Mapping

namespace Mapping

variable {mapping : Mapping}

private theorem IsWellFormed.withBound (wellFormed : mapping.IsWellFormed)
    (onPower : mapping.operator = "pow".toList)
    (noParts : mapping.parts = []) (value : Text) :
    IsWellFormed { mapping with value } := by
  apply wellFormed.withValue noParts
  intro onColors
  rw [onColors] at onPower
  exact absurd onPower (by decide)

private theorem RelaxesTo.isWellFormed {after : Mapping}
    (relaxes : mapping.RelaxesTo after) (wellFormed : mapping.IsWellFormed)
    (power : mapping.operator = "pow".toList → mapping.parts = []) :
    after.IsWellFormed := by
  cases relaxes with
  | unchanged => exact wellFormed
  | lowered _ operator _ _ =>
      exact wellFormed.withBound operator (power operator) _
  | widened operator noParts _ _ =>
      have notColor : mapping.operator ≠ ['c'] := by
        rw [operator]
        decide
      exact isWellFormed_of_parts notColor (List.cons_ne_nil _ _) rfl
        (Or.inl (wellFormed.uncompared noParts)) rfl

/-- A well-formed mapping that relaxing leaves alone, or one that asks one
thing wherever relaxing can change it. -/
structure StaysWellFormed (mapping : Mapping) : Prop
    extends IsWellFormed mapping where
  relaxable : mapping.IsBroadenable ∨
    mapping.operator ≠ "pow".toList ∧ mapping.operator ≠ "t".toList

end Mapping

namespace BuildOptions

variable {options : BuildOptions} {registry : Registry}
  {mappings applied : List Mapping}

private theorem staysWellFormed_of_mem_apply
    (isApplied : options.apply registry mappings = .ok applied)
    (stay : ∀ mapping ∈ mappings, mapping.StaysWellFormed) :
    ∀ mapping ∈ applied, mapping.StaysWellFormed := by
  obtain ⟨_, rfl⟩ := apply_eq_ok_iff.mp isApplied
  intro mapping member
  rcases mem_or_mem_of_mem_overrideAll member with isForced | old
  · rcases mem_forced_iff.mp isForced with ⟨name, _, rfl⟩ | ⟨budget, _, rfl⟩
    · exact ⟨isWellFormed_single (by decide) _ _ _ _ _,
        Or.inr ⟨show "f".toList ≠ _ by decide, show "f".toList ≠ _ by decide⟩⟩
    · exact ⟨isWellFormed_single (by decide) _ _ _ _ _,
        Or.inr ⟨show "usd".toList ≠ _ by decide,
          show "usd".toList ≠ _ by decide⟩⟩
  · exact stay mapping old

end BuildOptions

namespace Strategy

variable {mapping : Mapping}

private theorem relaxOne_isWellFormed (stays : mapping.StaysWellFormed)
    (widened : Bool) :
    (∃ error, relaxOne widened mapping = .error error ∧ error.IsTooLong) ∨
    ∃ relaxed, relaxOne widened mapping = .ok relaxed ∧
      relaxed.mapping.IsWellFormed := by
  have wellFormed := stays.toIsWellFormed
  rcases stays.relaxable with broadenable | ⟨notPower, notType⟩
  · have noParts : mapping.operator = "pow".toList → mapping.parts = [] :=
      fun onPower => (broadenable.power onPower).noParts
    have becomes := @exists_relaxOne_eq
      (fun after => after.value ≠ [] ∧ after.IsWellFormed)
      (fun _ => And.left) _ broadenable.filled
    rcases lowerPower?_of_boundsPower fun onPower =>
        (broadenable.power onPower).whole with
      ⟨tooLong, isError⟩ | unlowered | ⟨bound, operator, _, _, _, isLowered⟩
    · left
      exact ⟨_, relaxOne_of_error isError widened, mapping.value.length,
        tooLong.long, rfl⟩
    · have wider : ∀ wider, widenType? mapping = some wider →
          wider.value ≠ [] ∧ wider.IsWellFormed := by
        intro wider found
        have relaxes := relaxesTo_of_widenType? found
        exact ⟨relaxes.value_ne_nil broadenable.filled,
          relaxes.isWellFormed wellFormed noParts⟩
      obtain ⟨relaxed, isRelaxed, _, isWellFormed⟩ := becomes unlowered
        (by simp) (fun _ => wider) (fun _ => ⟨broadenable.filled, wellFormed⟩)
        widened
      exact Or.inr ⟨relaxed, isRelaxed, isWellFormed⟩
    · obtain ⟨relaxed, isRelaxed, _, isWellFormed⟩ := becomes isLowered
        (fun _ isLower => Option.some.inj isLower ▸ ⟨Text.ofNat_ne_nil _,
          wellFormed.withBound operator (noParts operator) _⟩)
        nofun nofun widened
      exact Or.inr ⟨relaxed, isRelaxed, isWellFormed⟩
  · exact Or.inr ⟨_, relaxOne_of_other notPower notType widened, wellFormed⟩

/-- A strategy fails on a bound that is too long, or gives well-formed
mappings. -/
theorem isWellFormed_of_mem_apply (strategy : Strategy)
    {mappings : List Mapping}
    (stay : ∀ mapping ∈ mappings, mapping.StaysWellFormed) :
    match strategy.apply mappings with
    | .ok optimized => ∀ mapping ∈ optimized.mappings, mapping.IsWellFormed
    | .error error => error.IsTooLong := by
  have wellFormed := fun mapping member => (stay mapping member).toIsWellFormed
  cases strategy with
  | coverage =>
      rcases @relax_forall₂ _ (fun _ after => after.IsWellFormed) _
          (fun mapping member => relaxOne_isWellFormed (stay mapping member))
          false with
        ⟨error, isError, tooLong⟩ | ⟨optimized, isOptimized, _, become⟩
      · rw [apply, isError]
        exact tooLong
      · rw [apply, isOptimized]
        intro mapping member
        obtain ⟨_, _, isWellFormed⟩ :=
          Outcome.exists_mem_of_forall₂ become.flip member
        exact isWellFormed
  | precision => exact wellFormed
  | discovery => exact wellFormed
  | budget => exact wellFormed

/-- The mappings of a reading are well-formed, with the options of a caller as
well as without them, and so are those that any strategy makes of them.  A
strategy fails only on a power with more digits than are read.  The colors of
every reading that comes from a text or a document are sorted. -/
theorem mappings_stay_wellFormed {registry : Registry} {reading : Reading}
    (sorted : reading.HasSortedColors) {options : BuildOptions}
    {mappings : List Mapping}
    (applied : options.apply registry (reading.mappings registry) =
      .ok mappings)
    (strategy : Strategy) :
    (∀ mapping ∈ reading.mappings registry, mapping.IsWellFormed) ∧
      (∀ mapping ∈ mappings, mapping.IsWellFormed) ∧
      match strategy.apply mappings with
      | .ok optimized => ∀ mapping ∈ optimized.mappings, mapping.IsWellFormed
      | .error error => error.IsTooLong := by
  have ofReading : ∀ mapping ∈ reading.mappings registry,
      mapping.StaysWellFormed := fun mapping member =>
    ⟨Reading.isWellFormed_of_mem_mappings sorted member,
      Or.inl (Reading.isBroadenable_of_mem_mappings member)⟩
  have ofOptions := BuildOptions.staysWellFormed_of_mem_apply applied ofReading
  exact ⟨fun mapping member => (ofReading mapping member).toIsWellFormed,
    fun mapping member => (ofOptions mapping member).toIsWellFormed,
    strategy.isWellFormed_of_mem_apply ofOptions⟩

end Strategy

/-- Two colors and a third one, a card type, a range of prices in euros and a
power. -/
def Reading.sample : Reading :=
  { Reading.empty [] with
    colors :=
      [⟨[.white, .blue], false, false, true, false, false, percent 98⟩,
       ⟨[.red], false, false, false, false, false, percent 95⟩]
    types := [⟨some "creature", none, none, false, [], percent 95⟩]
    prices := [⟨some (.ofInt 5), some (.ofInt 20), .eur, none, percent 95⟩]
    stats := [⟨.power, 3, .ge, percent 90⟩] }

def BuildOptions.sample : BuildOptions :=
  ⟨.coverage, some "Modern", some (.ofInt 2), 20⟩

theorem Strategy.mappings_stay_wellFormed_sample :
    Reading.read Reading.sample.document = .ok Reading.sample ∧
      Reading.sample.HasSortedColors ∧ ∃ mappings optimized,
      BuildOptions.sample.apply Registry.standard
          (Reading.sample.mappings Registry.standard) = .ok mappings ∧
        Strategy.coverage.apply mappings = .ok optimized ∧
        optimized.mappings.map written =
          ["c>=wur".toList, "(t:creature OR t:planeswalker)",
            "eur>=5 eur<=20", "usd<=2", "f:modern", "pow>=2"] ∧
        ∀ mapping ∈ optimized.mappings, mapping.IsWellFormed := by
  have isRead : Reading.read Reading.sample.document = .ok Reading.sample := by
    decide +kernel
  have sorted := Reading.hasSortedColors_of_read isRead
  have result : ((BuildOptions.sample.apply Registry.standard
        (Reading.sample.mappings Registry.standard)).toOption.bind
      fun mappings => (Strategy.coverage.apply mappings).toOption).map
        (fun optimized => optimized.mappings.map written) =
      some ["c>=wur".toList, "(t:creature OR t:planeswalker)",
        "eur>=5 eur<=20", "usd<=2", "f:modern", "pow>=2"] := by
    decide +kernel
  refine ⟨isRead, sorted, ?_⟩
  cases isApplied : BuildOptions.sample.apply Registry.standard
      (Reading.sample.mappings Registry.standard) with
  | error unknown =>
      rw [isApplied] at result
      cases result
  | ok mappings =>
      have stay := (Strategy.mappings_stay_wellFormed sorted isApplied
        .coverage).2.2
      rw [isApplied] at result
      cases isOptimized : Strategy.coverage.apply mappings with
      | error error =>
          simp [isOptimized, Except.toOption] at result
      | ok optimized =>
          rw [isOptimized] at stay
          simp only [Except.toOption, Option.bind_some, isOptimized,
            Option.map_some] at result
          exact ⟨mappings, optimized, rfl, isOptimized,
            Option.some.inj result, stay⟩

end CardQuery
