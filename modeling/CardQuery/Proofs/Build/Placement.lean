import CardQuery.Proofs.Build.Overriding
import CardQuery.Proofs.Mapping.KindOrder

/-!
# Where forced mappings come in

A forced mapping on a new operator comes in before the first mapping of a later
kind.  So it comes behind all mappings of its own kind and of earlier ones
exactly if none of these stands behind a mapping of a later kind.

A format is forced before a budget and is of a later kind, and mappings that
they replace are of their own kinds.  What the one does is therefore not undone
by the other.  Among the mappings of a reading, hints of kinds of decks are the
only ones that can stand before a mapping of an earlier kind.
-/

namespace CardQuery

namespace Mapping

/-- The mapping is in the list, and all mappings behind it are of later kinds
than its own. -/
def ComesByKind (mapping : Mapping) (mappings : List Mapping) : Prop :=
  ∃ before after, mappings = before ++ mapping :: after ∧
    ∀ other ∈ after, mapping.source.rank < other.source.rank

/-- No mapping of a kind up to the rank stands behind one of a later kind. -/
def IsSplitAt (rank : Nat) (mappings : List Mapping) : Prop :=
  mappings.Pairwise fun earlier later =>
    rank < earlier.source.rank → rank < later.source.rank

section Lists

variable {mapping first : Mapping} {mappings more rest : List Mapping}

private theorem ComesByKind.mem (comes : mapping.ComesByKind mappings) :
    mapping ∈ mappings := by
  obtain ⟨before, after, rfl, _⟩ := comes
  exact List.mem_append_right before List.mem_cons_self

private theorem comesByKind_cons_iff :
    mapping.ComesByKind (first :: rest) ↔
      (first = mapping ∧
        ∀ other ∈ rest, mapping.source.rank < other.source.rank) ∨
      mapping.ComesByKind rest := by
  constructor
  · intro comes
    obtain ⟨before, after, isList, later⟩ := comes
    cases before with
    | nil =>
        cases isList
        exact Or.inl ⟨rfl, later⟩
    | cons head before =>
        cases isList
        exact Or.inr ⟨before, after, rfl, later⟩
  · intro comes
    rcases comes with ⟨rfl, later⟩ | ⟨before, after, rfl, later⟩
    · exact ⟨[], rest, rfl, later⟩
    · exact ⟨first :: before, after, rfl, later⟩

instance decidableComesByKind (mapping : Mapping) :
    (mappings : List Mapping) → Decidable (mapping.ComesByKind mappings)
  | [] => isFalse fun comes => List.not_mem_nil comes.mem
  | _ :: rest =>
      have := decidableComesByKind mapping rest
      decidable_of_iff _ comesByKind_cons_iff.symm

private theorem comesByKind_append_iff :
    mapping.ComesByKind (mappings ++ more) ↔
      (mapping.ComesByKind mappings ∧
        ∀ other ∈ more, mapping.source.rank < other.source.rank) ∨
      mapping.ComesByKind more := by
  induction mappings with
  | nil =>
      have never : ¬ mapping.ComesByKind [] :=
        fun comes => List.not_mem_nil comes.mem
      rw [List.nil_append, iff_false_intro never, false_and, false_or]
  | cons first rest ih =>
      rw [List.cons_append, comesByKind_cons_iff, ih, comesByKind_cons_iff,
        List.forall_mem_append, or_and_right, and_assoc, or_assoc]

end Lists

namespace IsForcedInto

variable {forced other : Mapping} {mappings result : List Mapping}

/-- The mapping that is replaced, if there is one, has a kind of the same rank
as the forced one. -/
def KeepsRank (forced : Mapping) (mappings : List Mapping) : Prop :=
  ∀ old ∈ mappings, old.operator = forced.operator →
    old.source.rank = forced.source.rank

private theorem comesByKind_iff (into : IsForcedInto forced mappings result)
    (isNew : ∀ mapping ∈ mappings, mapping.operator ≠ forced.operator) :
    forced.ComesByKind result ↔ IsSplitAt forced.source.rank mappings := by
  have notAmong {others : List Mapping}
      (apart : ∀ mapping ∈ others, mapping.operator ≠ forced.operator) :
      ¬ forced.ComesByKind others :=
    fun comes => apart forced comes.mem rfl
  cases into with
  | @replacing before after old same isFirst =>
      exact absurd same
        (isNew old (List.mem_append_right before List.mem_cons_self))
  | @inserted before after isNew notLater later =>
      obtain ⟨newBefore, newAfter⟩ := List.forall_mem_append.mp isNew
      rw [comesByKind_append_iff, iff_false_intro (notAmong newBefore),
        false_and, false_or, comesByKind_cons_iff,
        iff_false_intro (notAmong newAfter), or_false, IsSplitAt,
        List.pairwise_append]
      constructor
      · intro comes
        obtain ⟨_, allLater⟩ := comes
        refine ⟨?_, ?_, ?_⟩
        · apply List.pairwise_of_forall_mem_list
          intro earlier isEarlier _ _ isLater
          exact absurd isLater (Nat.not_lt.mpr (notLater earlier isEarlier))
        · apply List.pairwise_of_forall_mem_list
          intro _ _ mapping member _
          exact allLater mapping member
        · intro earlier isEarlier _ _ isLater
          exact absurd isLater (Nat.not_lt.mpr (notLater earlier isEarlier))
      · intro split
        obtain ⟨_, inAfter, _⟩ := split
        refine ⟨rfl, ?_⟩
        cases after with
        | nil => exact List.forall_mem_nil _
        | cons head rest =>
            have headLater := later head rfl
            refine List.forall_mem_cons.mpr ⟨headLater, ?_⟩
            intro mapping member
            exact (List.pairwise_cons.mp inAfter).1 mapping member headLater

private theorem isSplitAt_iff (into : IsForcedInto forced mappings result)
    (keepsRank : KeepsRank forced mappings) (rank : Nat) :
    IsSplitAt rank result ↔ IsSplitAt rank mappings := by
  cases into with
  | @replacing before after old same isFirst =>
      have sameRank := keepsRank old
        (List.mem_append_right before List.mem_cons_self) same
      have sameRanks : (before ++ forced :: after).map (·.source.rank) =
          (before ++ old :: after).map (·.source.rank) := by
        rw [List.map_append, List.map_append, List.map_cons, List.map_cons,
          sameRank]
      have byRanks (mappings : List Mapping) : IsSplitAt rank mappings ↔
          (mappings.map (·.source.rank)).Pairwise fun earlier later =>
            rank < earlier → rank < later := by
        rw [IsSplitAt, List.pairwise_map]
      rw [byRanks, byRanks, sameRanks]
  | @inserted before after isNew notLater later =>
      constructor
      · intro split
        refine List.Pairwise.sublist ?_ split
        exact (List.Sublist.refl before).append (List.sublist_cons_self _ _)
      · intro split
        obtain ⟨inBefore, inAfter, across⟩ := List.pairwise_append.mp split
        refine List.pairwise_append.mpr
          ⟨inBefore, List.pairwise_cons.mpr ⟨?_, inAfter⟩, ?_⟩
        · intro mapping member isLater
          cases after with
          | nil => cases member
          | cons head rest =>
              have headLater := Nat.lt_trans isLater (later head rfl)
              rcases List.mem_cons.mp member with rfl | inRest
              · exact headLater
              · exact (List.pairwise_cons.mp inAfter).1 mapping inRest headLater
        · intro earlier isEarlier mapping member isLater
          rcases List.mem_cons.mp member with rfl | inAfter
          · exact Nat.lt_of_lt_of_le isLater (notLater earlier isEarlier)
          · exact across earlier isEarlier mapping inAfter isLater

private theorem comesByKind_other_iff
    (into : IsForcedInto forced mappings result)
    (keepsRank : KeepsRank forced mappings)
    (apart : forced.operator ≠ other.operator)
    (comesBefore : forced.source.rank < other.source.rank) :
    other.ComesByKind result ↔ other.ComesByKind mappings := by
  have notOther {mapping : Mapping}
      (same : mapping.operator = forced.operator) : mapping ≠ other := by
    intro isOther
    rw [isOther] at same
    exact apart same.symm
  cases into with
  | @replacing before after old same isFirst =>
      have sameRank := keepsRank old
        (List.mem_append_right before List.mem_cons_self) same
      simp only [comesByKind_append_iff, comesByKind_cons_iff,
        List.forall_mem_cons, sameRank, notOther rfl, notOther same]
  | @inserted before after isNew notLater later =>
      have neverBefore : ¬ other.ComesByKind before := by
        intro comes
        exact Nat.not_lt.mpr (notLater other comes.mem) comesBefore
      simp only [comesByKind_append_iff, comesByKind_cons_iff, neverBefore,
        notOther rfl, false_and, false_or]

end IsForcedInto

section All

variable {first one : Mapping} {forced mappings : List Mapping}

private theorem keepsRank_override (apart : first.operator ≠ one.operator)
    (keepsRank : IsForcedInto.KeepsRank one mappings) :
    IsForcedInto.KeepsRank one (override first mappings) := by
  intro old member same
  rcases (isForcedInto_override first mappings).eq_or_mem member with
    rfl | isOld
  · exact absurd same apart
  · exact keepsRank old isOld same

private theorem comesByKind_overrideAll_of_before
    (apart : (forced.map (·.operator)).Nodup)
    (keepRanks : ∀ other ∈ forced, IsForcedInto.KeepsRank other mappings)
    (others : ∀ other ∈ forced, other.operator ≠ one.operator)
    (before : ∀ other ∈ forced, other.source.rank < one.source.rank) :
    one.ComesByKind (overrideAll forced mappings) ↔
      one.ComesByKind mappings := by
  induction forced generalizing mappings with
  | nil => rfl
  | cons first rest ih =>
      rw [List.map_cons, List.nodup_cons] at apart
      obtain ⟨firstApart, restApart⟩ := apart
      obtain ⟨keepsRank, keepRanks⟩ := List.forall_mem_cons.mp keepRanks
      obtain ⟨isOther, others⟩ := List.forall_mem_cons.mp others
      obtain ⟨isBefore, before⟩ := List.forall_mem_cons.mp before
      have keepRanksNext : ∀ other ∈ rest,
          IsForcedInto.KeepsRank other (override first mappings) := by
        intro other member
        apply keepsRank_override _ (keepRanks other member)
        intro same
        exact firstApart (List.mem_map.mpr ⟨other, member, same.symm⟩)
      exact (ih restApart keepRanksNext others before).trans
        ((isForcedInto_override first mappings).comesByKind_other_iff keepsRank
          isOther isBefore)

/-- Of mappings that are forced one after another, each of an earlier kind than
the one before, a new one comes in by its kind if and only if no mapping of a
kind up to its own stood behind one of a later kind. -/
theorem comesByKind_overrideAll_iff
    (apart : (forced.map (·.operator)).Nodup)
    (descending : forced.Pairwise fun earlier later =>
      later.source.rank < earlier.source.rank)
    (keepRanks : ∀ other ∈ forced, IsForcedInto.KeepsRank other mappings)
    (member : one ∈ forced)
    (isNew : ∀ mapping ∈ mappings, mapping.operator ≠ one.operator) :
    one.ComesByKind (overrideAll forced mappings) ↔
      IsSplitAt one.source.rank mappings := by
  induction forced generalizing mappings with
  | nil => cases member
  | cons first rest ih =>
      rw [List.map_cons, List.nodup_cons] at apart
      obtain ⟨firstApart, restApart⟩ := apart
      obtain ⟨before, descending⟩ := List.pairwise_cons.mp descending
      obtain ⟨keepsRank, keepRanks⟩ := List.forall_mem_cons.mp keepRanks
      have others : ∀ other ∈ rest, other.operator ≠ first.operator := by
        intro other isOther same
        exact firstApart (List.mem_map.mpr ⟨other, isOther, same⟩)
      have keepRanksNext : ∀ other ∈ rest,
          IsForcedInto.KeepsRank other (override first mappings) :=
        fun other isOther => keepsRank_override (others other isOther).symm
          (keepRanks other isOther)
      have into := isForcedInto_override first mappings
      rcases List.mem_cons.mp member with rfl | later
      · exact (comesByKind_overrideAll_of_before restApart keepRanksNext others
          before).trans (into.comesByKind_iff isNew)
      · refine (ih restApart descending keepRanksNext later ?_).trans
          (into.isSplitAt_iff keepsRank one.source.rank)
        intro mapping isMember
        rcases into.eq_or_mem isMember with rfl | isOld
        · exact (others one later).symm
        · exact isNew mapping isOld

end All

end Mapping

open Mapping

namespace Reading

/-- Behind a hint of a kind of deck, all mappings are of kinds after the given
rank. -/
def HintsFollow (rank : Nat) (mappings : List Mapping) : Prop :=
  mappings.Pairwise fun earlier later =>
    earlier.source = .archetype → rank < later.source.rank

/-- Up to the rank of formats, it is hints of kinds of decks that can keep the
mappings of a reading from being in the order of their kinds. -/
theorem isSplitAt_mappings_iff {rank : Nat}
    (notDecks : rank < ConceptKind.archetype.rank) (registry : Registry)
    (reading : Reading) :
    IsSplitAt rank (reading.mappings registry) ↔
      HintsFollow rank (reading.mappings registry) := by
  constructor
  · intro split
    refine split.imp ?_
    intro earlier later follows isHint
    apply follows
    rw [isHint]
    exact notDecks
  · intro follow
    refine (follow.and (pairwise_mappings registry reading)).imp ?_
    intro earlier later both isLater
    obtain ⟨follows, isHint | inOrder⟩ := both
    · exact follows isHint
    · exact Nat.lt_of_lt_of_le isLater inOrder

end Reading

namespace BuildOptions

variable {registry : Registry} {reading : Reading} {options : BuildOptions}
  {forced : Mapping} {result : List Mapping}

/-- What is forced is of the kind that conditions on its operator come from, and
no hint of a kind of deck is on that operator. -/
theorem source_of_mem_forced (member : forced ∈ options.forced) :
    forced.source.rank = ownRank forced.operator ∧
      forced.operator ∉ ArchetypeConcept.operators ∧
      forced.source.rank < ConceptKind.archetype.rank := by
  rcases mem_forced_iff.mp member with ⟨format, _, rfl⟩ | ⟨budget, _, rfl⟩
  · exact ⟨show ConceptKind.format.rank = ownRank "f".toList by decide,
      show "f".toList ∉ ArchetypeConcept.operators by decide,
      show ConceptKind.format.rank < _ by decide⟩
  · exact ⟨show ConceptKind.price.rank = ownRank "usd".toList by decide,
      show "usd".toList ∉ ArchetypeConcept.operators by decide,
      show ConceptKind.price.rank < _ by decide⟩

/-- A budget is forced after a format, and is of an earlier kind. -/
theorem pairwise_forced (options : BuildOptions) :
    options.forced.Pairwise fun earlier later =>
      later.source.rank < earlier.source.rank := by
  have formatLater : ConceptKind.price.rank < ConceptKind.format.rank := by
    decide
  rw [BuildOptions.forced]
  cases options.forcedFormat? with
  | none =>
      cases options.priceBudget with
      | none => exact List.Pairwise.nil
      | some budget => exact List.pairwise_singleton _ _
  | some format =>
      cases options.priceBudget with
      | none => exact List.pairwise_singleton _ _
      | some budget =>
          exact List.pairwise_pair.mpr formatLater

/-- What is forced onto the mappings of a reading replaces a mapping of its own
kind, if any. -/
theorem keepsRank_of_mem_forced (registry : Registry) (reading : Reading)
    (member : forced ∈ options.forced) :
    IsForcedInto.KeepsRank forced (reading.mappings registry) := by
  obtain ⟨ownRank, noHints, _⟩ := source_of_mem_forced member
  intro old isOld same
  obtain ⟨candidate, isCandidate, onOld, copy⟩ := Reading.exists_candidate isOld
  rcases Reading.source_of_mem_candidates candidate isCandidate with
    ⟨_, onHints⟩ | own
  · rw [onOld, same] at onHints
    exact absurd onHints noHints
  · rw [copy.source, own, onOld, same, ownRank]

/-- A forced mapping on a new operator comes in behind all mappings of a reading
that are of its own kind or of an earlier one if and only if none of these
stands behind a hint of a kind of deck. -/
theorem forced_comesByKind_iff
    (applied :
      options.apply registry (reading.mappings registry) = .ok result)
    (member : forced ∈ options.forced)
    (isNew : ∀ mapping ∈ reading.mappings registry,
      mapping.operator ≠ forced.operator) :
    forced.ComesByKind result ↔
      Reading.HintsFollow forced.source.rank (reading.mappings registry) := by
  obtain ⟨_, rfl⟩ := apply_eq_ok_iff.mp applied
  obtain ⟨_, _, notDecks⟩ := source_of_mem_forced member
  calc
    forced.ComesByKind (overrideAll options.forced (reading.mappings registry))
      ↔ IsSplitAt forced.source.rank (reading.mappings registry) :=
        comesByKind_overrideAll_iff options.nodup_forced options.pairwise_forced
          (fun _ isForced => keepsRank_of_mem_forced registry reading isForced)
          member isNew
    _ ↔ Reading.HintsFollow forced.source.rank (reading.mappings registry) :=
        reading.isSplitAt_mappings_iff notDecks registry

/-- Between a card type and a keyword, a budget and a format come in by their
kinds. -/
theorem forced_comesByKind_iff_card_type :
    let options : BuildOptions := ⟨.precision, some "modern", some (.ofInt 2), 20⟩
    let reading : Reading :=
      { Reading.empty "" with
        types := [⟨some "creature", none, none, false, "", percent 85⟩]
        keywords := [⟨"flying", percent 85⟩] }
    let cardType := single "t" "creature" none (percent 85) .cardType
      (some (.cardType ⟨some "creature", none, none, false, "", percent 85⟩))
    let keyword := single "o" "flying" none (percent 85) .keyword
      (some (.keyword ⟨"flying", percent 85⟩))
    let result :=
      [cardType, ofBudget (.ofInt 2), ofFormat "modern", keyword]
    options.apply Registry.standard (reading.mappings Registry.standard) =
        .ok result ∧
      options.forced = [ofFormat "modern", ofBudget (.ofInt 2)] ∧
      (∀ mapping ∈ reading.mappings Registry.standard,
        mapping.operator ≠ (ofFormat "modern").operator) ∧
      (ofFormat "modern").ComesByKind result ∧
      Reading.HintsFollow ConceptKind.format.rank
        (reading.mappings Registry.standard) := by
  intro options reading cardType keyword result
  have applied : options.apply Registry.standard
      (reading.mappings Registry.standard) = .ok result := by
    decide +kernel
  have forced : options.forced =
      [ofFormat "modern", ofBudget (.ofInt 2)] := by
    decide +kernel
  have member : ofFormat "modern" ∈ options.forced :=
    forced ▸ List.mem_cons_self
  have isNew : ∀ mapping ∈ reading.mappings Registry.standard,
      mapping.operator ≠ (ofFormat "modern").operator := by
    decide +kernel
  have comes : (ofFormat "modern").ComesByKind result := by
    decide +kernel
  exact ⟨applied, forced, isNew, comes,
    (forced_comesByKind_iff applied member isNew).mp comes⟩

/-- A hint of a kind of deck is surer than the types that are asked for and
stands in their place, before the price.  A format comes in before both. -/
theorem not_forced_comesByKind_deck :
    let deck : ArchetypeConcept :=
      ⟨"storm", ⟨none, none, [], [], ["instant", "sorcery"], []⟩, percent 95⟩
    let bound : PriceConcept := ⟨none, some (.ofInt 5), .usd, none, percent 95⟩
    let reading : Reading :=
      { Reading.empty "" with
        types := [⟨some "instant OR sorcery", none, none, false, "", percent 85⟩]
        archetypes := [deck]
        prices := [bound] }
    let hint := joined .or "t" ["instant", "sorcery"]
      (percent 95 * .ofDecimal false 9 (-1)) .archetype (some (.archetype deck))
    let price := single "usd" "5" (some .le) (percent 95) .price
      (some (.price bound))
    let options : BuildOptions := ⟨.precision, some "modern", none, 20⟩
    let result := [ofFormat "modern", hint, price]
    reading.mappings Registry.standard = [hint, price] ∧
      options.apply Registry.standard (reading.mappings Registry.standard) =
        .ok result ∧
      options.forced = [ofFormat "modern"] ∧
      (∀ mapping ∈ reading.mappings Registry.standard,
        mapping.operator ≠ (ofFormat "modern").operator) ∧
      price.source.rank ≤ (ofFormat "modern").source.rank ∧
      ¬ (ofFormat "modern").ComesByKind result := by
  decide +kernel

end BuildOptions

end CardQuery
