import CardQuery.Build.Options
import CardQuery.Operator.Standard
import CardQuery.Proofs.Mapping.Grouping
import Mathlib.Data.List.Nodup

/-!
# Overriding mappings

A mapping is forced onto others in one of two ways: it takes the place of the
first one on its operator, or it comes in before the first one of a later kind.
The relation `IsForcedInto` says so, and whatever holds of overriding is proved
for these two ways.

Where no operator is repeated, there is only one place to take.  Mappings that
are forced one after another then leave every other one as it is and where it
is, each of them is there once, and forcing them once more changes nothing.
-/

namespace CardQuery

namespace Mapping

/-- The two ways in which a mapping is forced onto others. -/
inductive IsForcedInto (forced : Mapping) :
    List Mapping → List Mapping → Prop
  | replacing {before after : List Mapping} {old : Mapping}
      (same : old.operator = forced.operator)
      (isFirst : ∀ mapping ∈ before, mapping.operator ≠ forced.operator) :
      IsForcedInto forced (before ++ old :: after) (before ++ forced :: after)
  | inserted {before after : List Mapping}
      (isNew : ∀ mapping ∈ before ++ after, mapping.operator ≠ forced.operator)
      (notLater : ∀ mapping ∈ before,
        mapping.source.rank ≤ forced.source.rank)
      (later : ∀ mapping ∈ after.head?,
        forced.source.rank < mapping.source.rank) :
      IsForcedInto forced (before ++ after) (before ++ forced :: after)

private theorem exists_insertByRank_eq (forced : Mapping)
    (mappings : List Mapping) :
    ∃ before after, mappings = before ++ after ∧
      insertByRank forced mappings = before ++ forced :: after ∧
      (∀ mapping ∈ before, mapping.source.rank ≤ forced.source.rank) ∧
      ∀ mapping ∈ after.head?, forced.source.rank < mapping.source.rank := by
  induction mappings with
  | nil => exact ⟨[], [], rfl, rfl, by simp, by simp⟩
  | cons first rest ih =>
      rw [insertByRank]
      by_cases comesAfter : forced.source.rank < first.source.rank
      · refine ⟨[], first :: rest, rfl, if_pos comesAfter, by simp, ?_⟩
        simpa using comesAfter
      · obtain ⟨before, after, split, inserted, notLater, later⟩ := ih
        refine ⟨first :: before, after, by rw [split]; rfl, ?_, ?_, later⟩
        · rw [if_neg comesAfter, inserted]
          rfl
        · exact List.forall_mem_cons.mpr
            ⟨Nat.le_of_not_lt comesAfter, notLater⟩

private theorem replaceFirst?_eq_none {forced : Mapping}
    {mappings : List Mapping}
    (none : replaceFirst? forced mappings = none) :
    ∀ mapping ∈ mappings, mapping.operator ≠ forced.operator := by
  induction mappings with
  | nil => exact List.forall_mem_nil _
  | cons first rest ih =>
      rw [replaceFirst?] at none
      split at none
      next => cases none
      next other =>
        exact List.forall_mem_cons.mpr
          ⟨other, ih (Option.map_eq_none_iff.mp none)⟩

private theorem exists_replaceFirst?_eq {forced : Mapping}
    {mappings replaced : List Mapping}
    (found : replaceFirst? forced mappings = some replaced) :
    ∃ before old after, mappings = before ++ old :: after ∧
      replaced = before ++ forced :: after ∧ old.operator = forced.operator ∧
      ∀ mapping ∈ before, mapping.operator ≠ forced.operator := by
  induction mappings generalizing replaced with
  | nil => cases found
  | cons first rest ih =>
      rw [replaceFirst?] at found
      split at found
      next same =>
        cases found
        exact ⟨[], first, rest, rfl, rfl, same, List.forall_mem_nil _⟩
      next other =>
        obtain ⟨later, isLater, rfl⟩ := Option.map_eq_some_iff.mp found
        obtain ⟨before, old, after, rfl, rfl, same, isFirst⟩ := ih isLater
        exact ⟨first :: before, old, after, rfl, rfl, same,
          List.forall_mem_cons.mpr ⟨other, isFirst⟩⟩

theorem isForcedInto_override (forced : Mapping) (mappings : List Mapping) :
    IsForcedInto forced mappings (override forced mappings) := by
  rw [override]
  cases found : replaceFirst? forced mappings with
  | some replaced =>
      obtain ⟨before, old, after, rfl, rfl, same, isFirst⟩ :=
        exists_replaceFirst?_eq found
      exact .replacing same isFirst
  | none =>
      have isNew := replaceFirst?_eq_none found
      obtain ⟨before, after, rfl, inserted, notLater, later⟩ :=
        exists_insertByRank_eq forced mappings
      rw [Option.getD_none, inserted]
      exact .inserted isNew notLater later

/-- The mapping that stands in the place of another one: the forced one on its
operator, or itself. -/
def inPlace (forced : List Mapping) (mapping : Mapping) : Mapping :=
  (forced.find? (·.operator == mapping.operator)).getD mapping

section InPlace

variable {forced : List Mapping} {mapping last : Mapping}

private theorem inPlace_operator (forced : List Mapping) (mapping : Mapping) :
    (inPlace forced mapping).operator = mapping.operator := by
  rw [inPlace]
  cases found : forced.find? (·.operator == mapping.operator) with
  | none => rfl
  | some other => simpa using List.find?_some found

private theorem inPlace_of_other
    (other : ∀ one ∈ forced, one.operator ≠ mapping.operator) :
    inPlace forced mapping = mapping := by
  have none : forced.find? (·.operator == mapping.operator) = none := by
    simpa using other
  rw [inPlace, none, Option.getD_none]

private theorem inPlace_single_of_eq (same : mapping.operator = last.operator) :
    inPlace [last] mapping = last := by
  simp [inPlace, same]

private theorem inPlace_single_of_ne (other : mapping.operator ≠ last.operator)
    :
    inPlace [last] mapping = mapping :=
  inPlace_of_other (List.forall_mem_singleton.mpr (Ne.symm other))

theorem inPlace_concat
    (apart : ∀ one ∈ forced, one.operator ≠ last.operator)
    (mapping : Mapping) :
    inPlace (forced ++ [last]) mapping =
      inPlace [last] (inPlace forced mapping) := by
  by_cases onLast : mapping.operator = last.operator
  · have none : forced.find? (·.operator == last.operator) = none := by
      simpa using apart
    rw [inPlace_single_of_eq (by rw [inPlace_operator, onLast])]
    simp [inPlace, none, onLast]
  · rw [inPlace_single_of_ne (by rwa [inPlace_operator])]
    simp [inPlace, Ne.symm onLast]

private theorem map_inPlace_eq_self {mappings : List Mapping}
    (fixed : ∀ mapping ∈ mappings, inPlace forced mapping = mapping) :
    mappings.map (inPlace forced) = mappings :=
  (List.map_congr_left fixed).trans (List.map_id _)

end InPlace

theorem onOperator_eq_singleton {mappings : List Mapping} {mapping : Mapping}
    (nodup : (mappings.map (·.operator)).Nodup)
    (member : mapping ∈ mappings) :
    onOperator mappings mapping.operator = [mapping] := by
  induction mappings with
  | nil => cases member
  | cons first rest ih =>
      rw [List.map_cons, List.nodup_cons] at nodup
      obtain ⟨apart, restNodup⟩ := nodup
      rcases List.mem_cons.mp member with rfl | later
      · have none : onOperator rest mapping.operator = [] := by
          apply List.filter_eq_nil_iff.mpr
          intro other isOther same
          exact apart (List.mem_map.mpr ⟨other, isOther, by simpa using same⟩)
        rw [onOperator, List.filter_cons_of_pos (by simp)]
        exact congrArg (mapping :: ·) none
      · have other : first.operator ≠ mapping.operator := by
          intro same
          exact apart (List.mem_map.mpr ⟨mapping, later, same.symm⟩)
        rw [onOperator, List.filter_cons_of_neg (by simpa using other)]
        exact ih restNodup later

namespace IsForcedInto

variable {forced : Mapping} {mappings result : List Mapping}

theorem mem (into : IsForcedInto forced mappings result) :
    forced ∈ result := by
  cases into with
  | replacing same isFirst =>
      exact List.mem_append_right _ List.mem_cons_self
  | inserted isNew notLater later =>
      exact List.mem_append_right _ List.mem_cons_self

/-- Nothing but the forced mapping comes in. -/
theorem eq_or_mem (into : IsForcedInto forced mappings result)
    {mapping : Mapping} (member : mapping ∈ result) :
    mapping = forced ∨ mapping ∈ mappings := by
  cases into with
  | replacing same isFirst =>
      simp only [List.mem_append, List.mem_cons] at member ⊢
      rcases member with earlier | isForced | later
      · exact Or.inr (Or.inl earlier)
      · exact Or.inl isForced
      · exact Or.inr (Or.inr (Or.inr later))
  | inserted isNew notLater later =>
      simp only [List.mem_append, List.mem_cons] at member ⊢
      rcases member with earlier | isForced | later
      · exact Or.inr (Or.inl earlier)
      · exact Or.inl isForced
      · exact Or.inr (Or.inr later)

private theorem mem_of_other (into : IsForcedInto forced mappings result)
    {mapping : Mapping} (member : mapping ∈ mappings)
    (other : mapping.operator ≠ forced.operator) : mapping ∈ result := by
  cases into with
  | replacing same isFirst =>
      simp only [List.mem_append, List.mem_cons] at member ⊢
      rcases member with earlier | rfl | later
      · exact Or.inl earlier
      · exact absurd same other
      · exact Or.inr (Or.inr later)
  | inserted isNew notLater later =>
      rcases List.mem_append.mp member with earlier | later
      · exact List.mem_append_left _ earlier
      · exact List.mem_append_right _ (List.mem_cons_of_mem forced later)

private theorem nodup (into : IsForcedInto forced mappings result)
    (nodup : (mappings.map (·.operator)).Nodup) :
    (result.map (·.operator)).Nodup := by
  cases into with
  | replacing same isFirst => simpa [same] using nodup
  | inserted isNew notLater later =>
      rw [List.map_append] at nodup
      rw [List.map_append, List.map_cons, List.nodup_middle]
      refine List.nodup_cons.mpr ⟨?_, nodup⟩
      rw [← List.map_append]
      intro isOld
      obtain ⟨mapping, member, same⟩ := List.mem_map.mp isOld
      exact isNew mapping member same

private theorem filter_eq (into : IsForcedInto forced mappings result)
    (nodup : (mappings.map (·.operator)).Nodup) (chosen : Text → Bool)
    (known : chosen forced.operator = true →
      ∃ old ∈ mappings, old.operator = forced.operator) :
    result.filter (fun mapping => chosen mapping.operator) =
      (mappings.filter fun mapping => chosen mapping.operator).map
        (inPlace [forced]) := by
  have unmoved {others : List Mapping}
      (apart : ∀ mapping ∈ others, mapping.operator ≠ forced.operator) :
      others.filter (fun mapping => chosen mapping.operator) =
        (others.filter fun mapping => chosen mapping.operator).map
          (inPlace [forced]) := by
    symm
    apply map_inPlace_eq_self
    intro mapping member
    exact inPlace_single_of_ne (apart mapping (List.mem_filter.mp member).1)
  cases into with
  | @replacing before after old same isFirst =>
      have isOnly : ∀ mapping ∈ after,
          mapping.operator ≠ forced.operator := by
        intro mapping member again
        rw [List.map_append, List.map_cons, List.nodup_middle] at nodup
        apply (List.nodup_cons.mp nodup).1
        rw [same, ← again]
        exact List.mem_append_right _
          (List.mem_map.mpr ⟨mapping, member, rfl⟩)
      rw [List.filter_append, List.filter_append, List.map_append,
        List.filter_cons, List.filter_cons, ← unmoved isFirst, same]
      congr 1
      split
      · rw [List.map_cons, inPlace_single_of_eq same, ← unmoved isOnly]
      · exact unmoved isOnly
  | @inserted before after isNew notLater later =>
      have notChosen : ¬ chosen forced.operator = true := by
        intro isChosen
        obtain ⟨old, member, same⟩ := known isChosen
        exact isNew old member same
      rw [← unmoved isNew, List.filter_append, List.filter_append]
      congr 1
      exact List.filter_cons_of_neg notChosen

end IsForcedInto

private theorem override_eq_self {forced : Mapping} {mappings : List Mapping}
    (isThere : onOperator mappings forced.operator = [forced]) :
    override forced mappings = mappings := by
  have onlyOne : ∀ mapping ∈ mappings,
      mapping.operator = forced.operator → mapping = forced := by
    intro mapping member same
    have among := mem_onOperator_iff.mpr ⟨member, same⟩
    rw [isThere] at among
    exact List.mem_singleton.mp among
  have member : forced ∈ mappings :=
    (mem_onOperator_iff.mp (isThere ▸ List.mem_singleton_self forced)).1
  have into := isForcedInto_override forced mappings
  generalize override forced mappings = result at into
  cases into with
  | @replacing before after old same isFirst =>
      rw [onlyOne old (List.mem_append_right _ List.mem_cons_self) same]
  | inserted isNew notLater later => exact absurd rfl (isNew forced member)

/-- Some mappings are forced onto others, one after another. -/
def overrideAll (forced mappings : List Mapping) : List Mapping :=
  forced.foldl (fun result one => override one result) mappings

section Members

variable {forced mappings : List Mapping} {mapping : Mapping}

theorem overrideAll_concat (forced mappings : List Mapping) (last : Mapping) :
    overrideAll (forced ++ [last]) mappings =
      override last (overrideAll forced mappings) := by
  rw [overrideAll, List.foldl_append]
  rfl

theorem mem_or_mem_of_mem_overrideAll
    (member : mapping ∈ overrideAll forced mappings) :
    mapping ∈ forced ∨ mapping ∈ mappings := by
  induction forced using List.reverseRecOn with
  | nil => exact Or.inr member
  | append_singleton forced last ih =>
      rw [overrideAll_concat] at member
      rw [List.mem_append, List.mem_singleton]
      rcases (isForcedInto_override _ _).eq_or_mem member with isLast | earlier
      · exact Or.inl (Or.inr isLast)
      · exact (ih earlier).imp_left Or.inl

theorem mem_overrideAll (apart : (forced.map (·.operator)).Nodup)
    (member : mapping ∈ forced) : mapping ∈ overrideAll forced mappings := by
  induction forced using List.reverseRecOn with
  | nil => cases member
  | append_singleton forced last ih =>
      rw [List.map_append, List.map_singleton, List.nodup_append] at apart
      obtain ⟨forcedApart, _, fromLast⟩ := apart
      have into := isForcedInto_override last (overrideAll forced mappings)
      rw [overrideAll_concat]
      rcases List.mem_append.mp member with earlier | isLast
      · apply into.mem_of_other (ih forcedApart earlier)
        exact fromLast mapping.operator
          (List.mem_map.mpr ⟨mapping, earlier, rfl⟩) last.operator
          (List.mem_singleton_self _)
      · rw [List.mem_singleton.mp isLast]
        exact into.mem

end Members

/-- What becomes of mappings onto which others are forced.  No operator is
repeated.  Where a mapping was, there it still is or the forced one on its
operator, and those on other operators are the same as before.  Each forced
mapping is the only one on its operator. -/
structure AreOverridden (forced mappings result : List Mapping) : Prop where
  nodup : (result.map (·.operator)).Nodup
  inPlace : result.filter (fun mapping =>
      mapping.operator ∈ mappings.map (·.operator)) =
    mappings.map (inPlace forced)
  untouched :
    result.filter (fun mapping => mapping.operator ∉ forced.map (·.operator)) =
      mappings.filter fun mapping =>
        mapping.operator ∉ forced.map (·.operator)
  once : ∀ mapping ∈ forced, onOperator result mapping.operator = [mapping]

theorem areOverridden_nil {mappings : List Mapping}
    (nodup : (mappings.map (·.operator)).Nodup) :
    AreOverridden [] mappings mappings where
  nodup := nodup
  inPlace := by
    have all : mappings.filter (fun mapping =>
        mapping.operator ∈ mappings.map (·.operator)) = mappings := by
      apply List.filter_eq_self.mpr
      intro mapping member
      exact decide_eq_true (List.mem_map.mpr ⟨mapping, member, rfl⟩)
    rw [all]
    symm
    apply map_inPlace_eq_self
    intro mapping _
    rfl
  untouched := rfl
  once := List.forall_mem_nil _

theorem AreOverridden.concat {forced mappings middle result : List Mapping}
    {last : Mapping} (overridden : AreOverridden forced mappings middle)
    (apart : ∀ one ∈ forced, one.operator ≠ last.operator)
    (into : IsForcedInto last middle result) :
    AreOverridden (forced ++ [last]) mappings result where
  nodup := into.nodup overridden.nodup
  inPlace := by
    have known : decide (last.operator ∈ mappings.map (·.operator)) = true →
        ∃ old ∈ middle, old.operator = last.operator := by
      intro isOld
      obtain ⟨old, member, same⟩ := List.mem_map.mp (of_decide_eq_true isOld)
      have inMiddle : Mapping.inPlace forced old ∈ middle := by
        have among : Mapping.inPlace forced old ∈
            mappings.map (Mapping.inPlace forced) :=
          List.mem_map.mpr ⟨old, member, rfl⟩
        rw [← overridden.inPlace] at among
        exact (List.mem_filter.mp among).1
      exact ⟨_, inMiddle, by rw [inPlace_operator, same]⟩
    calc
      _ = (middle.filter fun mapping =>
            mapping.operator ∈ mappings.map (·.operator)).map
              (Mapping.inPlace [last]) :=
        into.filter_eq overridden.nodup
          (fun operator => operator ∈ mappings.map (·.operator)) known
      _ = mappings.map
            (Mapping.inPlace [last] ∘ Mapping.inPlace forced) := by
        rw [overridden.inPlace, List.map_map]
      _ = _ := by
        apply List.map_congr_left
        intro mapping _
        exact (inPlace_concat apart mapping).symm
  untouched := by
    have kept {mapping : Mapping} :
        decide (mapping.operator ∉ (forced ++ [last]).map (·.operator)) =
          (decide (mapping.operator ≠ last.operator) &&
            decide (mapping.operator ∉ forced.map (·.operator))) := by
      simp [Bool.and_comm]
    have others {mapping : Mapping} (member : mapping ∈ middle.filter
        fun one => one.operator ∉ (forced ++ [last]).map (·.operator)) :
        mapping.operator ≠ last.operator := by
      have isKept := (List.mem_filter.mp member).2
      rw [kept, Bool.and_eq_true] at isKept
      exact of_decide_eq_true isKept.1
    calc
      _ = (middle.filter fun mapping =>
            mapping.operator ∉ (forced ++ [last]).map (·.operator)).map
              (Mapping.inPlace [last]) :=
        into.filter_eq overridden.nodup (fun operator =>
          operator ∉ (forced ++ [last]).map (·.operator)) (by simp)
      _ = middle.filter fun mapping =>
            mapping.operator ∉ (forced ++ [last]).map (·.operator) := by
        apply map_inPlace_eq_self
        intro mapping member
        exact inPlace_single_of_ne (others member)
      _ = _ := by
        simp only [kept]
        rw [← List.filter_filter, overridden.untouched, List.filter_filter]
  once := by
    intro mapping member
    rcases List.mem_append.mp member with earlier | isLast
    · have other := apart mapping earlier
      have unmoved := into.filter_eq overridden.nodup
        (· == mapping.operator) (by simp [Ne.symm other])
      rw [onOperator, unmoved]
      change (onOperator middle mapping.operator).map _ = _
      rw [overridden.once mapping earlier, List.map_singleton,
        inPlace_single_of_ne other]
    · rw [List.mem_singleton.mp isLast]
      exact onOperator_eq_singleton (into.nodup overridden.nodup) into.mem

private theorem areOverridden_overrideAll {forced mappings : List Mapping}
    (apart : (forced.map (·.operator)).Nodup)
    (nodup : (mappings.map (·.operator)).Nodup) :
    AreOverridden forced mappings (overrideAll forced mappings) := by
  induction forced using List.reverseRecOn with
  | nil => exact areOverridden_nil nodup
  | append_singleton forced last ih =>
      rw [List.map_append, List.map_singleton, List.nodup_append] at apart
      obtain ⟨forcedApart, _, fromLast⟩ := apart
      rw [overrideAll_concat]
      refine (ih forcedApart).concat ?_ (isForcedInto_override _ _)
      intro one member
      exact fromLast one.operator (List.mem_map.mpr ⟨one, member, rfl⟩)
        last.operator (List.mem_singleton_self _)

/-- Mappings that are there already, each alone on its operator, are forced in
vain. -/
theorem overrideAll_eq_self {forced mappings : List Mapping}
    (areThere : ∀ one ∈ forced, onOperator mappings one.operator = [one]) :
    overrideAll forced mappings = mappings := by
  induction forced with
  | nil => rfl
  | cons first rest ih =>
      obtain ⟨isThere, others⟩ := List.forall_mem_cons.mp areThere
      rw [overrideAll, List.foldl_cons, override_eq_self isThere]
      exact ih others

end Mapping

namespace BuildOptions

open Mapping

/-- The name of the format to force, unless there is none or it is empty. -/
def forcedFormat? (options : BuildOptions) : Option Text :=
  options.format.filter (!·.isEmpty)

/-- The mappings that options force, in the order in which they are forced. -/
def forced (options : BuildOptions) : List Mapping :=
  (options.forcedFormat?.map fun format =>
      ofFormat (Text.lower format)).toList ++
    (options.priceBudget.map ofBudget).toList

/-- The registry knows the format to force, if there is one. -/
def KnowsFormat (registry : Registry) (options : BuildOptions) : Prop :=
  ∀ format ∈ options.forcedFormat?,
    registry.accepts "f" (Text.lower format) none = true

variable {registry : Registry} {options : BuildOptions}
  {mappings result : List Mapping}

private theorem applyFormat_eq_ok_iff :
    options.applyFormat registry mappings = .ok result ↔
      options.KnowsFormat registry ∧
        result = overrideAll (options.forcedFormat?.map fun format =>
          ofFormat (Text.lower format)).toList mappings := by
  rw [applyFormat, KnowsFormat, forcedFormat?]
  match options.format with
  | none | some [] =>
      constructor
      · intro isFormatted
        exact ⟨nofun, (Except.ok.inj isFormatted).symm⟩
      · intro isForced
        exact congrArg Except.ok isForced.2.symm
  | some (first :: rest) =>
      dsimp only
      split
      next known =>
        constructor
        · intro isFormatted
          refine ⟨?_, (Except.ok.inj isFormatted).symm⟩
          intro format isFormat
          rw [← Option.some.inj isFormat]
          exact known
        · intro isForced
          exact congrArg Except.ok isForced.2.symm
      next unknown =>
        constructor
        · intro isFormatted
          cases isFormatted
        · intro isForced
          exact absurd (isForced.1 (first :: rest) rfl) unknown

private theorem applyBudget_eq :
    options.applyBudget mappings =
      overrideAll (options.priceBudget.map ofBudget).toList mappings := by
  rw [applyBudget]
  cases options.priceBudget with
  | none => rfl
  | some budget => rfl

/-- Options fail on an unknown format only, and otherwise force their
mappings. -/
theorem apply_eq_ok_iff :
    options.apply registry mappings = .ok result ↔
      options.KnowsFormat registry ∧
        result = overrideAll options.forced mappings := by
  have together : overrideAll options.forced mappings =
      options.applyBudget (overrideAll (options.forcedFormat?.map fun format =>
        ofFormat (Text.lower format)).toList mappings) := by
    rw [applyBudget_eq, forced, overrideAll, List.foldl_append]
    rfl
  rw [together, apply]
  constructor
  · intro isApplied
    cases isFormatted : options.applyFormat registry mappings with
    | error unknown =>
        rw [isFormatted] at isApplied
        cases isApplied
    | ok formatted =>
        rw [isFormatted] at isApplied
        obtain ⟨known, rfl⟩ := applyFormat_eq_ok_iff.mp isFormatted
        exact ⟨known, (Except.ok.inj isApplied).symm⟩
  · intro isForced
    obtain ⟨known, rfl⟩ := isForced
    rw [applyFormat_eq_ok_iff.mpr ⟨known, rfl⟩]
    rfl

theorem mem_forced_iff {mapping : Mapping} :
    mapping ∈ options.forced ↔
      (∃ format ∈ options.forcedFormat?,
        ofFormat (Text.lower format) = mapping) ∨
      ∃ budget ∈ options.priceBudget, ofBudget budget = mapping := by
  simp only [forced, List.mem_append, Option.mem_toList, Option.mem_def,
    Option.map_eq_some_iff]

theorem nodup_forced (options : BuildOptions) :
    (options.forced.map (·.operator)).Nodup := by
  have apart : "f".toList ≠ "usd".toList := by decide
  rw [forced]
  cases options.forcedFormat? with
  | none =>
      cases options.priceBudget with
      | none => exact List.nodup_nil
      | some budget => exact List.nodup_singleton _
  | some format =>
      cases options.priceBudget with
      | none => exact List.nodup_singleton _
      | some budget =>
          exact List.nodup_cons.mpr
            ⟨mt List.mem_singleton.mp apart, List.nodup_singleton _⟩

/-- Options touch the operators of the format and the budget only: where no
operator is repeated, every other mapping stays as it is and where it is, and
the format in small letters and the budget as the most dollars take the place of
the mapping on their operator or come in as the only one on it.  Forcing them
once more changes nothing. -/
theorem apply_touches_forced (nodup : (mappings.map (·.operator)).Nodup)
    (applied : options.apply registry mappings = .ok result) :
    AreOverridden
        ((options.forcedFormat?.map fun format =>
            { operator := "f", value := Text.lower format, comparison := none,
              confidence := .ofInt 1, source := .format, sourceConcept := none,
              negated := false, parts := [], joiner := none,
              comparisons := [] }).toList ++
          (options.priceBudget.map fun budget =>
            { operator := "usd", value := budget.plain, comparison := some .le,
              confidence := .ofInt 1, source := .price, sourceConcept := none,
              negated := false, parts := [], joiner := none,
              comparisons := [] }).toList)
        mappings result ∧
      options.apply registry result = .ok result := by
  obtain ⟨known, rfl⟩ := apply_eq_ok_iff.mp applied
  have overridden := areOverridden_overrideAll options.nodup_forced nodup
  refine ⟨overridden, apply_eq_ok_iff.mpr ⟨known, ?_⟩⟩
  exact (overrideAll_eq_self overridden.once).symm

/-- A format takes the place of another one, and a budget comes in before it. -/
theorem apply_touches_forced_format_and_budget :
    let options : BuildOptions := ⟨.precision, some "Modern", some (.ofInt 2), 20⟩
    let standard := single "f" "standard" none (percent 95) .format none
    let cardType := single "t" "creature" none (percent 98) .cardType none
    let keyword := single "o" "flying" none (percent 85) .keyword none
    let modern : Mapping :=
      ⟨"f", "modern", none, .ofInt 1, .format, none, false, [], none, []⟩
    let dollars : Mapping :=
      ⟨"usd", "2", some .le, .ofInt 1, .price, none, false, [], none, []⟩
    let mappings := [standard, cardType, keyword]
    let result := [dollars, modern, cardType, keyword]
    (mappings.map (·.operator)).Nodup ∧
      options.apply Registry.standard mappings = .ok result ∧
      AreOverridden [modern, dollars] mappings result ∧
      options.apply Registry.standard result = .ok result := by
  intro options standard cardType keyword modern dollars mappings result
  have nodup : (mappings.map (·.operator)).Nodup := by
    decide
  have applied : options.apply Registry.standard mappings = .ok result := by
    decide +kernel
  have forced : options.forced = [modern, dollars] := by
    decide +kernel
  obtain ⟨overridden, again⟩ := apply_touches_forced nodup applied
  change AreOverridden options.forced mappings result at overridden
  rw [forced] at overridden
  exact ⟨nodup, applied, overridden, again⟩

end BuildOptions

end CardQuery
