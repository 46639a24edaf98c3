import CardQuery.Concept.Color
import CardQuery.Proofs.Number.Comparison
import CardQuery.Proofs.Text.Distinct

/-!
# Merging colors

Concepts are merged if they share a color or are alike in being multicolored and
colorless.  No phrase that is multicolored or colorless names a color, so what
shares a color is alike anyway: whatever has been merged so far, it is merged
with the next concept exactly if the two are alike.  Each merged concept
therefore gathers all concepts that are like the first of them.
-/

namespace CardQuery

namespace ColorConcept

/-- Whether a concept is multicolored, and whether it is colorless. -/
def flags (concept : ColorConcept) : Bool × Bool :=
  (concept.multicolor, concept.colorless)

/-- A concept that is multicolored or colorless names no colors. -/
def IsUnmixed (concept : ColorConcept) : Prop :=
  concept.flags = (false, false) ∨ concept.colors = []

/-- The concepts that are multicolored and colorless as the flags say. -/
def withFlags (flags : Bool × Bool) (concepts : List ColorConcept) :
    List ColorConcept :=
  concepts.filter (·.flags = flags)

/-- The concept says what all concepts of a group say together.  It has the
colors of all of them, is exact if all of them are, and has what else any of
them has.  None of them is more certain than the one whose confidence it has. -/
structure Gathers (group : List ColorConcept) (concept : ColorConcept) :
    Prop where
  alike : ∀ member ∈ group, member.flags = concept.flags
  inOrder : concept.colors.Sublist Color.all
  mem_colors_iff : ∀ color,
    color ∈ concept.colors ↔ ∃ member ∈ group, color ∈ member.colors
  isExact_iff :
    concept.isExact = true ↔ ∀ member ∈ group, member.isExact = true
  inclusive_iff :
    concept.inclusive = true ↔ ∃ member ∈ group, member.inclusive = true
  exclusive_iff :
    concept.exclusive = true ↔ ∃ member ∈ group, member.exclusive = true
  certain : ∃ member ∈ group, member.confidence = concept.confidence
  unexceeded : ∀ member ∈ group, ¬ concept.confidence < member.confidence

section Merging

variable {current next : ColorConcept} {group : List ColorConcept}

private theorem isMergeable_iff (currentUnmixed : current.IsUnmixed)
    (nextUnmixed : next.IsUnmixed) :
    current.isMergeable next = true ↔ next.flags = current.flags := by
  have alike : (current.multicolor == next.multicolor &&
      current.colorless == next.colorless) = true ↔
        next.flags = current.flags := by
    rw [Bool.and_eq_true, beq_iff_eq, beq_iff_eq]
    constructor
    · intro both
      exact Prod.ext both.1.symm both.2.symm
    · intro same
      obtain ⟨sameMulticolor, sameColorless⟩ := Prod.mk.inj same
      exact ⟨sameMulticolor.symm, sameColorless.symm⟩
  rw [isMergeable, Bool.or_eq_true, alike, or_iff_right_iff_imp]
  intro shares
  obtain ⟨color, inCurrent, inNext⟩ := List.any_eq_true.mp shares
  have currentPlain := currentUnmixed.resolve_right
    (List.ne_nil_of_mem inCurrent)
  have nextPlain := nextUnmixed.resolve_right
    (List.ne_nil_of_mem (List.contains_iff_mem.mp inNext))
  rw [currentPlain, nextPlain]

theorem flags_merge (same : next.flags = current.flags) :
    (current.merge next).flags = current.flags := by
  obtain ⟨sameMulticolor, sameColorless⟩ := Prod.mk.inj same
  simp [flags, merge, sameMulticolor, sameColorless]

private theorem IsUnmixed.merge (currentUnmixed : current.IsUnmixed)
    (nextUnmixed : next.IsUnmixed) (same : next.flags = current.flags) :
    (current.merge next).IsUnmixed := by
  rw [IsUnmixed, flags_merge same]
  rcases currentUnmixed with plain | none
  · exact Or.inl plain
  · rcases nextUnmixed with plain | nextNone
    · exact Or.inl (same ▸ plain)
    · right
      change Color.sorted (current.colors ++ next.colors) = []
      rw [none, nextNone]
      rfl

private theorem gathers_self (inOrder : current.colors.Sublist Color.all) :
    Gathers [current] current := by
  constructor <;> simp [inOrder, Binary64.not_lt_self]

private theorem Gathers.merge (gathers : Gathers group current)
    (same : next.flags = current.flags) :
    Gathers (group ++ [next]) (current.merge next) where
  alike := by
    rw [flags_merge same]
    exact List.forall_mem_append.mpr
      ⟨gathers.alike, List.forall_mem_singleton.mpr same⟩
  inOrder := List.filter_sublist
  mem_colors_iff color := by
    change color ∈ Color.sorted (current.colors ++ next.colors) ↔ _
    rw [Color.mem_sorted, List.mem_append, gathers.mem_colors_iff]
    simp [or_and_right, exists_or]
  isExact_iff := by
    change (current.isExact && next.isExact) = true ↔ _
    rw [Bool.and_eq_true, gathers.isExact_iff, List.forall_mem_append,
      List.forall_mem_singleton]
  inclusive_iff := by
    change (current.inclusive || next.inclusive) = true ↔ _
    rw [Bool.or_eq_true, gathers.inclusive_iff]
    simp [or_and_right, exists_or]
  exclusive_iff := by
    change (current.exclusive || next.exclusive) = true ↔ _
    rw [Bool.or_eq_true, gathers.exclusive_iff]
    simp [or_and_right, exists_or]
  certain := by
    change ∃ member ∈ group ++ [next],
      member.confidence = current.confidence.larger next.confidence
    rw [Binary64.larger]
    split
    · exact ⟨next, List.mem_append_right _ (List.mem_singleton_self _), rfl⟩
    · obtain ⟨member, isMember, same⟩ := gathers.certain
      exact ⟨member, List.mem_append_left _ isMember, same⟩
  unexceeded := by
    change ∀ member ∈ group ++ [next],
      ¬ current.confidence.larger next.confidence < member.confidence
    refine List.forall_mem_append.mpr ⟨?_, List.forall_mem_singleton.mpr ?_⟩
    · intro member isMember
      exact Binary64.not_larger_lt_left (gathers.unexceeded member isMember)
    · exact Binary64.not_larger_lt_right _ _

end Merging

section All

variable {current : ColorConcept} {group concepts merged : List ColorConcept}

private theorem absorb_gathers (gathers : Gathers group current)
    (currentUnmixed : current.IsUnmixed)
    (unmixed : ∀ concept ∈ concepts, concept.IsUnmixed) :
    Gathers (group ++ withFlags current.flags concepts)
        (absorb current concepts).1 ∧
      (absorb current concepts).2 =
        concepts.filter (·.flags != current.flags) := by
  induction concepts generalizing group current with
  | nil =>
      rw [withFlags, List.filter_nil, List.append_nil]
      exact ⟨gathers, rfl⟩
  | cons next rest ih =>
      obtain ⟨nextUnmixed, restUnmixed⟩ := List.forall_mem_cons.mp unmixed
      rw [absorb, withFlags]
      by_cases same : next.flags = current.flags
      · obtain ⟨absorbed, left⟩ := ih (gathers.merge same)
          (currentUnmixed.merge nextUnmixed same) restUnmixed
        rw [flags_merge same, withFlags] at absorbed
        rw [flags_merge same] at left
        rw [if_pos ((isMergeable_iff currentUnmixed nextUnmixed).mpr same),
          List.filter_cons_of_pos (by simpa using same),
          List.filter_cons_of_neg (by simpa using same)]
        rw [List.append_assoc] at absorbed
        exact ⟨absorbed, left⟩
      · obtain ⟨absorbed, left⟩ := ih gathers currentUnmixed restUnmixed
        rw [if_neg (mt (isMergeable_iff currentUnmixed nextUnmixed).mp same),
          List.filter_cons_of_neg (by simpa using same),
          List.filter_cons_of_pos (by simpa using same)]
        exact ⟨absorbed, congrArg (next :: ·) left⟩

private theorem withFlags_cons_of_ne {flags : Bool × Bool}
    {first : ColorConcept}
    (apart : first.flags ≠ flags) (rest : List ColorConcept) :
    withFlags flags (first :: rest) = withFlags flags rest :=
  List.filter_cons_of_neg (by simpa using apart)

private theorem withFlags_filter_of_ne {flags others : Bool × Bool}
    (apart : flags ≠ others) (concepts : List ColorConcept) :
    withFlags flags (concepts.filter (·.flags != others)) =
      withFlags flags concepts := by
  rw [withFlags, withFlags, List.filter_filter]
  apply List.filter_congr
  intro concept _
  by_cases same : concept.flags = flags
  · simp [same, apart]
  · simp [same]

/-- What a list of concepts is merged to: one concept for each pair of flags, in
the order in which they first occur, that gathers all concepts with it. -/
structure MergesTo (concepts merged : List ColorConcept) : Prop where
  flags : merged.map flags = Text.distinct (concepts.map flags)
  gathers : ∀ concept ∈ merged,
    Gathers (withFlags concept.flags concepts) concept

theorem MergesTo.cons {first gathered : ColorConcept}
    {rest : List ColorConcept}
    (gathers : Gathers (first :: withFlags first.flags rest) gathered)
    (merges : MergesTo (rest.filter (·.flags != first.flags)) merged) :
    MergesTo (first :: rest) (gathered :: merged) where
  flags := by
    rw [List.map_cons, List.map_cons, Text.distinct_cons, List.filter_map,
      merges.flags, gathers.alike first List.mem_cons_self]
    rfl
  gathers := by
    refine List.forall_mem_cons.mpr ⟨?_, ?_⟩
    · rw [← gathers.alike first List.mem_cons_self, withFlags,
        List.filter_cons_of_pos (by simp)]
      exact gathers
    · intro concept member
      have gathers := merges.gathers concept member
      obtain ⟨gathered, isGathered, _⟩ := gathers.certain
      have apart : concept.flags ≠ first.flags := by
        rw [← gathers.alike gathered isGathered]
        simpa using (List.mem_filter.mp (List.mem_filter.mp isGathered).1).2
      rw [withFlags_cons_of_ne (Ne.symm apart),
        ← withFlags_filter_of_ne apart]
      exact gathers

private theorem mergesTo_mergeAll
    (inOrder : ∀ concept ∈ concepts, concept.colors.Sublist Color.all)
    (unmixed : ∀ concept ∈ concepts, concept.IsUnmixed) :
    MergesTo concepts (mergeAll concepts) := by
  induction concepts using mergeAll.induct with
  | case1 =>
      rw [mergeAll]
      exact ⟨rfl, List.forall_mem_nil _⟩
  | case2 first rest ih =>
      obtain ⟨firstInOrder, restInOrder⟩ := List.forall_mem_cons.mp inOrder
      obtain ⟨firstUnmixed, restUnmixed⟩ := List.forall_mem_cons.mp unmixed
      obtain ⟨absorbed, left⟩ :=
        absorb_gathers (gathers_self firstInOrder) firstUnmixed restUnmixed
      rw [left] at ih
      rw [mergeAll, left]
      apply MergesTo.cons absorbed
      apply ih
      · intro concept member
        exact restInOrder concept (List.mem_filter.mp member).1
      · intro concept member
        exact restUnmixed concept (List.mem_filter.mp member).1

end All

end ColorConcept

deriving instance DecidableEq for ColorPhrase

namespace ColorPhrase

/-- The phrases of a table that occur in a text. -/
def phrasesIn (table : List ColorPhrase) (text : Text) : List ColorPhrase :=
  table.filter fun phrase => Text.includes (Text.lower text) phrase.phrase

/-- Whether a phrase means many colors, and whether it means none. -/
def flags (phrase : ColorPhrase) : Bool × Bool :=
  (phrase.multicolor, phrase.colorless)

/-- The phrase stands near one of the words in a text. -/
def HasIndicator (text : Text) (words : List Text) (phrase : ColorPhrase) :
    Prop :=
  isNear (Text.lower text) phrase.phrase words = true

/-- A phrase that means many colors or none names no colors. -/
theorem isUnmixed_concept {phrase : ColorPhrase} (known : phrase ∈ table)
    (text : Text) : (concept text phrase).IsUnmixed := by
  have unmixed : ∀ phrase ∈ table,
      phrase.flags = (false, false) ∨ phrase.colors = [] := by
    decide
  rcases unmixed phrase known with plain | none
  · exact Or.inl plain
  · right
    change Color.sorted phrase.colors = []
    rw [none]
    rfl

end ColorPhrase

namespace ColorConcept

open ColorPhrase

/-- The concept is what some phrases of a text say together. -/
structure Comprises (text : Text) (phrases : List ColorPhrase)
    (concept : ColorConcept) : Prop where
  inOrder : concept.colors.Sublist Color.all
  mem_colors_iff : ∀ color,
    color ∈ concept.colors ↔ ∃ phrase ∈ phrases, color ∈ phrase.colors
  isExact_iff :
    concept.isExact = true ↔ ∀ phrase ∈ phrases, phrase.isExact = true
  inclusive_iff : concept.inclusive = true ↔
    ∃ phrase ∈ phrases, phrase.HasIndicator text inclusiveWords
  exclusive_iff : concept.exclusive = true ↔
    ∃ phrase ∈ phrases, phrase.HasIndicator text exclusiveWords
  certain : ∃ phrase ∈ phrases, percent phrase.hundredths = concept.confidence
  unexceeded : ∀ phrase ∈ phrases,
    percent phrase.hundredths ≤ concept.confidence

private theorem Gathers.comprises {text : Text} {phrases : List ColorPhrase}
    {concept : ColorConcept}
    (gathers : Gathers (phrases.map (ColorPhrase.concept (Text.lower text)))
      concept) :
    Comprises text phrases concept where
  inOrder := gathers.inOrder
  mem_colors_iff color := by
    rw [gathers.mem_colors_iff]
    simp only [List.mem_map, exists_exists_and_eq_and]
    exact exists_congr fun phrase => and_congr_right fun _ => Color.mem_sorted
  isExact_iff := by
    rw [gathers.isExact_iff, List.forall_mem_map]
    rfl
  inclusive_iff := by
    rw [gathers.inclusive_iff]
    simp only [List.mem_map, exists_exists_and_eq_and]
    rfl
  exclusive_iff := by
    rw [gathers.exclusive_iff]
    simp only [List.mem_map, exists_exists_and_eq_and]
    rfl
  certain := by
    obtain ⟨member, isMember, same⟩ := gathers.certain
    obtain ⟨phrase, isPhrase, rfl⟩ := List.mem_map.mp isMember
    exact ⟨phrase, isPhrase, same⟩
  unexceeded := by
    obtain ⟨member, isMember, same⟩ := gathers.certain
    obtain ⟨certain, _, rfl⟩ := List.mem_map.mp isMember
    intro phrase isPhrase
    have notLess := gathers.unexceeded _
      (List.mem_map.mpr ⟨phrase, isPhrase, rfl⟩)
    rw [← same] at notLess ⊢
    exact Binary64.le_of_not_lt (Binary64.ofDecimal_ne_undefined _ _ _)
      (Binary64.ofDecimal_ne_undefined _ _ _) notLess

/-- A text is read to one concept for each way in which the phrases in it are
multicolored and colorless, in the order in which the table has them, and each
concept is what all phrases of its way say together. -/
theorem extract_comprises_phrases {table : List ColorPhrase}
    (known : table ⊆ ColorPhrase.table) (text : Text) :
    let phrases := phrasesIn table text
    Text.AreFirsts (phrases.map ColorPhrase.flags)
        ((extract table text).map flags) ∧
      ∀ concept ∈ extract table text,
        Comprises text (phrases.filter (·.flags = concept.flags)) concept := by
  intro phrases
  have merges : MergesTo
      (phrases.map (ColorPhrase.concept (Text.lower text)))
      (extract table text) := by
    apply mergesTo_mergeAll
    · exact List.forall_mem_map.mpr fun _ _ => List.filter_sublist
    · refine List.forall_mem_map.mpr ?_
      intro phrase isPhrase
      exact isUnmixed_concept (known (List.mem_filter.mp isPhrase).1) _
  constructor
  · have sameFlags : (phrases.map (ColorPhrase.concept (Text.lower text))).map
        flags = phrases.map ColorPhrase.flags := List.map_map
    rw [merges.flags, sameFlags]
    exact Text.areFirsts_distinct _
  · intro concept member
    have gathers := merges.gathers concept member
    rw [withFlags, List.filter_map] at gathers
    exact gathers.comprises

/-- Two colors of which either will do are one concept, behind the one of many
colors, whose phrase comes first in the table. -/
theorem extract_comprises_phrases_multicolor_red_green :
    let many : ColorPhrase := ⟨"multicolor", [], 90, false, true, false⟩
    let green := plain "green" 95 [.green]
    let red := plain "red" 95 [.red]
    let text : Text := "red or green multicolor"
    let both : ColorConcept :=
      ⟨[.red, .green], false, false, true, false, false, percent 95⟩
    let table := [many, green, red]
    table ⊆ ColorPhrase.table ∧
      extract table text = [ColorPhrase.concept text many, both] ∧
      Text.AreFirsts [(true, false), (false, false), (false, false)]
        [(true, false), (false, false)] ∧
      Comprises text [green, red] both := by
  intro many green red text both table
  have known : table ⊆ ColorPhrase.table := by
    decide +kernel
  have extracted :
      extract table text = [ColorPhrase.concept text many, both] := by
    decide +kernel
  have found : phrasesIn table text = table := by
    decide +kernel
  have isExtracted : both ∈ extract table text := by
    rw [extracted]
    exact List.mem_cons_of_mem _ (List.mem_singleton_self both)
  obtain ⟨firsts, comprises⟩ := extract_comprises_phrases known text
  rw [found, extracted] at firsts
  have ofBoth := comprises both isExtracted
  rw [found] at ofBoth
  exact ⟨known, extracted, firsts, ofBoth⟩

end ColorConcept

end CardQuery
