import CardQuery.Document.Concept
import CardQuery.Proofs.Concept.ColorMerging
import Mathlib.Data.List.Forall2

/-!
# Colors that are merged for good

Merging goes over the concepts once.  A concept that has been passed over is
compared with what was merged up to it, and not with what the merged concept
becomes later on.  The concepts fall into groups, one for each merged concept,
and no two merged concepts can be merged any more exactly if no color occurs in
two groups and no two groups are alike as a whole.  Exactly then merging once
more changes nothing.
-/

namespace CardQuery

namespace ColorConcept

/-- Some color is among those of both concepts. -/
def SharesColor (concept other : ColorConcept) : Prop :=
  ∃ color ∈ concept.colors, color ∈ other.colors

instance (concept other : ColorConcept) :
    Decidable (concept.SharesColor other) :=
  inferInstanceAs (Decidable (∃ color ∈ concept.colors, color ∈ other.colors))

/-- No concept can be merged with a later one. -/
def AreSettled (concepts : List ColorConcept) : Prop :=
  concepts.Pairwise fun earlier later => ¬ earlier.isMergeable later = true

instance (concepts : List ColorConcept) : Decidable (AreSettled concepts) :=
  inferInstanceAs (Decidable (List.Pairwise _ concepts))

/-- The concepts that are merged into the current one, one after another. -/
def taken (current : ColorConcept) : List ColorConcept → List ColorConcept
  | [] => []
  | next :: rest =>
      if current.isMergeable next then next :: taken (current.merge next) rest
      else taken current rest

/-- The concepts of a list, those together that are merged into one. -/
def groups : List ColorConcept → List (List ColorConcept)
  | [] => []
  | first :: rest => (first :: taken first rest) :: groups (absorb first rest).2
termination_by concepts => concepts.length
decreasing_by exact Nat.lt_succ_of_le (length_absorb_le first rest)

/-- Whether some concept of a group is multicolored, and whether some concept of
it is colorless. -/
def jointFlags (group : List ColorConcept) : Bool × Bool :=
  (group.any (·.multicolor), group.any (·.colorless))

/-- No color occurs in both groups, and they are not alike as a whole. -/
def AreApart (group others : List ColorConcept) : Prop :=
  (∀ member ∈ group, ∀ other ∈ others, ¬ member.SharesColor other) ∧
    jointFlags group ≠ jointFlags others

/-- The concept has the colors of a group and is what any of the group is. -/
structure Unites (group : List ColorConcept) (concept : ColorConcept) :
    Prop where
  mem_colors_iff : ∀ color,
    color ∈ concept.colors ↔ ∃ member ∈ group, color ∈ member.colors
  flags : concept.flags = jointFlags group

section Grouping

variable {current next concept other : ColorConcept}
  {group others concepts : List ColorConcept}

private theorem isMergeable_iff_shares_or_alike :
    concept.isMergeable other = true ↔
      concept.SharesColor other ∨ concept.flags = other.flags := by
  rw [isMergeable, Bool.or_eq_true, List.any_eq_true, Bool.and_eq_true,
    beq_iff_eq, beq_iff_eq]
  apply or_congr
  · exact exists_congr fun color =>
      and_congr_right fun _ => List.contains_iff_mem
  · rw [flags, flags, Prod.mk.injEq]

private theorem unites_single (concept : ColorConcept) : Unites [concept]
    concept := by
  constructor <;> simp [jointFlags, ColorConcept.flags]

private theorem Unites.merge (unites : Unites group current)
    (next : ColorConcept) :
    Unites (group ++ [next]) (current.merge next) where
  mem_colors_iff color := by
    change color ∈ Color.sorted (current.colors ++ next.colors) ↔ _
    rw [Color.mem_sorted, List.mem_append, unites.mem_colors_iff]
    simp [or_and_right, exists_or]
  flags := by
    obtain ⟨sameMulticolor, sameColorless⟩ := Prod.mk.inj unites.flags
    change (current.multicolor || next.multicolor,
      current.colorless || next.colorless) = _
    rw [sameMulticolor, sameColorless]
    simp [jointFlags]

private theorem Unites.absorb (unites : Unites group current) :
    Unites (group ++ taken current concepts) (absorb current concepts).1 := by
  induction concepts generalizing group current with
  | nil =>
      rw [taken, List.append_nil]
      exact unites
  | cons next rest ih =>
      rw [taken, ColorConcept.absorb]
      split
      · have merged := ih (unites.merge next)
        rw [List.append_assoc] at merged
        exact merged
      · exact ih unites

/-- Each merged concept unites its group. -/
theorem unites_groups (concepts : List ColorConcept) :
    List.Forall₂ Unites (groups concepts) (mergeAll concepts) := by
  induction concepts using mergeAll.induct with
  | case1 =>
      rw [groups, mergeAll]
      exact List.Forall₂.nil
  | case2 first rest ih =>
      rw [groups, mergeAll]
      exact List.Forall₂.cons (unites_single first).absorb ih

private theorem Unites.sharesColor_iff (unites : Unites group concept)
    (unitesOthers : Unites others other) :
    concept.SharesColor other ↔
      ∃ member ∈ group, ∃ further ∈ others, member.SharesColor further := by
  constructor
  · rintro ⟨color, isHere, isThere⟩
    obtain ⟨member, isMember, ofMember⟩ :=
      (unites.mem_colors_iff color).mp isHere
    obtain ⟨further, isFurther, ofFurther⟩ :=
      (unitesOthers.mem_colors_iff color).mp isThere
    exact ⟨member, isMember, further, isFurther, color, ofMember, ofFurther⟩
  · rintro ⟨member, isMember, further, isFurther, color, ofMember, ofFurther⟩
    exact ⟨color, (unites.mem_colors_iff color).mpr ⟨member, isMember, ofMember⟩,
      (unitesOthers.mem_colors_iff color).mpr ⟨further, isFurther, ofFurther⟩⟩

private theorem Unites.areApart_iff (unites : Unites group concept)
    (unitesOthers : Unites others other) :
    AreApart group others ↔ ¬ concept.isMergeable other = true := by
  rw [isMergeable_iff_shares_or_alike, not_or,
    unites.sharesColor_iff unitesOthers, AreApart, unites.flags,
    unitesOthers.flags]
  simp only [not_exists, not_and]

end Grouping

/-- A relation holds between all elements of one list if another one holds
between all elements of a second list that correspond to them. -/
theorem pairwise_iff_of_forall₂ {α β : Type} {corresponds : α → β → Prop}
    {relation : α → α → Prop} {image : β → β → Prop} {items : List α}
    {images : List β} (related : List.Forall₂ corresponds items images)
    (agrees : ∀ first second firstImage secondImage,
      corresponds first firstImage → corresponds second secondImage →
        (relation first second ↔ image firstImage secondImage)) :
    items.Pairwise relation ↔ images.Pairwise image := by
  obtain ⟨sameLength, related⟩ := List.forall₂_iff_get.mp related
  rw [List.pairwise_iff_getElem, List.pairwise_iff_getElem]
  constructor
  · intro holds first second isFirst isSecond before
    exact (agrees _ _ _ _ (related first (sameLength ▸ isFirst) isFirst)
      (related second (sameLength ▸ isSecond) isSecond)).mp
        (holds first second _ _ before)
  · intro holds first second isFirst isSecond before
    exact (agrees _ _ _ _ (related first isFirst (sameLength ▸ isFirst))
      (related second isSecond (sameLength ▸ isSecond))).mpr
        (holds first second _ _ before)

section Settled

variable {current : ColorConcept} {concepts : List ColorConcept}

private theorem absorb_of_unmergeable
    (unmergeable : ∀ concept ∈ concepts, ¬ current.isMergeable concept = true) :
    absorb current concepts = (current, concepts) := by
  induction concepts with
  | nil => rfl
  | cons next rest ih =>
      obtain ⟨ofNext, ofRest⟩ := List.forall_mem_cons.mp unmergeable
      rw [absorb, if_neg ofNext, ih ofRest]

private theorem length_absorb_lt {concept : ColorConcept}
    (member : concept ∈ concepts)
    (mergeable : current.isMergeable concept = true) :
    (absorb current concepts).2.length < concepts.length := by
  induction concepts with
  | nil => cases member
  | cons next rest ih =>
      rw [absorb]
      split
      · exact Nat.lt_succ_of_le (length_absorb_le _ rest)
      next unmergeable =>
        rcases List.mem_cons.mp member with rfl | later
        · exact absurd mergeable unmergeable
        · exact Nat.succ_lt_succ (ih later)

private theorem length_mergeAll_le (concepts : List ColorConcept) :
    (mergeAll concepts).length ≤ concepts.length := by
  induction concepts using mergeAll.induct with
  | case1 => simp [mergeAll]
  | case2 first rest ih =>
      rw [mergeAll]
      exact Nat.succ_le_succ (Nat.le_trans ih (length_absorb_le first rest))

/-- Merging changes nothing exactly if there is nothing to merge. -/
theorem mergeAll_eq_self_iff (concepts : List ColorConcept) :
    mergeAll concepts = concepts ↔ AreSettled concepts := by
  induction concepts with
  | nil =>
      rw [mergeAll]
      exact iff_of_true rfl List.Pairwise.nil
  | cons first rest ih =>
      rw [mergeAll, AreSettled, List.pairwise_cons]
      constructor
      · intro same
        obtain ⟨_, ofRest⟩ := List.cons.inj same
        have unmergeable : ∀ concept ∈ rest,
            ¬ first.isMergeable concept = true := by
          intro concept member mergeable
          have shorter := length_absorb_lt member mergeable
          have merged := length_mergeAll_le (absorb first rest).2
          rw [ofRest] at merged
          exact absurd shorter (Nat.not_lt_of_le merged)
        rw [absorb_of_unmergeable unmergeable] at ofRest
        exact ⟨unmergeable, ih.mp ofRest⟩
      · rintro ⟨unmergeable, settled⟩
        rw [absorb_of_unmergeable unmergeable]
        exact congrArg (first :: ·) (ih.mpr settled)

end Settled

/-- Concepts that have a color in common are alike in being multicolored and
colorless. -/
def AreConsistent (concepts : List ColorConcept) : Prop :=
  ∀ concept ∈ concepts, ∀ other ∈ concepts,
    concept.SharesColor other → concept.flags = other.flags

instance (concepts : List ColorConcept) : Decidable (AreConsistent concepts) :=
  inferInstanceAs (Decidable (∀ concept ∈ concepts, ∀ other ∈ concepts,
    concept.SharesColor other → concept.flags = other.flags))

section Consistent

variable {current : ColorConcept} {group concepts fewer : List ColorConcept}

private theorem taken_append_left_perm (current : ColorConcept)
    (concepts : List ColorConcept) :
    (taken current concepts ++ (absorb current concepts).2).Perm concepts := by
  induction concepts generalizing current with
  | nil => exact List.Perm.refl _
  | cons next rest ih =>
      rw [taken, absorb]
      split
      · exact (ih (current.merge next)).cons next
      · exact List.perm_middle.trans ((ih current).cons next)

/-- Each concept is in one group. -/
theorem flatten_groups_perm (concepts : List ColorConcept) :
    (groups concepts).flatten.Perm concepts := by
  induction concepts using mergeAll.induct with
  | case1 =>
      rw [groups]
      exact List.Perm.refl _
  | case2 first rest ih =>
      rw [groups, List.flatten_cons, List.cons_append]
      exact ((ih.append_left _).trans (taken_append_left_perm first rest)).cons
        first

private theorem AreConsistent.of_subset (consistent : AreConsistent concepts)
    (subset : fewer ⊆ concepts) : AreConsistent fewer := by
  intro concept member other isOther
  exact consistent concept (subset member) other (subset isOther)

private theorem left_of_consistent (unites : Unites group current)
    (alike : ∀ member ∈ group, member.flags = current.flags)
    (consistent : AreConsistent (group ++ concepts)) :
    (∀ member ∈ taken current concepts, member.flags = current.flags) ∧
      ∀ member ∈ (absorb current concepts).2,
        member.flags ≠ current.flags := by
  induction concepts generalizing group current with
  | nil => exact ⟨List.forall_mem_nil _, List.forall_mem_nil _⟩
  | cons next rest ih =>
      have mergeable_iff : current.isMergeable next = true ↔
          next.flags = current.flags := by
        rw [isMergeable_iff_shares_or_alike]
        constructor
        · rintro (⟨color, isHere, isThere⟩ | same)
          · obtain ⟨member, isMember, ofMember⟩ :=
              (unites.mem_colors_iff color).mp isHere
            have same := consistent member (List.mem_append_left _ isMember)
              next (List.mem_append_right _ List.mem_cons_self)
              ⟨color, ofMember, isThere⟩
            rw [← same, alike member isMember]
          · exact same.symm
        · intro same
          exact Or.inr same.symm
      rw [taken, absorb]
      by_cases same : next.flags = current.flags
      · rw [if_pos (mergeable_iff.mpr same), if_pos (mergeable_iff.mpr same)]
        rw [List.append_cons] at consistent
        have further := ih (unites.merge next)
          (by
            rw [flags_merge same]
            exact List.forall_mem_append.mpr
              ⟨alike, List.forall_mem_singleton.mpr same⟩)
          consistent
        rw [flags_merge same] at further
        exact ⟨List.forall_mem_cons.mpr ⟨same, further.1⟩, further.2⟩
      · rw [if_neg (mt mergeable_iff.mp same),
          if_neg (mt mergeable_iff.mp same)]
        have further := ih unites alike (consistent.of_subset
          ((List.sublist_cons_self next rest).append_left group).subset)
        exact ⟨further.1, List.forall_mem_cons.mpr ⟨same, further.2⟩⟩

private theorem jointFlags_eq {first : ColorConcept} (member : first ∈ group)
    (alike : ∀ other ∈ group, other.flags = first.flags) :
    jointFlags group = first.flags := by
  have same : ∀ other ∈ group, other.multicolor = first.multicolor ∧
      other.colorless = first.colorless :=
    fun other isOther => Prod.mk.inj (alike other isOther)
  refine Prod.ext ?_ ?_
  · change group.any (·.multicolor) = first.multicolor
    rw [Bool.eq_iff_iff, List.any_eq_true]
    exact ⟨fun ⟨other, isOther, holds⟩ => (same other isOther).1 ▸ holds,
      fun holds => ⟨first, member, holds⟩⟩
  · change group.any (·.colorless) = first.colorless
    rw [Bool.eq_iff_iff, List.any_eq_true]
    exact ⟨fun ⟨other, isOther, holds⟩ => (same other isOther).2 ▸ holds,
      fun holds => ⟨first, member, holds⟩⟩

private theorem AreConsistent.groups_apart
    (consistent : AreConsistent concepts) :
    (groups concepts).Pairwise AreApart ∧
      ∀ group ∈ groups concepts, ∃ member ∈ group,
        ∀ other ∈ group, other.flags = member.flags := by
  induction concepts using mergeAll.induct with
  | case1 =>
      rw [groups]
      exact ⟨List.Pairwise.nil, List.forall_mem_nil _⟩
  | case2 first rest ih =>
      obtain ⟨ofTaken, ofLeft⟩ := left_of_consistent (unites_single first)
        (List.forall_mem_singleton.mpr rfl) consistent
      have alike : ∀ member ∈ first :: taken first rest,
          member.flags = first.flags :=
        List.forall_mem_cons.mpr ⟨rfl, ofTaken⟩
      have divided := taken_append_left_perm first rest
      have leftSubset : (absorb first rest).2 ⊆ first :: rest := fun _ member =>
        List.mem_cons_of_mem first
          (divided.subset (List.mem_append_right _ member))
      have takenSubset : first :: taken first rest ⊆ first :: rest :=
        List.cons_subset_cons first fun _ member =>
          divided.subset (List.mem_append_left _ member)
      obtain ⟨apart, ofGroups⟩ := ih (consistent.of_subset leftSubset)
      rw [groups]
      refine ⟨List.pairwise_cons.mpr ⟨?_, apart⟩,
        List.forall_mem_cons.mpr ⟨⟨first, List.mem_cons_self, alike⟩, ofGroups⟩⟩
      intro others isGroup
      have isLeft : ∀ other ∈ others, other ∈ (absorb first rest).2 :=
        fun other isOther => (flatten_groups_perm _).subset
          (List.mem_flatten.mpr ⟨others, isGroup, isOther⟩)
      constructor
      · intro member isMember other isOther shares
        have same := consistent member (takenSubset isMember) other
          (leftSubset (isLeft other isOther)) shares
        rw [alike member isMember] at same
        exact ofLeft other (isLeft other isOther) same.symm
      · obtain ⟨other, isOther, othersAlike⟩ := ofGroups others isGroup
        rw [jointFlags_eq List.mem_cons_self alike,
          jointFlags_eq isOther othersAlike]
        exact (ofLeft other (isLeft other isOther)).symm

end Consistent

/-- Every concept is in one group, and each merged concept unites its group.
That no two merged concepts can be merged any more, and that merging once more
changes nothing, holds exactly if the groups are apart.  They are if only
concepts that are alike share a color. -/
theorem mergeAll_areSettled_iff (concepts : List ColorConcept) :
    (groups concepts).flatten.Perm concepts ∧
      List.Forall₂ Unites (groups concepts) (mergeAll concepts) ∧
      (AreSettled (mergeAll concepts) ↔
        (groups concepts).Pairwise AreApart) ∧
      (mergeAll (mergeAll concepts) = mergeAll concepts ↔
        (groups concepts).Pairwise AreApart) ∧
      (AreConsistent concepts → (groups concepts).Pairwise AreApart) := by
  have unites := unites_groups concepts
  have settled_iff : AreSettled (mergeAll concepts) ↔
      (groups concepts).Pairwise AreApart :=
    (pairwise_iff_of_forall₂ unites fun _ _ _ _ => Unites.areApart_iff).symm
  refine ⟨flatten_groups_perm concepts, unites, settled_iff, ?_, ?_⟩
  · rw [mergeAll_eq_self_iff]
    exact settled_iff
  · exact fun consistent => consistent.groups_apart.1

/-- What is multicolored is merged around what is colorless, and nothing is left
to merge. -/
theorem mergeAll_areSettled_iff_colorless_between :
    let red : ColorConcept :=
      ⟨[.red], false, false, false, true, false, percent 90⟩
    let colorless : ColorConcept :=
      { red with colors := [], multicolor := false, colorless := true }
    let redAndGreen : ColorConcept := { red with colors := [.red, .green] }
    let concepts := [red, colorless, redAndGreen]
    AreConsistent concepts ∧
      mergeAll concepts = [redAndGreen, colorless] ∧
      AreSettled (mergeAll concepts) ∧
      mergeAll (mergeAll concepts) = mergeAll concepts := by
  intro red colorless redAndGreen concepts
  have consistent : AreConsistent concepts := by
    decide
  have merged : mergeAll concepts = [redAndGreen, colorless] := by
    decide +kernel
  obtain ⟨_, _, settled_iff, fixed_iff, apart⟩ :=
    mergeAll_areSettled_iff concepts
  exact ⟨consistent, merged, settled_iff.mpr (apart consistent),
    fixed_iff.mpr (apart consistent)⟩

/-- What is green and multicolored is passed over while only red has been
merged.  It is not merged with red and green afterwards, although they share a
color, and only merging once more does it. -/
theorem not_mergeAll_areSettled_passed_over :
    let red : ColorConcept :=
      ⟨[.red], false, false, false, false, false, percent 90⟩
    let greenAmongMany : ColorConcept :=
      { red with colors := [.green], multicolor := true }
    let redAndGreen : ColorConcept := { red with colors := [.red, .green] }
    let concepts := [red, greenAmongMany, redAndGreen]
    (∀ concept ∈ concepts, read concept.document = .ok concept) ∧
      mergeAll concepts = [redAndGreen, greenAmongMany] ∧
      ¬ AreSettled (mergeAll concepts) ∧
      mergeAll (mergeAll concepts) =
        [{ redAndGreen with multicolor := true }] := by
  decide +kernel

end ColorConcept

end CardQuery
