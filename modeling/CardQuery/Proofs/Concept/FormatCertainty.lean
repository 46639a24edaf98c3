import CardQuery.Concept.Format
import CardQuery.Proofs.Number.Comparison
import CardQuery.Proofs.Text.Distinct
import Mathlib.Data.List.Forall2
import Mathlib.Order.Bounds.Basic

/-!
# The certainty of formats

A format is kept at the place where it was first found, whatever is found of it
later, and only the phrase that tells its confidence is exchanged for a more
certain one.  The names are therefore those that are found, each once and in the
order in which they first are.  A confidence is never below any that was found
under its name, and it is one of them.

Confidences are numbers, so of two of them one is not below the other.
-/

namespace CardQuery

namespace FormatPhrase

private theorem confidence_ne_undefined (phrase : FormatPhrase) :
    phrase.confidence ≠ .undefined := by
  intro isUndefined
  have le := phrase.inUnitInterval.1
  rw [isUndefined] at le
  cases le

/-- The confidence of the phrase is the greatest one that some phrases of its
name have. -/
def IsMostCertain (phrases : List FormatPhrase) (phrase : FormatPhrase) :
    Prop :=
  IsGreatest
    (confidence '' {other | other ∈ phrases ∧ other.name = phrase.name})
    phrase.confidence

/-- What is kept of some phrases: one for each name that they have, in the order
in which the names first occur, and each as certain as any of its name. -/
structure Keeps (phrases kept : List FormatPhrase) : Prop where
  names : kept.map (·.name) = Text.distinct (phrases.map (·.name))
  mostCertain : ∀ phrase ∈ kept, IsMostCertain phrases phrase

section

variable {phrases kept : List FormatPhrase} {phrase member : FormatPhrase}

private theorem map_name_raise (phrase : FormatPhrase)
    (kept : List FormatPhrase) :
    (raise phrase kept).map (·.name) =
      if phrase.name ∈ kept.map (·.name) then kept.map (·.name)
      else kept.map (·.name) ++ [phrase.name] := by
  induction kept with
  | nil => rfl
  | cons first rest ih =>
      rw [raise]
      by_cases same : first.name = phrase.name
      · have either : (if first.confidence < phrase.confidence then phrase
            else first).name = first.name := by
          split
          · exact same.symm
          · rfl
        rw [if_pos same, List.map_cons, either, List.map_cons,
          if_pos (same ▸ List.mem_cons_self)]
      · rw [if_neg same, List.map_cons, ih, List.map_cons]
        by_cases known : phrase.name ∈ rest.map (·.name)
        · rw [if_pos known, if_pos (List.mem_cons_of_mem _ known)]
        · rw [if_neg known, if_neg (List.not_mem_cons_of_ne_of_not_mem
            (Ne.symm same) known), List.cons_append]

private theorem cases_of_mem_raise (nodup : (kept.map (·.name)).Nodup)
    (isMember : member ∈ raise phrase kept) :
    (member ∈ kept ∧ member.name ≠ phrase.name) ∨
      (member ∈ kept ∧ member.name = phrase.name ∧
        ¬ member.confidence < phrase.confidence) ∨
      (member = phrase ∧ ∀ earlier ∈ kept, earlier.name = phrase.name →
        earlier.confidence < phrase.confidence) := by
  induction kept with
  | nil =>
      exact Or.inr (Or.inr
        ⟨List.mem_singleton.mp isMember, List.forall_mem_nil _⟩)
  | cons first rest ih =>
      rw [List.map_cons, List.nodup_cons] at nodup
      obtain ⟨isNew, nodup⟩ := nodup
      rw [raise] at isMember
      by_cases same : first.name = phrase.name
      · have others : ∀ other ∈ rest, other.name ≠ phrase.name :=
          fun other inRest sameName => isNew
            (List.mem_map.mpr ⟨other, inRest, sameName.trans same.symm⟩)
        rw [if_pos same, List.mem_cons] at isMember
        rcases isMember with rfl | inRest
        · by_cases less : first.confidence < phrase.confidence
          · rw [if_pos less]
            refine Or.inr (Or.inr ⟨rfl, List.forall_mem_cons.mpr
              ⟨fun _ => less, fun other inRest sameName => ?_⟩⟩)
            exact absurd sameName (others other inRest)
          · rw [if_neg less]
            exact Or.inr (Or.inl ⟨List.mem_cons_self, same, less⟩)
        · exact Or.inl ⟨List.mem_cons_of_mem _ inRest, others member inRest⟩
      · rw [if_neg same, List.mem_cons] at isMember
        rcases isMember with rfl | later
        · exact Or.inl ⟨List.mem_cons_self, same⟩
        · rcases ih nodup later with ⟨inRest, differs⟩ |
            ⟨inRest, sameName, notLess⟩ | ⟨isPhrase, less⟩
          · exact Or.inl ⟨List.mem_cons_of_mem _ inRest, differs⟩
          · exact Or.inr (Or.inl
              ⟨List.mem_cons_of_mem _ inRest, sameName, notLess⟩)
          · exact Or.inr (Or.inr ⟨isPhrase, List.forall_mem_cons.mpr
              ⟨fun sameName => absurd sameName same, less⟩⟩)

theorem IsMostCertain.concat (most : IsMostCertain phrases member)
    (le : phrase.name = member.name → phrase.confidence ≤ member.confidence) :
    IsMostCertain (phrases ++ [phrase]) member := by
  obtain ⟨⟨best, ⟨isBest, sameName⟩, sameConfidence⟩, greatest⟩ := most
  refine ⟨⟨best, ⟨List.mem_append_left _ isBest, sameName⟩, sameConfidence⟩, ?_⟩
  rintro _ ⟨other, ⟨isOther, ofName⟩, rfl⟩
  rcases List.mem_append.mp isOther with earlier | isLast
  · exact greatest ⟨other, ⟨earlier, ofName⟩, rfl⟩
  · rw [List.mem_singleton.mp isLast] at ofName ⊢
    exact le ofName

theorem isMostCertain_concat
    (le : ∀ other ∈ phrases, other.name = phrase.name →
      other.confidence ≤ phrase.confidence) :
    IsMostCertain (phrases ++ [phrase]) phrase := by
  refine ⟨⟨phrase, ⟨List.mem_append_right _ (List.mem_singleton_self _), rfl⟩,
    rfl⟩, ?_⟩
  rintro _ ⟨other, ⟨isOther, ofName⟩, rfl⟩
  rcases List.mem_append.mp isOther with earlier | isLast
  · exact le other earlier ofName
  · rw [List.mem_singleton.mp isLast]
    exact Binary64.le_refl phrase.confidence_ne_undefined

private theorem Keeps.raise (keeps : Keeps phrases kept)
    (phrase : FormatPhrase) :
    Keeps (phrases ++ [phrase]) (raise phrase kept) where
  names := by
    rw [map_name_raise, keeps.names, List.map_append, List.map_singleton,
      Text.distinct_concat]
  mostCertain := by
    have nodup : (kept.map (·.name)).Nodup :=
      keeps.names ▸ Text.nodup_distinct _
    intro member isMember
    rcases cases_of_mem_raise nodup isMember with ⟨isKept, differs⟩ |
      ⟨isKept, _, notLess⟩ | ⟨rfl, less⟩
    · exact (keeps.mostCertain member isKept).concat fun same =>
        absurd same.symm differs
    · exact (keeps.mostCertain member isKept).concat fun _ =>
        Binary64.le_of_not_lt member.confidence_ne_undefined
          phrase.confidence_ne_undefined notLess
    · apply isMostCertain_concat
      intro other isOther ofName
      have isName : other.name ∈ kept.map (·.name) := by
        rw [keeps.names, Text.mem_distinct_iff]
        exact List.mem_map_of_mem isOther
      obtain ⟨before, isKept, sameName⟩ := List.mem_map.mp isName
      have le : other.confidence ≤ before.confidence :=
        (keeps.mostCertain before isKept).2 ⟨other, ⟨isOther, sameName.symm⟩, rfl⟩
      have lt := less before isKept (sameName.trans ofName)
      exact Binary64.le_trans le (Binary64.lt_iff_le_not_ge.mp lt).1

private theorem keeps_mostCertain (phrases : List FormatPhrase) :
    Keeps phrases (mostCertain phrases) := by
  induction phrases using List.reverseRecOn with
  | nil => exact ⟨rfl, List.forall_mem_nil _⟩
  | append_singleton phrases last ih =>
      rw [mostCertain, List.foldl_append]
      exact ih.raise last

end

end FormatPhrase

/-- A text is read to one concept for each name that a phrase in it has, in the
order in which the table first has such a phrase, and the confidence of each
concept is the greatest one of the phrases of its name. -/
theorem FormatConcept.extract_keeps_most_certain (table : List FormatPhrase)
    (text : Text) :
    let found := table.filter (FormatPhrase.occursIn (Text.lower text))
    ∃ names, Text.AreFirsts (found.map (·.name)) names ∧
      List.Forall₂
        (fun name concept => concept.name = Text.trim name ∧
          IsGreatest (FormatPhrase.confidence ''
            {phrase | phrase ∈ found ∧ phrase.name = name}) concept.confidence)
        names (extract table text) := by
  intro found
  have keeps := FormatPhrase.keeps_mostCertain found
  refine ⟨(FormatPhrase.mostCertain found).map (·.name), ?_, ?_⟩
  · rw [keeps.names]
    exact Text.areFirsts_distinct _
  · rw [extract, List.forall₂_map_left_iff, List.forall₂_map_right_iff,
      List.forall₂_same]
    intro phrase isKept
    exact ⟨rfl, keeps.mostCertain phrase isKept⟩

/-- Later phrases raise what is known of two formats and leave their order. -/
example :
    FormatConcept.extract
      [.ofPercent "in modern" "modern" 88, .ofPercent "edh" "commander" 92,
        .ofPercent "edh legal" "commander" 98, .ofPercent "modern" "modern" 95,
        .ofPercent "pauper" "pauper" 95] "EDH legal in Modern" =
      [⟨"modern", percent 95⟩, ⟨"commander", percent 98⟩] := by
  decide +kernel

end CardQuery
