import CardQuery.Operator.Standard
import CardQuery.Proofs.Search.Written

/-!
# Where corrections come from

The spellings that are offered for a word are among the candidates that it was
compared with: the names of the registry for the name of an operator, and the
words of a grammar for a value.  The names and the words of the standard
operators are made of letters, digits and underscores, so that they can stand
where a name can and need no quotes as a value.
-/

namespace CardQuery

namespace Spelling

private theorem mem_of_mem_matchesFrom {measure : Text → Text → Int → Nat}
    {word : Text} {maxDistance : Int} {place : Nat}
    {seen candidates : List Text} {found : Match}
    (member : found ∈
      matchesFrom measure word maxDistance place seen candidates) :
    found.spelling ∈ candidates := by
  induction candidates generalizing place seen with
  | nil => cases member
  | cons candidate rest ih =>
      dsimp only [matchesFrom] at member
      split at member
      · exact List.mem_cons_of_mem _ (ih member)
      · split at member
        · exact List.mem_cons_of_mem _ (ih member)
        · split at member
          · rcases List.mem_cons.mp member with rfl | later
            · exact List.mem_cons_self
            · exact List.mem_cons_of_mem _ (ih later)
          · exact List.mem_cons_of_mem _ (ih member)

theorem mem_of_mem_closest {word candidate : Text} {candidates : List Text}
    {maxDistance limit : Int}
    (member : candidate ∈ closest word candidates maxDistance limit) :
    candidate ∈ candidates := by
  have ranked := ((List.drop_sublist _ _).trans (List.take_sublist _ _)).mem
    member
  obtain ⟨found, isFound, rfl⟩ := List.mem_map.mp ranked
  exact mem_of_mem_matchesFrom (List.mem_mergeSort.mp isFound)

end Spelling

namespace Registry

theorem contains_of_mem_names {registry : Registry} {name : Text}
    (member : name ∈ registry.names) : registry.contains name = true := by
  obtain ⟨operator, isOperator, isName⟩ := List.mem_flatMap.mp member
  rw [contains, get?, List.find?_isSome]
  refine ⟨operator, isOperator, ?_⟩
  rw [Operator.isNamed, List.any_eq_true]
  exact ⟨name, isName, beq_self_eq_true _⟩

end Registry

namespace Grammar

/-- The words that corrections of a value are chosen from. -/
def words : Grammar → List Text
  | color => Vocabulary.colorNames
  | rarity => Vocabulary.rarities
  | format => Vocabulary.formats
  | choice _ values => values
  | _ => []

/-- All corrections of the issues are among the words. -/
def CorrectsBy (words : List Text) (issues : List Issue) : Prop :=
  ∀ issue ∈ issues, ∀ correction ∈ issue.corrections, correction ∈ words

namespace CorrectsBy

variable {words : List Text} {issue : Issue} {issues others : List Issue}

theorem nil : CorrectsBy words [] := by
  simp [CorrectsBy]

private theorem single
    (correct : ∀ correction ∈ issue.corrections, correction ∈ words) :
    CorrectsBy words [issue] := by
  simpa [CorrectsBy] using correct

theorem append (first : CorrectsBy words issues)
    (second : CorrectsBy words others) :
    CorrectsBy words (issues ++ others) := by
  intro issue member
  exact (List.mem_append.mp member).elim (first issue) (second issue)

theorem errors {check : ValueCheck}
    (all : CorrectsBy words (check.errors ++ check.warnings)) :
    CorrectsBy words check.errors :=
  fun issue member => all issue (List.mem_append_left _ member)

private theorem clean :
    CorrectsBy words (ValueCheck.clean.errors ++ ValueCheck.clean.warnings) :=
  nil

private theorem refused {code : Code} {message word : Text} :
    CorrectsBy words
      ((ValueCheck.refused code message
          (Spelling.corrections word words)).errors ++
        (ValueCheck.refused code message
          (Spelling.corrections word words)).warnings) :=
  single fun _ => Spelling.mem_of_mem_closest

private theorem refusedOutright {code : Code} {message : Text} :
    CorrectsBy words ((ValueCheck.refused code message []).errors ++
      (ValueCheck.refused code message []).warnings) :=
  single (by simp)

private theorem doubtful {code : Code} {message : Text} :
    CorrectsBy words ((ValueCheck.doubtful code message).errors ++
      (ValueCheck.doubtful code message).warnings) :=
  single (by simp)

private theorem require {holds : Bool} {code : Code} {message : Text} :
    CorrectsBy words ((ValueCheck.require holds code message).errors ++
      (ValueCheck.require holds code message).warnings) := by
  unfold ValueCheck.require
  split
  · exact clean
  · exact refusedOutright

private theorem refuseInequality {kind : Text} {sign : Option Text} :
    CorrectsBy words (refuseInequality kind sign) := by
  unfold Grammar.refuseInequality
  split
  · exact single (by simp [comparisonNotAllowed])
  · exact nil

theorem refuseAllButEquality {kind : Text} {sign : Option Text} :
    CorrectsBy words (refuseAllButEquality kind sign) := by
  unfold Grammar.refuseAllButEquality
  split
  · exact nil
  · split
    · exact nil
    · exact single (by simp [comparisonNotAllowed])

private theorem checkWord {code : Code} {value message : Text} :
    CorrectsBy words (checkWord words code value message) := by
  unfold Grammar.checkWord
  dsimp only
  split
  · exact nil
  · exact single fun _ => Spelling.mem_of_mem_closest

end CorrectsBy

/-- A value is corrected by words of its grammar. -/
theorem correctsBy_check (grammar : Grammar) (value : Text)
    (sign : Option Text) :
    CorrectsBy grammar.words ((grammar.check value sign).errors ++
      (grammar.check value sign).warnings) := by
  cases grammar with
  | text =>
      refine .append .refuseInequality ?_
      simp only [check, checkText]
      split
      · exact .single (by simp)
      · exact .nil
  | color =>
      simp only [check, checkColor]
      split
      · exact .clean
      · split
        · exact .refused
        · split
          · exact .clean
          · exact .doubtful
  | manaCost | powerToughness | loyalty | collectorNumber => exact .require
  | number operator =>
      simp only [check, checkNumber]
      split
      · exact .clean
      · split
        · exact .refusedOutright
        · split
          · exact .clean
          · split
            · exact .clean
            · exact .doubtful
  | setCode => exact .append (.append .refuseInequality (.errors .require)) .nil
  | rarity =>
      simp only [check, checkRarity]
      split
      · exact .clean
      · exact .refused
  | format | choice =>
      exact .append (.append .refuseAllButEquality .checkWord) .nil
  | year =>
      simp only [check, checkYear]
      split
      · exact .refusedOutright
      · split
        · exact .clean
        · exact .doubtful

end Grammar

theorem Registry.standard_names_isName :
    ∀ name ∈ Registry.standard.names, Head.isName name = true := by
  decide

theorem Registry.standard_words_isName :
    ∀ operator ∈ Registry.standard.operators,
      ∀ word ∈ operator.grammar.words, Head.isName word = true := by
  decide

end CardQuery
