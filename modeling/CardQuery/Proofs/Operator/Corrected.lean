import CardQuery.Proofs.Operator.Correction

/-!
# Corrected values

A value that is refused is corrected by words of its grammar, and a correction
is only worth making if the grammar accepts it.  Names of colors, rarities and
formats are kept in small letters, and these grammars accept each of their
words.  A choice writes a value in small letters and looks for it among its
words as they are, while a correction is found by its small form and offered as
it is written.  It is therefore accepted exactly if its small form is a word of
the choice too.
-/

namespace CardQuery

namespace Grammar

/-- Behind the colon, a grammar accepts all its words but those of a choice that
are no words of it in small letters. -/
theorem check_word_errors_eq_nil_iff {grammar : Grammar} {word : Text}
    (member : word ∈ grammar.words) :
    (grammar.check word none).errors = [] ↔
      ∀ name values, grammar = .choice name values →
        Text.lower word ∈ values := by
  cases grammar with
  | color =>
      have accepted : ∀ word ∈ Vocabulary.colorNames,
          (checkColor word).errors = [] := by
        decide +kernel
      simp [check, accepted word member]
  | rarity =>
      have accepted : ∀ word ∈ Vocabulary.rarities,
          (checkRarity word).errors = [] := by
        decide +kernel
      simp [check, accepted word member]
  | format =>
      have accepted : ∀ word ∈ Vocabulary.formats,
          (checkFormat word none).errors = [] := by
        decide +kernel
      simp [check, accepted word member]
  | choice name values =>
      simp [check, checkChoice, refuseAllButEquality, checkWord]
  | _ => cases member

private theorem mem_checkWord_iff {words : List Text} {code : Code}
    {value message : Text} {issue : Issue} :
    issue ∈ checkWord words code value message ↔
      Text.lower value ∉ words ∧
        issue = ⟨code,
          message ++ didYouMean (Spelling.corrections (Text.lower value) words),
          Spelling.corrections (Text.lower value) words⟩ := by
  simp only [checkWord, List.mem_ite_nil_left, List.contains_iff_mem,
    List.mem_singleton]

/-- A choice offers what is near a value that it refuses. -/
theorem exists_offer_choice_iff {name value correction : Text}
    {values : List Text} {sign : Option Text} :
    (∃ issue ∈ ((choice name values).check value sign).errors ++
        ((choice name values).check value sign).warnings,
      correction ∈ issue.corrections) ↔
    Text.lower value ∉ values ∧
      correction ∈ Spelling.corrections (Text.lower value) values := by
  simp only [check, checkChoice, List.append_nil, List.mem_append]
  constructor
  · rintro ⟨issue, isSign | isWord, offered⟩
    · have none : CorrectsBy [] (refuseAllButEquality name sign) :=
        .refuseAllButEquality
      cases none issue isSign correction offered
    · obtain ⟨refused, rfl⟩ := mem_checkWord_iff.mp isWord
      exact ⟨refused, offered⟩
  · rintro ⟨refused, offered⟩
    exact ⟨_, Or.inr (mem_checkWord_iff.mpr ⟨refused, rfl⟩), offered⟩

/-- The grammar accepts, behind the colon, everything that it offers in place of
a value. -/
def AcceptsCorrections (grammar : Grammar) (value : Text)
    (sign : Option Text) : Prop :=
  ∀ issue ∈ (grammar.check value sign).errors ++
      (grammar.check value sign).warnings,
    ∀ correction ∈ issue.corrections,
      (grammar.check correction none).errors = []

/-- What is offered in place of a value is accepted, except by a choice that
offers a word without having its small form among its words. -/
theorem acceptsCorrections_iff (grammar : Grammar) (value : Text)
    (sign : Option Text) :
    grammar.AcceptsCorrections value sign ↔
      ∀ name values, grammar = .choice name values →
        Text.lower value ∉ values →
          ∀ correction ∈ Spelling.corrections (Text.lower value) values,
            Text.lower correction ∈ values := by
  constructor
  · rintro accepted name values rfl refused correction near
    obtain ⟨issue, member, offered⟩ :=
      exists_offer_choice_iff.mpr ⟨refused, near⟩
    have isWord := correctsBy_check _ _ _ issue member correction offered
    exact (check_word_errors_eq_nil_iff isWord).mp
      (accepted issue member correction offered) name values rfl
  · intro small issue member correction offered
    have isWord := correctsBy_check _ _ _ issue member correction offered
    apply (check_word_errors_eq_nil_iff isWord).mpr
    rintro name values rfl
    obtain ⟨refused, near⟩ :=
      exists_offer_choice_iff.mp ⟨issue, member, offered⟩
    exact small name values rfl refused correction near

/-- A word with a capital is offered for the word without its last letter, and
it is refused in its turn. -/
theorem not_acceptsCorrections_capital :
    ¬ (choice "frame" ["Old"]).AcceptsCorrections "Ol" none := by
  intro accepted
  have refused : Text.lower "Ol" ∉ ["Old".toList] := by
    decide +kernel
  have near :
      "Old".toList ∈ Spelling.corrections (Text.lower "Ol") ["Old"] := by
    decide +kernel
  obtain ⟨issue, member, offered⟩ :=
    exists_offer_choice_iff.mpr ⟨refused, near⟩
  have clean := accepted issue member _ offered
  revert clean
  decide +kernel

end Grammar

/-- In the standard registry, everything that is offered in place of a value is
accepted. -/
theorem Registry.standard_acceptsCorrections {operator : Operator}
    (member : operator ∈ Registry.standard.operators) (value : Text)
    (sign : Option Text) : operator.grammar.AcceptsCorrections value sign := by
  have accepted : ∀ operator ∈ Registry.standard.operators,
      ∀ word ∈ operator.grammar.words,
        (operator.grammar.check word none).errors = [] := by
    decide +kernel
  intro issue isIssue correction offered
  exact accepted operator member correction
    (Grammar.correctsBy_check _ _ _ issue isIssue correction offered)

end CardQuery
