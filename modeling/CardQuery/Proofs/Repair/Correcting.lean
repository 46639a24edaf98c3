import CardQuery.Proofs.Repair.Rewording

/-!
# Correcting the value of a condition

The fix puts a word of the registry in the place of the value, behind the head
that it reads again at the place of the finding.  Such a word needs no quotes,
so the value that it gives ends where its run ends.

A bare value has ended in front of something that ends a run, and the word ends
there as well.  A phrase ends by its quote, and a run may stand directly behind
it: the word and this run are then read as one value.
-/

namespace CardQuery

private theorem Edit.quoteValue_of_isName {word : Text}
    (isWord : Head.isName word = true) : quoteValue word = word := by
  rw [quoteValue, if_neg]
  intro quoted
  obtain ⟨character, member, needs⟩ := List.any_eq_true.mp quoted
  have part := Head.isNamePart_of_mem isWord member
  have goesOn := Head.endsRun_of_isNamePart part
  simp only [Lexeme.endsRun, Bool.or_eq_false_iff, beq_eq_false_iff_ne] at goesOn
  have apostrophe : character ≠ '\'' := by
    rintro rfl
    exact absurd part (by decide)
  simp_all

/-- The value between the head and what is behind the finding gives way to the
first correction. -/
theorem Fix.Setting.AtHead.replaceValue {setting : Setting} {head : Head}
    {front written rest : Text} {fix : Suggestion}
    (atHead : setting.AtHead front head (written ++ rest))
    (isStop : setting.span.stop = (front ++ head.text ++ written).length)
    (fixed : replaceValue setting = some fix) :
    ∃ correction, setting.corrections.head? = some correction ∧
      fix.query = front ++
        (head.text ++ (Edit.quoteValue correction ++ rest)) := by
  have isQuery : setting.query =
      (front ++ head.text) ++ (written ++ rest) := by
    rw [atHead.isQuery, List.append_assoc]
  have start : setting.valueStart head = (front ++ head.text).length := by
    rw [Setting.valueStart, atHead.headStart, List.length_append]
  have stop : setting.offset setting.span.stop =
      setting.valueStart head + written.length := by
    rw [Setting.offset, isStop, Text.offset_natCast, start, isQuery]
    simp
    omega
  cases first : setting.corrections.head? with
  | none => simp [Fix.replaceValue, first] at fixed
  | some correction =>
      simp only [Fix.replaceValue, first, atHead.head?, Option.bind_eq_bind,
        Option.bind_some, Option.pure_def, Option.some.injEq] at fixed
      refine ⟨correction, rfl, ?_⟩
      rw [← fixed, isQuery]
      dsimp only [likely]
      rw [Edit.replaceSpan_middle start stop, List.append_assoc]

private theorem Fix.fix?_of_blamesValue {code : Code}
    (about : code.blamesValue = true)
    (setting : Setting) : fix? code setting = .ok (replaceValue setting) := by
  cases code <;> simp_all [fix?, Code.blamesValue]

namespace Validator

/-- What is suggested for a value puts the first correction in its place.  The
condition gets this value and nothing else changes exactly if no run stands
directly behind the condition, as none does behind a bare value. -/
theorem correcting_changes_flagged_iff {settings : Settings} {query : Text}
    {finding : Finding} {fix : Suggestion}
    (fixes : (make Registry.standard settings).Fixes query finding fix)
    (about : finding.code.blamesValue = true) :
    ∃ before token after asked correction,
      Token.meaningful (Token.read query) = before ++ token :: after ∧
      finding.span = some token.span ∧
      token.form = .condition asked ∧
      finding.corrections.head? = some correction ∧
      (asked.quoted = false → Lexeme.Stops (query.drop token.stop)) ∧
      ((Token.meaningful (Token.read fix.query)).map Token.toLexeme =
          before.map Token.toLexeme ++
            ⟨.condition { asked with value := correction, quoted := false },
              asked.toHead.text ++ correction⟩ :: after.map Token.toLexeme ↔
        Lexeme.Stops (query.drop token.stop)) := by
  obtain ⟨token, isToken, asked, blames⟩ := exists_blamed fixes.found
    (Or.inr ((Code.blamesValue_iff finding.code).mp about))
  obtain ⟨before, after, front, written, back, split, isBefore, isAfter,
    place⟩ := Token.exists_isWritten isToken blames.isCondition
  obtain ⟨openings, isFix⟩ := fixes.exists_openings blames.span
  rw [Fix.fix?_of_blamesValue about] at isFix
  obtain ⟨correction, first, isQuery⟩ :=
    (place.atHead finding.corrections openings).replaceValue
      (congrArg Nat.cast place.stop_eq) (Except.ok.inj isFix)
  have isWord : Head.isName correction = true := by
    obtain ⟨operator, isOperator, isWord⟩ :=
      blames.words about correction (List.mem_of_mem_head? first)
    rw [make_registry (by decide)] at isOperator
    exact Registry.standard_words_isName operator isOperator correction isWord
  rw [Edit.quoteValue_of_isName isWord] at isQuery
  refine ⟨before, token, after, asked, correction, split, blames.span,
    blames.isCondition, first, ?_, ?_⟩
  · rw [place.drop_stop]
    exact place.writes.stops_of_bare
  · rw [Token.map_toLexeme_meaningful_read, isQuery, isBefore, isAfter,
      place.drop_stop]
    exact place.counted_withWord_eq_iff isWord

/-- A bracket directly behind a phrase leaves room for the word. -/
theorem correcting_changes_flagged_iff_before_bracket :
    ∃ finding fix, standard.Fixes "c:\"rde\"(t:elf)" finding fix ∧
      finding.code.blamesValue = true ∧ fix.query = "c:red(t:elf)" ∧
      ∃ before token after asked correction,
        Token.meaningful (Token.read "c:\"rde\"(t:elf)") =
          before ++ token :: after ∧
        finding.span = some token.span ∧
        token.form = .condition asked ∧
        finding.corrections.head? = some correction ∧
        (Token.meaningful (Token.read fix.query)).map Token.toLexeme =
          before.map Token.toLexeme ++
            ⟨.condition { asked with value := correction, quoted := false },
              asked.toHead.text ++ correction⟩ :: after.map Token.toLexeme := by
  have fixes : standard.Fixes "c:\"rde\"(t:elf)"
      ⟨.invalidColor,
        "Invalid color value 'rde'. Use color letters (w, u, b, r, g), c, m, " ++
          "or a color name. Did you mean: red?",
        some ⟨0, 7⟩, ["red"]⟩
      (Fix.likely "Replace '\"rde\"' with 'red'" "c:red(t:elf)") :=
    ⟨by decide +kernel, by decide +kernel⟩
  obtain ⟨before, token, after, asked, correction, split, span, isCondition,
    first, _, changes⟩ := correcting_changes_flagged_iff fixes (by decide)
  have stop : token.stop = 7 := by
    have isSpan : (⟨0, 7⟩ : Span) = token.span := Option.some.inj span
    simp only [Token.span, Span.mk.injEq] at isSpan
    simp only [Token.stop]
    omega
  refine ⟨_, _, fixes, rfl, rfl, before, token, after, asked, correction, split,
    span, isCondition, first, changes.mpr ?_⟩
  rw [stop]
  decide +kernel

/-- The corrected value and the condition behind the phrase are read as one
value. -/
theorem not_correcting_changes_flagged_touching_condition :
    ∃ finding fix, standard.Fixes "r:\"rar\"t:elf" finding fix ∧
      finding.code.blamesValue = true ∧ fix.query = "r:raret:elf" ∧
      ¬ ∃ before token after asked correction,
        Token.meaningful (Token.read "r:\"rar\"t:elf") =
          before ++ token :: after ∧
        finding.span = some token.span ∧
        token.form = .condition asked ∧
        finding.corrections.head? = some correction ∧
        (Token.meaningful (Token.read fix.query)).map Token.toLexeme =
          before.map Token.toLexeme ++
            ⟨.condition { asked with value := correction, quoted := false },
              asked.toHead.text ++ correction⟩ :: after.map Token.toLexeme := by
  refine ⟨⟨.invalidRarity,
      "Invalid rarity 'rar'. Valid rarities: common, uncommon, rare, mythic, " ++
        "special, bonus",
      some ⟨0, 7⟩, ["rare"]⟩,
    Fix.likely "Replace '\"rar\"' with 'rare'" "r:raret:elf",
    ⟨by decide +kernel, by decide +kernel⟩, rfl, rfl, ?_⟩
  rintro ⟨before, token, after, asked, correction, split, _, _, _, changed⟩
  have two : (Token.meaningful (Token.read "r:\"rar\"t:elf")).length = 2 := by
    decide +kernel
  have one : ((Token.meaningful (Token.read "r:raret:elf")).map
      Token.toLexeme).length = 1 := by
    decide +kernel
  have same := congrArg List.length changed
  rw [split] at two
  simp only [List.length_append, List.length_cons, List.length_map] at two same
  rw [List.length_map] at one
  have length := same.symm.trans one
  omega

end Validator

end CardQuery
