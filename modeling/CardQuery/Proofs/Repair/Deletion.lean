import CardQuery.Proofs.Repair.Offer
import CardQuery.Proofs.Repair.Removal
import CardQuery.Proofs.Search.Touching

/-!
# Removing tokens from a query

Removing the span of a row of tokens removes these tokens and no other one that
counts.  What is left of the row is put together without a blank only where
nothing or a bracket stands, so nothing is read across the gap, and behind
tokens that something follows no quote is open.

The fixes for what is too much in a query remove the span of such a row each.
The span is taken from the finding, except for the second of two connectives:
its text is the last word of what the finding marks, since only blanks can stand
between connectives and at least one does.
-/

namespace CardQuery

namespace Edit

private theorem counted_removeSpan {text : Text}
    {before run after : List Lexeme}
    (scanned : Lexeme.scan text = before ++ (run ++ after))
    (nonempty : run ≠ []) :
    Lexeme.counted (removeSpan text (Lexeme.joined before).length
        (Lexeme.joined (before ++ run)).length) =
      (before ++ after).filter (·.form.isMeaningful) := by
  have whole : text = Lexeme.joined (before ++ run) ++ Lexeme.joined after := by
    rw [← Lexeme.joined_append, List.append_assoc, ← scanned,
      Lexeme.joined_scan]
  obtain ⟨balanced, isBefore⟩ :=
    Lexeme.counted_joined_of_followed scanned (by simp [nonempty])
  have isAfter : Lexeme.counted (Lexeme.joined after) =
      after.filter (·.form.isMeaningful) := by
    rw [← List.append_assoc] at scanned
    rw [Lexeme.counted, Lexeme.scan_eq_append scanned]
  have taken : text.take (Lexeme.joined before).length =
      Lexeme.joined before := by
    rw [whole, Lexeme.joined_append, List.append_assoc, List.take_left]
  have dropped : text.drop (Lexeme.joined (before ++ run)).length =
      Lexeme.joined after := by
    rw [whole, List.drop_left]
  obtain ⟨stripped, left⟩ := Lexeme.counted_stripEnd balanced
  have right := Lexeme.counted_stripStart (Lexeme.joined after)
  have rejoined := removeSpan_cases text (Lexeme.joined before).length
    (Lexeme.joined (before ++ run)).length
  rw [taken, dropped] at rejoined
  rw [List.filter_append, ← isBefore, ← isAfter, ← left, ← right]
  rcases rejoined with blank | ⟨touching, apart⟩
  · rw [blank, Lexeme.counted_append stripped (Lexeme.separates_blank _),
      Lexeme.counted_blank]
  · rw [touching, Lexeme.counted_append_of_apart stripped apart]

end Edit

namespace Token

private theorem exists_lexemes_of_read_eq {query : Text}
    {before run after : List Token}
    (split : read query = before ++ (run ++ after))
    (inside : ∀ token ∈ run, token.form ≠ .finish) (nonempty : run ≠ []) :
    ∃ front middle back,
      Lexeme.scan query = front ++ (middle ++ back) ∧
      before = Lexeme.placed 0 front ∧
      run = Lexeme.placed (Lexeme.joined front).length middle ∧
      (meaningful after).map toLexeme =
        back.filter (·.form.isMeaningful) := by
  rw [read_eq] at split
  rcases List.eq_nil_or_concat after with rfl | ⟨later, last, rfl⟩
  · have finish := congrArg List.getLast? split
    rw [List.getLast?_concat, List.append_nil,
      List.getLast?_append_of_ne_nil _ nonempty] at finish
    exact absurd rfl (inside _ (List.mem_of_getLast? finish.symm))
  · rw [List.concat_eq_append, ← List.append_assoc, ← List.append_assoc,
      List.append_assoc before] at split
    obtain ⟨isPieces, isLast⟩ := List.append_inj' split rfl
    obtain ⟨front, rest, scanned, rfl, isRest⟩ :=
      Lexeme.placed_eq_append isPieces
    obtain ⟨middle, back, rfl, rfl, rfl⟩ := Lexeme.placed_eq_append isRest.symm
    refine ⟨front, middle, back, scanned, rfl, by rw [Nat.zero_add], ?_⟩
    rw [map_toLexeme_meaningful, List.concat_eq_append, List.map_append,
      Lexeme.map_toLexeme_placed, List.filter_append, ← isLast]
    simp [Form.isMeaningful]

/-- Removing the span of a row of tokens removes these tokens and no other that
counts. -/
theorem map_toLexeme_read_removeSpan {query : Text}
    {before run after : List Token}
    (split : read query = before ++ (run ++ after))
    (inside : ∀ token ∈ run, token.form ≠ .finish)
    {first last : Token} (isFirst : first ∈ run.head?)
    (isLast : last ∈ run.getLast?) :
    (meaningful (read (Edit.removeSpan query first.position last.stop))).map
        toLexeme =
      (meaningful (before ++ after)).map toLexeme := by
  have nonempty : run ≠ [] := by
    rintro rfl
    cases isFirst
  obtain ⟨front, middle, back, scanned, rfl, rfl, isBack⟩ :=
    exists_lexemes_of_read_eq split inside nonempty
  have some : middle ≠ [] := by
    rintro rfl
    exact nonempty rfl
  rw [map_toLexeme_meaningful_read, Lexeme.position_of_first_placed isFirst,
    Lexeme.stop_of_last_placed isLast, ← List.length_append,
    ← Lexeme.joined_append, Edit.counted_removeSpan scanned some]
  rw [List.filter_append, meaningful_append, List.map_append, isBack,
    map_toLexeme_meaningful, Lexeme.map_toLexeme_placed]

private theorem exists_row_of_meaningful_eq {tokens row : List Token}
    (kept : meaningful tokens = row) {first last : Token}
    (isFirst : first ∈ row.head?) (isLast : last ∈ row.getLast?) :
    ∃ before run after, tokens = before ++ (run ++ after) ∧
      meaningful before = [] ∧ meaningful after = [] ∧
      first ∈ run.head? ∧ last ∈ run.getLast? := by
  obtain ⟨more, rfl⟩ := List.head?_eq_some_iff.mp isFirst
  obtain ⟨before, rest, rfl, isBefore, _, isRest⟩ :=
    List.filter_eq_cons_iff.mp kept
  have noneBefore : meaningful before = [] :=
    List.filter_eq_nil_iff.mpr isBefore
  rcases List.eq_nil_or_concat more with rfl | ⟨front, final, rfl⟩
  · exact ⟨before, [first], rest, by simp, noneBefore, isRest, rfl, isLast⟩
  · rw [List.concat_eq_append] at isLast isRest
    rw [← List.cons_append, List.getLast?_concat] at isLast
    cases isLast
    obtain ⟨middle, ending, rfl, _, isEnding⟩ :=
      List.filter_eq_append_iff.mp isRest
    obtain ⟨skipped, after, rfl, _, _, isAfter⟩ :=
      List.filter_eq_cons_iff.mp isEnding
    refine ⟨before, first :: (middle ++ skipped ++ [last]), after, by simp,
      noneBefore, isAfter, rfl, ?_⟩
    rw [← List.cons_append, List.getLast?_concat]
    rfl

/-- Removing the span of a row among the tokens that count removes this row from
them. -/
theorem map_toLexeme_read_without {query : Text}
    {before flagged after : List Token}
    (split : meaningful (read query) = before ++ (flagged ++ after))
    {first last : Token} (isFirst : first ∈ flagged.head?)
    (isLast : last ∈ flagged.getLast?) :
    (meaningful (read (Edit.removeSpan query first.position last.stop))).map
        toLexeme =
      (before ++ after).map toLexeme := by
  rw [meaningful_read] at split
  obtain ⟨front, rest, isPieces, isFront, isRest⟩ :=
    List.filter_eq_append_iff.mp split
  obtain ⟨middle, back, rfl, isMiddle, isBack⟩ :=
    List.filter_eq_append_iff.mp isRest
  obtain ⟨left, run, right, rfl, noneLeft, noneRight, startsRun, endsRun⟩ :=
    exists_row_of_meaningful_eq isMiddle isFirst isLast
  have whole : read query = (front ++ left) ++ (run ++ (right ++ back ++
      [⟨⟨.finish, []⟩, query.length⟩])) := by
    rw [read_eq, isPieces]
    simp
  have inside : ∀ token ∈ run, token.form ≠ .finish := by
    intro token member
    have isPiece : token ∈ pieces query := by simp [isPieces, member]
    exact (isPiece_of_mem_pieces isPiece).1
  rw [map_toLexeme_read_removeSpan whole inside startsRun endsRun]
  have isFront : meaningful front = before := isFront
  have isBack : meaningful back = after := isBack
  have noFinish : meaningful [⟨⟨.finish, []⟩, query.length⟩] = [] := rfl
  rw [← isFront, ← isBack]
  simp only [meaningful_append, noneLeft, noneRight, noFinish, List.append_nil,
    List.nil_append]

end Token

namespace Lexeme

private theorem getLast?_words_of_connectives {text : Text}
    {before between after : List Lexeme} {first second : Lexeme}
    (scanned : scan text = before ++ first :: (between ++ second :: after))
    (isFirst : first.form.connective?.isSome = true)
    (isSecond : second.form.connective?.isSome = true)
    (none : ∀ lexeme ∈ between, lexeme.form.isMeaningful = false) :
    (Text.words (first.text ++ joined between ++ second.text)).getLast? =
      some second.text := by
  have inside : ∀ lexeme ∈ between, lexeme ∈ scan text := by
    intro lexeme member
    simp [scanned, member]
  have isLexeme : second ∈ scan text := by simp [scanned]
  have blank := isBlank_of_mem_joined inside none
  obtain ⟨lexeme, isBetween⟩ := List.exists_mem_of_ne_nil _
    (between_connectives_ne_nil scanned isFirst isSecond)
  have some : joined between ≠ [] := by
    intro nothing
    exact (isPiece_of_mem_scan (inside lexeme isBetween)).2
      (List.flatMap_eq_nil_iff.mp nothing lexeme isBetween)
  apply Text.getLast?_words _ (isPiece_of_mem_scan isLexeme).2
    (not_isBlank_of_connective isLexeme isSecond)
  intro last isLast
  rw [List.getLast?_append_of_ne_nil _ some] at isLast
  exact blank last (List.mem_of_getLast? isLast)

end Lexeme

namespace Token

private theorem exists_slice_of_connectives {query : Text}
    {before after : List Token} {first second : Token}
    (split : meaningful (read query) = before ++ first :: second :: after)
    (isFirst : first.form.connective?.isSome = true)
    (isSecond : second.form.connective?.isSome = true) :
    ∃ front : Text,
      Text.slice query first.position second.stop = front ++ second.text ∧
      second.position = first.position + front.length ∧
      (Text.words (front ++ second.text)).getLast? = some second.text := by
  rw [meaningful_read] at split
  obtain ⟨left, rest, isPieces, _, isRest⟩ :=
    List.filter_eq_append_iff.mp split
  obtain ⟨skipped, later, rfl, _, _, isLater⟩ :=
    List.filter_eq_cons_iff.mp isRest
  obtain ⟨between, back, rfl, isBetween, _, _⟩ :=
    List.filter_eq_cons_iff.mp isLater
  rw [← List.append_assoc] at isPieces
  obtain ⟨front, right, scanned, whole, position, behind⟩ :=
    pieces_eq_append_cons isPieces
  obtain ⟨gap, ending, rfl, start, isGap, _⟩ :=
    Lexeme.placed_eq_append_cons behind.symm
  have none : ∀ lexeme ∈ gap, lexeme.form.isMeaningful = false := by
    intro lexeme member
    rw [← Lexeme.map_toLexeme_placed first.stop gap, ← isGap] at member
    obtain ⟨token, isToken, rfl⟩ := List.mem_map.mp member
    simpa [isMeaningful] using isBetween token isToken
  refine ⟨first.text ++ Lexeme.joined gap, ?_, ?_,
    Lexeme.getLast?_words_of_connectives scanned isFirst isSecond none⟩
  · have isMiddle : query = Lexeme.joined front ++
        ((first.text ++ Lexeme.joined gap ++ second.text) ++
          Lexeme.joined ending) := by
      simpa using whole
    rw [isMiddle]
    apply Text.slice_middle position
    simp only [List.length_append, stop, start, length]
    omega
  · rw [start, stop, length, List.length_append, Nat.add_assoc]

end Token

namespace Lexeme

private theorem form_ofRunAlone_ne_bracket (run : Text) (isOpen : Bool) :
    (ofRunAlone run).form ≠ .bracket isOpen := by
  unfold ofRunAlone ofRun
  split
  · simp
  · split <;> simp

private theorem length_of_bracket {text : Text} {lexeme : Lexeme}
    (member : lexeme ∈ scan text) {isOpen : Bool}
    (bracket : lexeme.form = .bracket isOpen) : lexeme.text.length = 1 := by
  obtain ⟨_, _, starts⟩ := exists_startsWith_of_mem_scan member
  cases starts with
  | blank | phrase | quoted => cases bracket
  | opening | closing => rfl
  | run => exact absurd bracket (form_ofRunAlone_ne_bracket _ isOpen)

end Lexeme

namespace Fix

section

variable {query : Text} {corrections : List Text} {openings : Nat}

private theorem Setting.without_natCast (setting : Setting) (start stop : Nat) :
    setting.without start stop =
      Edit.removeSpan setting.query start stop := by
  simp only [without, offset, Text.offset_natCast, Edit.removeSpan]
  rw [← List.take_eq_take_min, ← List.drop_eq_drop_min]

private theorem stop_of_span (start stop : Nat) :
    Span.stop ⟨start, stop - start⟩ = stop := by
  simp [Span.stop]

private theorem dropSecond_eq {before after : List Token} {first second : Token}
    (split : Token.meaningful (Token.read query) =
      before ++ first :: second :: after)
    (isFirst : first.form.connective?.isSome = true)
    (isSecond : second.form.connective?.isSome = true) :
    ∃ fix, dropSecond ⟨query, ⟨first.position, second.stop - first.position⟩,
        corrections, openings⟩ = .ok fix ∧
      fix.query = Edit.removeSpan query second.position second.stop := by
  obtain ⟨front, marked, position, lastWord⟩ :=
    Token.exists_slice_of_connectives split isFirst isSecond
  have isMarked : Setting.marked ⟨query,
      ⟨first.position, second.stop - first.position⟩, corrections,
      openings⟩ = front ++ second.text := by
    rw [Setting.marked, stop_of_span]
    exact marked
  rw [dropSecond, isMarked, lastWord]
  refine ⟨_, rfl, ?_⟩
  have start : (first.position : Int) + (front ++ second.text).length -
      second.text.length = second.position := by
    rw [position, List.length_append]
    push_cast
    omega
  simp only [sure, start]
  rw [← Setting.without_natCast ⟨query, _, corrections, openings⟩]
  rfl

private theorem dropBracket_eq {token : Token} {isOpen : Bool}
    (member : token ∈ Token.pieces query)
    (bracket : token.form = .bracket isOpen) (description : Text) :
    (dropBracket description
        ⟨query, token.span, corrections, openings⟩).query =
      Edit.removeSpan query token.position token.stop := by
  have single := Lexeme.length_of_bracket
    (Token.toLexeme_mem_scan_of_mem_pieces member) bracket
  rw [Token.stop, Token.length, single]
  exact Setting.without_natCast _ token.position (token.position + 1)

private theorem exists_fix_of_flags {finding : Finding}
    {before flagged after : List Token}
    (split : Token.meaningful (Token.read query) =
      before ++ (flagged ++ after))
    (flags : finding.Flags before flagged) :
    ∃ span fix first last, finding.span = some span ∧
      fix? finding.code ⟨query, span, corrections, openings⟩ =
        .ok (some fix) ∧
      first ∈ flagged.head? ∧ last ∈ flagged.getLast? ∧
      fix.query = Edit.removeSpan query first.position last.stop := by
  have isPiece : ∀ token ∈ flagged, token ∈ Token.pieces query := by
    intro token member
    have counts : token ∈ Token.meaningful (Token.pieces query) := by
      rw [← Token.meaningful_read, split]
      simp [member]
    exact List.mem_of_mem_filter counts
  cases flags with
  | @closing _ token code closing span =>
      refine ⟨_, _, token, token, span, by rw [code]; rfl, rfl, rfl, ?_⟩
      exact dropBracket_eq (isPiece token (List.mem_singleton_self token))
        (beq_iff_eq.mp closing) _
  | @opening _ token code opening span =>
      refine ⟨_, _, token, token, span, by rw [code]; rfl, rfl, rfl, ?_⟩
      exact dropBracket_eq (isPiece token (List.mem_singleton_self token))
        (beq_iff_eq.mp opening) _
  | @connective _ token code joining span =>
      have isFix : fix? finding.code
          ⟨query, token.span, corrections, openings⟩ =
            .ok (dropConnective ⟨query, token.span, corrections, openings⟩) := by
        rcases code with code | code | code <;> rw [code] <;> rfl
      refine ⟨_, _, token, token, span, isFix, rfl, rfl, ?_⟩
      exact Setting.without_natCast _ token.position token.stop
  | @second before first second code isFirst isSecond span =>
      obtain ⟨fix, isFix, removed⟩ := @dropSecond_eq query corrections openings
        before after first second (by simpa using split) isFirst isSecond
      refine ⟨_, fix, second, second, span, ?_, rfl, rfl, removed⟩
      rw [code, fix?, isFix]
      rfl
  | @pair _ opening closing code isOpening isClosing span =>
      refine ⟨_, _, opening, closing, span, by rw [code]; rfl, rfl, rfl, ?_⟩
      rw [dropBrackets, sure]
      dsimp only
      rw [stop_of_span]
      exact Setting.without_natCast _ opening.position closing.stop

end

end Fix

namespace Validator

variable {validator : Validator} {query : Text} {finding : Finding}

/-- What says that tokens are too much has a fix, which removes the span of
these tokens. -/
theorem exists_fix_of_flagging
    (member : finding ∈ validator.errors query ++ validator.warnings query)
    (flagging : finding.code ∈ Code.flagging) :
    ∃ fix before flagged after first last,
      validator.Fixes query finding fix ∧
      Token.meaningful (Token.read query) = before ++ (flagged ++ after) ∧
      finding.Flags before flagged ∧
      first ∈ flagged.head? ∧ last ∈ flagged.getLast? ∧
      fix.query = Edit.removeSpan query first.position last.stop := by
  obtain ⟨before, flagged, after, split, flags⟩ :=
    flagsAmong_of_mem member flagging
  obtain ⟨span, fix, first, last, located, isFix, isFirst, isLast, removed⟩ :=
    @Fix.exists_fix_of_flags query finding.corrections
      ((validator.errors query ++ validator.warnings query).countP
        (·.code == .unmatchedOpeningBracket)) finding before flagged after
      split flags
  refine ⟨fix, before, flagged, after, first, last, ⟨member, ?_⟩, split, flags,
    isFirst, isLast, removed⟩
  rw [Fix.ofFinding?, located]
  exact isFix

/-- Removing the span of a row of tokens removes these tokens and no other that
counts, whatever the row is.  A finding that says that tokens are too much can
be fixed, and what fixes it removes just the tokens that the finding flags. -/
theorem removal_removes_flagged (validator : Validator) (query : Text) :
    (∀ before run after : List Token,
      Token.read query = before ++ (run ++ after) →
      (∀ token ∈ run, token.form ≠ .finish) →
      ∀ first ∈ run.head?, ∀ last ∈ run.getLast?,
        (Token.meaningful (Token.read
            (Edit.removeSpan query first.position last.stop))).map
            Token.toLexeme =
          (Token.meaningful (before ++ after)).map Token.toLexeme) ∧
    ∀ finding ∈ validator.errors query ++ validator.warnings query,
      finding.code ∈ Code.flagging →
      ∃ before flagged after,
        Token.meaningful (Token.read query) = before ++ (flagged ++ after) ∧
        finding.Flags before flagged ∧
        (∃ fix, validator.Fixes query finding fix) ∧
        ∀ fix, validator.Fixes query finding fix →
          (Token.meaningful (Token.read fix.query)).map Token.toLexeme =
            (before ++ after).map Token.toLexeme := by
  constructor
  · intro before run after split inside first isFirst last isLast
    exact Token.map_toLexeme_read_removeSpan split inside isFirst isLast
  · intro finding member flagging
    obtain ⟨fix, before, flagged, after, first, last, fixes, split, flags,
      isFirst, isLast, removed⟩ := exists_fix_of_flagging member flagging
    refine ⟨before, flagged, after, split, flags, ⟨fix, fixes⟩, ?_⟩
    intro other also
    rw [also.unique fixes, removed]
    exact Token.map_toLexeme_read_without split isFirst isLast

/-- The blanks around the first connective go with it, and of the two
connectives the second is removed by the fix. -/
theorem removal_removes_flagged_two_connectives :
    (Token.meaningful (Token.read
        (Edit.removeSpan "c:red AND OR t:elf" 5 10))).map Token.toLexeme =
      (Token.meaningful ((Token.read "c:red AND OR t:elf").take 1 ++
        (Token.read "c:red AND OR t:elf").drop 4)).map Token.toLexeme ∧
    ∃ finding ∈ standard.errors "c:red AND OR t:elf",
      finding.code = .consecutiveConnectives ∧
      ∃ before flagged after,
        Token.meaningful (Token.read "c:red AND OR t:elf") =
          before ++ (flagged ++ after) ∧
        finding.Flags before flagged ∧
        (Token.meaningful (Token.read "c:red AND t:elf")).map Token.toLexeme =
          (before ++ after).map Token.toLexeme := by
  obtain ⟨rows, flags⟩ :=
    removal_removes_flagged standard "c:red AND OR t:elf"
  constructor
  · exact rows ((Token.read "c:red AND OR t:elf").take 1)
      (((Token.read "c:red AND OR t:elf").drop 1).take 3)
      ((Token.read "c:red AND OR t:elf").drop 4) (by decide +kernel)
      (by decide +kernel) ⟨⟨.blank, " "⟩, 5⟩ (by decide +kernel)
      ⟨⟨.blank, " "⟩, 9⟩ (by decide +kernel)
  · have found : (⟨.consecutiveConnectives,
        "Consecutive boolean operators 'AND OR'", some ⟨6, 6⟩, []⟩ : Finding) ∈
          standard.errors "c:red AND OR t:elf" := by
      decide +kernel
    obtain ⟨before, flagged, after, split, flagging, _, removes⟩ :=
      flags _ (List.mem_append_left _ found) (by decide)
    refine ⟨_, found, rfl, before, flagged, after, split, flagging, ?_⟩
    exact removes ⟨.removal, "Remove the redundant 'OR'", "c:red AND t:elf",
      .high, .fixesError⟩ ⟨List.mem_append_left _ found, by decide +kernel⟩

end Validator

end CardQuery
