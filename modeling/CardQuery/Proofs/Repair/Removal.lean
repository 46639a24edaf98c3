import CardQuery.Proofs.Search.Counted
import CardQuery.Repair.Refine
import Mathlib.Data.List.DropRight

/-!
# Removing conditions from a text

Removing a span strips what is left of it and right of it and joins the two.
Where no blank is put between them, one of them is empty or a bracket stands
there, so that they are still read apart.  The text loses the lexemes of the
span and no other that counts.

Spans are removed from the last to the first.  What is removed later only
touches the text up to the condition before it, since a condition ends in no
blank and in no bracket.  The text in front therefore stays as it is until its
own turn comes, and the tail behind it comprises what was kept.
-/

namespace CardQuery

open Structure

namespace Text

theorem stripEnd_eq (text : Text) : stripEnd text = text.rdropWhile isBlank :=
  rfl

theorem stripEnd_append {text : Text}
    (firm : ∀ last ∈ text.getLast?, isBlank last = false) (after : Text) :
    stripEnd (text ++ after) = text ++ stripEnd after := by
  simp only [stripEnd_eq]
  induction after using List.reverseRecOn with
  | nil =>
      rw [List.append_nil, List.rdropWhile_nil, List.append_nil,
        List.rdropWhile_eq_self_iff]
      intro nonempty
      simp [firm _ (List.getLast?_eq_some_getLast nonempty)]
  | append_singleton after last ih =>
      rw [← List.append_assoc, List.rdropWhile_concat, List.rdropWhile_concat,
        ih]
      split <;> simp

theorem exists_blanks (text : Text) :
    ∃ blanks, text = stripEnd text ++ blanks ∧
      ∀ character ∈ blanks, isBlank character = true :=
  ⟨text.rtakeWhile isBlank, (List.rdropWhile_append_rtakeWhile).symm,
    fun _ => List.mem_rtakeWhile_imp⟩

theorem quote_not_mem_of_blank {blanks : Text}
    (blank : ∀ character ∈ blanks, isBlank character = true) : '"' ∉ blanks :=
  fun member => absurd (blank '"' member) (by decide)

/-- What is added to a text in the place of the blanks at its end changes the
text, unless it is blank. -/
theorem stripEnd_append_ne {text added : Text} {character : Char}
    (member : character ∈ added) (noBlank : isBlank character = false) :
    stripEnd text ++ added ≠ text := by
  intro same
  obtain ⟨blanks, split, blank⟩ := exists_blanks text
  have isAdded : added = blanks := List.append_cancel_left (same.trans split)
  have isBlank := blank character (isAdded ▸ member)
  rw [noBlank] at isBlank
  cases isBlank

end Text

theorem Quotation.exists_openQuote?_stripEnd {query : Text}
    (unbalanced : findings query ≠ []) :
    ∃ quote, openQuote? (Text.stripEnd query) = some quote := by
  obtain ⟨blanks, split, blank⟩ := Text.exists_blanks query
  rw [← Option.ne_none_iff_exists', Ne, ← isBalanced_iff]
  intro balanced
  have whole := balanced.append
    (isBalanced_of_noQuote (Text.quote_not_mem_of_blank blank))
  rw [← split, isBalanced_iff] at whole
  exact unbalanced (findings_eq_nil_iff.mpr whole)

namespace Lexeme

theorem counted_stripStart (text : Text) :
    counted (Text.stripStart text) = counted text :=
  counted_dropBlanks text

/-- A text without an open quote loses nothing that counts with the blanks at
its end, and its quotes stay closed. -/
theorem countedFrom_stripEnd {text : Text}
    (balanced : Quotation.IsBalanced text) (start : Nat) :
    Quotation.IsBalanced (Text.stripEnd text) ∧
      countedFrom start (Text.stripEnd text) = countedFrom start text := by
  obtain ⟨blanks, split, blank⟩ := Text.exists_blanks text
  have stripped : Quotation.IsBalanced (Text.stripEnd text) :=
    (split ▸ balanced).of_append (Text.quote_not_mem_of_blank blank)
  have none (position : Nat) : countedFrom position blanks = [] := by
    have only := countedFrom_blanks blank position []
    rwa [List.append_nil, countedFrom_nil] at only
  have whole := countedFrom_append stripped (separates_blanks blank) start
  rw [← split, none, List.append_nil] at whole
  exact ⟨stripped, whole.symm⟩

theorem counted_stripEnd {text : Text}
    (balanced : Quotation.IsBalanced text) :
    Quotation.IsBalanced (Text.stripEnd text) ∧
      counted (Text.stripEnd text) = counted text := by
  obtain ⟨stripped, same⟩ := countedFrom_stripEnd balanced 0
  refine ⟨stripped, ?_⟩
  rw [← map_toLexeme_countedFrom 0, same, map_toLexeme_countedFrom]

/-- Texts can be put next to each other where a bracket or nothing stands. -/
theorem counted_append_of_apart {left right : Text}
    (balanced : Quotation.IsBalanced left)
    (apart : left = [] ∨ left.getLast? = some '(' ∨ Separates right) :
    counted (left ++ right) = counted left ++ counted right := by
  rcases apart with rfl | opening | separates
  · simp
  · obtain ⟨front, rfl⟩ := List.getLast?_eq_some_iff.mp opening
    have isFront : Quotation.IsBalanced front :=
      balanced.of_append (by decide)
    have behind (rest : Text) :
        counted (front ++ '(' :: rest) =
          counted front ++ (⟨.bracket true, ['(']⟩ :: counted rest) := by
      rw [counted_append isFront (separates_opening rest),
        (StartsWith.opening rest).counted_eq]
      rfl
    have isLeft := behind []
    rw [List.append_assoc, List.singleton_append, behind, isLeft]
    simp
  · exact counted_append balanced separates

theorem counted_append_of_blank {left right : Text}
    (balanced : Quotation.IsBalanced left)
    (apart : ∀ last ∈ left.getLast?, Text.isBlank last = true) :
    counted (left ++ right) = counted left ++ counted right := by
  rcases List.eq_nil_or_concat left with rfl | ⟨front, last, rfl⟩
  · simp
  · rw [List.concat_eq_append] at balanced apart ⊢
    have isBlank : Text.isBlank last = true := apart last (by simp)
    have noQuote : '"' ∉ [last] := by
      rw [List.mem_singleton]
      rintro rfl
      exact absurd isBlank (by decide)
    have isFront : Quotation.IsBalanced front := balanced.of_append noQuote
    have behind (rest : Text) :
        counted (front ++ last :: rest) = counted front ++ counted rest := by
      rw [counted_append isFront (separates_of_blank (by simpa using isBlank))]
      congr 1
      exact @counted_blanks [last] (by simpa using isBlank) rest
    have isLeft := behind []
    rw [counted_nil, List.append_nil] at isLeft
    rw [List.append_assoc, List.singleton_append, behind, isLeft]

/-- The text leaves no quote open, and the row is what counts of its lexemes. -/
structure Comprises (text : Text) (row : List Lexeme) : Prop where
  balanced : Quotation.IsBalanced text
  counted_eq : counted text = row

namespace Comprises

variable {text left right : Text} {row leftRow rightRow : List Lexeme}

theorem readsAs (comprises : Comprises text row) :
    ReadsAs text (row.map (·.form)) := by
  rw [readsAs_iff, ← map_form_counted, comprises.counted_eq]
  exact ⟨comprises.balanced, rfl⟩

theorem stripStart (comprises : Comprises text row) :
    Comprises (Text.stripStart text) row :=
  ⟨comprises.balanced.dropBlanks,
    (counted_stripStart text).trans comprises.counted_eq⟩

theorem stripEnd (comprises : Comprises text row) :
    Comprises (Text.stripEnd text) row := by
  obtain ⟨stripped, same⟩ := counted_stripEnd comprises.balanced
  exact ⟨stripped, same.trans comprises.counted_eq⟩

private theorem behindBlank (comprises : Comprises text row) :
    Comprises (' ' :: text) row :=
  ⟨(Quotation.isBalanced_singleton (by decide)).append comprises.balanced,
    (counted_blank text).trans comprises.counted_eq⟩

theorem append (isLeft : Comprises left leftRow)
    (isRight : Comprises right rightRow)
    (apart : left = [] ∨ left.getLast? = some '(' ∨ Separates right) :
    Comprises (left ++ right) (leftRow ++ rightRow) := by
  refine ⟨isLeft.balanced.append isRight.balanced, ?_⟩
  rw [counted_append_of_apart isLeft.balanced apart, isLeft.counted_eq,
    isRight.counted_eq]

private theorem of_joined {lexemes after : List Lexeme}
    (scanned : scan text = lexemes ++ after)
    (closed : ∀ lexeme ∈ lexemes, lexeme.openQuote? = none) :
    Comprises (joined lexemes) (lexemes.filter (·.form.isMeaningful)) where
  balanced := (readsAs_joined scanned closed).balanced
  counted_eq := by rw [counted, scan_joined scanned closed]

end Comprises

namespace ReadsAs

variable {text : Text} {row : List Form}

private theorem comprises (reads : ReadsAs text row) :
    Comprises text (counted text) ∧ (counted text).map (·.form) = row :=
  ⟨⟨reads.balanced, rfl⟩, (map_form_counted text).trans reads.forms_eq⟩

theorem stripStart (reads : ReadsAs text row) :
    ReadsAs (Text.stripStart text) row := by
  obtain ⟨comprises, rfl⟩ := reads.comprises
  exact comprises.stripStart.readsAs

theorem stripEnd (reads : ReadsAs text row) :
    ReadsAs (Text.stripEnd text) row := by
  obtain ⟨comprises, rfl⟩ := reads.comprises
  exact comprises.stripEnd.readsAs

theorem append {left right : Text} {leftRow rightRow : List Form}
    (leftReads : ReadsAs left leftRow) (rightReads : ReadsAs right rightRow)
    (apart : left = [] ∨ left.getLast? = some '(' ∨ Separates right) :
    ReadsAs (left ++ right) (leftRow ++ rightRow) := by
  obtain ⟨isLeft, rfl⟩ := leftReads.comprises
  obtain ⟨isRight, rfl⟩ := rightReads.comprises
  rw [← List.map_append]
  exact (isLeft.append isRight apart).readsAs

end ReadsAs

end Lexeme

namespace Edit

/-- What is left of a removed span and right of it is joined by a blank, or is
put next to each other where it can. -/
theorem removeSpan_cases (text : Text) (start stop : Nat) :
    let before := Text.stripEnd (text.take start)
    let after := Text.stripStart (text.drop stop)
    removeSpan text start stop = before ++ ' ' :: after ∨
      removeSpan text start stop = before ++ after ∧
        (before = [] ∨ before.getLast? = some '(' ∨
          Lexeme.Separates after) := by
  dsimp only [removeSpan]
  generalize Text.stripEnd (text.take start) = before
  generalize Text.stripStart (text.drop stop) = after
  split
  next touching =>
    refine Or.inr ⟨rfl, ?_⟩
    simp only [Bool.or_eq_true, List.isEmpty_iff, beq_iff_eq] at touching
    rcases touching with ((none | none) | opening) | closing
    · exact Or.inl none
    · exact Or.inr (Or.inr (none ▸ Lexeme.separates_nil))
    · exact Or.inr (Or.inl opening)
    · obtain ⟨later, isAfter⟩ := List.head?_eq_some_iff.mp closing
      exact Or.inr (Or.inr (isAfter ▸ Lexeme.separates_closing later))
  next => exact Or.inl rfl

/-- The text ends in nothing that stripping takes away and in no opening
bracket. -/
def IsFirm (text : Text) : Prop :=
  ∀ last ∈ text.getLast?, Text.isBlank last = false ∧ last ≠ '('

private theorem exists_removeSpan {front middle removed tail : Text}
    {middleRow tailRow : List Lexeme} (firm : IsFirm front)
    (isMiddle : Lexeme.Comprises middle middleRow)
    (isTail : Lexeme.Comprises tail tailRow) :
    ∃ rejoined,
      removeSpan (front ++ middle ++ removed ++ tail) (front ++ middle).length
          (front ++ middle ++ removed).length = front ++ rejoined ∧
        Lexeme.Comprises rejoined (middleRow ++ tailRow) := by
  have taken : (front ++ middle ++ removed ++ tail).take
      (front ++ middle).length = front ++ middle := by
    rw [List.append_assoc (front ++ middle), List.take_left]
  have dropped : (front ++ middle ++ removed ++ tail).drop
      (front ++ middle ++ removed).length = tail := List.drop_left
  have left := isMiddle.stripEnd
  have right := isTail.stripStart
  have cases := removeSpan_cases (front ++ middle ++ removed ++ tail)
    (front ++ middle).length (front ++ middle ++ removed).length
  simp only [taken, dropped,
    Text.stripEnd_append fun last isLast => (firm last isLast).1] at cases
  generalize Text.stripEnd middle = middle at left cases
  generalize Text.stripStart tail = tail at right cases
  rcases cases with isBlank | ⟨touching, apart⟩
  · refine ⟨middle ++ ' ' :: tail, ?_, left.append right.behindBlank
      (Or.inr (Or.inr (Lexeme.separates_blank tail)))⟩
    rw [isBlank, List.append_assoc]
  · refine ⟨middle ++ tail, ?_, left.append right ?_⟩
    · rw [touching, List.append_assoc]
    · rcases apart with none | opening | separates
      · exact Or.inl (List.append_eq_nil_iff.mp none).2
      · rw [List.getLast?_append] at opening
        cases last : middle.getLast? with
        | none => exact Or.inl (List.getLast?_eq_none_iff.mp last)
        | some character =>
            rw [last] at opening
            exact Or.inr (Or.inl opening)
      · exact Or.inr (Or.inr separates)

end Edit

namespace Refine

/-- The lexemes that count and are not dropped. -/
def kept (drops : Form → Bool) (lexemes : List Lexeme) : List Lexeme :=
  (lexemes.filter (·.form.isMeaningful)).filter (!drops ·.form)

private theorem kept_eq_of_none_dropped {drops : Form → Bool}
    {lexemes : List Lexeme}
    (none : ∀ lexeme ∈ lexemes, drops lexeme.form = false) :
    kept drops lexemes = lexemes.filter (·.form.isMeaningful) := by
  rw [kept, List.filter_eq_self]
  intro lexeme member
  simp [none lexeme (List.mem_of_mem_filter member)]

theorem removeAll_cons (query : Text) (token : Token) (spans : List Span) :
    removeAll query (token.span :: spans) =
      Edit.removeSpan (removeAll query spans) token.position token.stop := by
  rw [removeAll, List.foldr_cons]
  rfl

section

variable {drops : Form → Bool} {text : Text} {before middle after : List Lexeme}

private theorem comprises_middle
    (closed : ∀ lexeme ∈ Lexeme.scan text, lexeme.openQuote? = none)
    (scanned : Lexeme.scan text = before ++ (middle ++ after))
    (none : ∀ lexeme ∈ middle, drops lexeme.form = false) :
    Lexeme.Comprises (Lexeme.joined middle) (kept drops middle) := by
  rw [kept_eq_of_none_dropped none]
  refine Lexeme.Comprises.of_joined (Lexeme.scan_eq_append scanned) ?_
  intro lexeme member
  exact closed lexeme (by simp [scanned, member])

private theorem isFirm_joined
    (closed : ∀ lexeme ∈ Lexeme.scan text, lexeme.openQuote? = none)
    {lexeme : Lexeme} (member : lexeme ∈ Lexeme.scan text) {asked : Condition}
    (isCondition : lexeme.form = .condition asked) (before : List Lexeme) :
    Edit.IsFirm (Lexeme.joined (before ++ [lexeme])) := by
  intro last isLast
  have nonempty := (Lexeme.isPiece_of_mem_scan member).2
  obtain ⟨_, _, starts⟩ := Lexeme.exists_startsWith_of_mem_scan member
  apply starts.getLast?_condition (closed lexeme member) isCondition
  simpa [List.getLast?_append_of_ne_nil _ nonempty] using isLast

/-- Removing conditions of a text from the last to the first keeps what is in
front of the first of them, and behind it the text comprises what was kept. -/
theorem exists_removeAll
    (only : ∀ form, drops form = true → ∃ asked, form = .condition asked)
    (closed : ∀ lexeme ∈ Lexeme.scan text, lexeme.openQuote? = none)
    (scanned : Lexeme.scan text = before ++ (middle ++ after))
    (firm : Edit.IsFirm (Lexeme.joined before))
    (none : ∀ lexeme ∈ middle, drops lexeme.form = false) :
    ∃ tail,
      removeAll text
          (((Lexeme.placed (Lexeme.joined (before ++ middle)).length
            after).filter (drops ·.form)).map Token.span) =
        Lexeme.joined before ++ tail ∧
      Lexeme.Comprises tail (kept drops (middle ++ after)) := by
  induction after generalizing before middle with
  | nil =>
      refine ⟨Lexeme.joined middle, ?_, ?_⟩
      · have whole := Lexeme.joined_scan text
        rw [scanned] at whole
        simpa [Lexeme.placed, removeAll] using whole.symm
      · simpa using comprises_middle closed scanned none
  | cons lexeme after ih =>
      cases dropped : drops lexeme.form with
      | false =>
          have noneMore : ∀ other ∈ middle ++ [lexeme],
              drops other.form = false := by
            simpa [or_imp, forall_and, dropped] using none
          have scannedMore : Lexeme.scan text =
              before ++ ((middle ++ [lexeme]) ++ after) := by
            simpa using scanned
          have found := ih scannedMore firm noneMore
          simpa [Lexeme.placed, dropped, Nat.add_assoc] using found
      | true =>
          obtain ⟨asked, isCondition⟩ := only lexeme.form dropped
          have scannedNext : Lexeme.scan text =
              (before ++ middle ++ [lexeme]) ++ ([] ++ after) := by
            simpa using scanned
          have counts : lexeme.form.isMeaningful = true := by
            rw [isCondition]
            rfl
          have member : lexeme ∈ Lexeme.scan text := by simp [scanned]
          obtain ⟨tail, removed, isTail⟩ := ih scannedNext
            (isFirm_joined closed member isCondition (before ++ middle))
            (by simp)
          obtain ⟨rejoined, cut, comprises⟩ :=
            @Edit.exists_removeSpan _ _ lexeme.text _ _ _ firm
              (comprises_middle closed scanned none) isTail
          have split : Lexeme.joined (before ++ middle ++ [lexeme]) =
              Lexeme.joined before ++ Lexeme.joined middle ++ lexeme.text := by
            simp
          rw [List.append_nil, split] at removed
          refine ⟨rejoined, ?_, ?_⟩
          · rw [Lexeme.placed, List.filter_cons, if_pos dropped, List.map_cons,
              removeAll_cons]
            simp only [Token.stop, Token.length, Lexeme.joined_append,
              ← List.length_append]
            rw [removed, cut]
          · simpa [kept, dropped, counts] using comprises

end

end Refine

end CardQuery
