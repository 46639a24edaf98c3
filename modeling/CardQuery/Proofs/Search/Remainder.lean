import CardQuery.Proofs.Search.Clause
import CardQuery.Proofs.Search.Written

/-!
# What a bare value leaves

The text behind the first symbol of a bare value is read on its own.  It holds
nothing that separates names from values, so it is a row of words and
connectives; and since runs are only cut at symbols, which are words, no two
connectives meet in it.
-/

namespace CardQuery

private theorem Comparison.read?_eq_none {text : Text}
    (noSeparator : ∀ character ∈ text,
      Head.beginsSeparator character = false) : read? text = none := by
  unfold read?
  split <;> first
    | rfl
    | exact absurd (noSeparator _ List.mem_cons_self) (by decide)

namespace Head

private theorem readName?_eq_none {negated : Bool} {text : Text}
    (noSeparator : ∀ character ∈ text, beginsSeparator character = false) :
    readName? negated text = none := by
  cases text with
  | nil => rfl
  | cons first rest =>
      have none : Comparison.read? (rest.dropWhile isNamePart) = none := by
        apply Comparison.read?_eq_none
        intro character member
        exact noSeparator character (List.mem_cons_of_mem first
          ((List.dropWhile_sublist isNamePart).mem member))
      simp [readName?, none]

private theorem read?_eq_none {text : Text}
    (noSeparator : ∀ character ∈ text, beginsSeparator character = false) :
    read? text = none := by
  unfold read?
  split
  · exact readName?_eq_none fun character member =>
      noSeparator character (List.mem_cons_of_mem _ member)
  · exact readName?_eq_none noSeparator

end Head

namespace Lexeme

/-- Whether a form is a word or a connective. -/
def isSpoken (form : Form) : Bool :=
  form == .word || form.connective?.isSome

theorem isSpoken_iff {form : Form} :
    isSpoken form = true ↔
      form = .word ∨ ∃ joining, form = .connective joining := by
  cases form <;> simp [isSpoken, Form.connective?]

private theorem ofRunAlone_eq {run : Text}
    (noSeparator : ∀ character ∈ run,
      Head.beginsSeparator character = false) :
    ∃ form, ofRunAlone run = ⟨form, run⟩ ∧ isSpoken form = true := by
  unfold ofRunAlone ofRun
  rw [Head.read?_eq_none noSeparator]
  cases Connective.ofWord? run with
  | none => exact ⟨.word, rfl, rfl⟩
  | some joining => exact ⟨.connective joining, rfl, rfl⟩

theorem ofRunAlone_symbol {part : Char} (isPart : isSymbolPart part = true) :
    ofRunAlone [part, part] = ⟨.word, [part, part]⟩ := by
  simp only [isSymbolPart, Bool.or_eq_true, beq_iff_eq] at isPart
  rcases isPart with rfl | rfl <;> decide

end Lexeme

namespace Structure

open Lexeme

/-- Words and connectives of which no two meet. -/
structure IsRemainder (forms : List Form) : Prop where
  spoken : ∀ form ∈ forms, isSpoken form = true
  chain : forms.IsChain (mayAdjoin · ·)

private theorem mayAdjoin_word (second : Form) : mayAdjoin .word second = true
    := by
  simp [mayAdjoin, isFilled, isJoined]

/-- A bare text without separators is read as words and connectives, and what
a symbol starts begins with a word. -/
theorem isRemainder_forms {text : Text}
    (inside : ∀ character ∈ text, endsRun character = false)
    (noSeparator : ∀ character ∈ text,
      Head.beginsSeparator character = false) :
    IsRemainder (Lexeme.forms text) ∧ (startsSymbol text = true →
      ∀ first ∈ (Lexeme.forms text).head?, first = .word) := by
  induction size : text.length using Nat.strongRecOn generalizing text with
  | _ size ih =>
      subst size
      cases text with
      | nil => exact ⟨⟨by simp, by simp⟩, by simp⟩
      | cons first rest =>
          have shorter := length_next_lt first rest
          have isNext := next_eq_ofRunAlone inside
          obtain ⟨form, isRun, spoken⟩ := ofRunAlone_eq
            fun character member =>
              noSeparator character (mem_of_mem_readRun (Or.inl member))
          have counts : form.isMeaningful = true := by
            rcases isSpoken_iff.mp spoken with rfl | ⟨joining, rfl⟩ <;> rfl
          rw [isNext] at shorter
          obtain ⟨later, laterStart⟩ := ih _ shorter
            (fun character member =>
              inside character (mem_of_mem_readRun (Or.inr member)))
            (fun character member =>
              noSeparator character (mem_of_mem_readRun (Or.inr member))) rfl
          have split : Lexeme.forms (first :: rest) =
              form :: Lexeme.forms (readRun (first :: rest)).2 := by
            rw [Lexeme.forms_cons, isNext, isRun]
            simp [counts]
          have isWord : startsSymbol (first :: rest) = true → form = .word := by
            intro symbol
            obtain ⟨part, _, isPart, isSymbol⟩ := startsSymbol_iff.mp symbol
            have run : (readRun (first :: rest)).1 = [part, part] := by
              rw [readRun, symbol, isSymbol]
              rfl
            rw [run, ofRunAlone_symbol isPart] at isRun
            exact (congrArg Lexeme.form isRun).symm
          have fits : ∀ next ∈
              (Lexeme.forms (readRun (first :: rest)).2).head?,
              mayAdjoin form next = true := by
            intro next isLater
            cases symbol : startsSymbol (first :: rest) with
            | true =>
                rw [isWord symbol]
                exact mayAdjoin_word next
            | false =>
                have left : (spanRun (first :: rest)).2 ≠ [] := by
                  intro none
                  rw [readRun, symbol] at isLater
                  simp [none] at isLater
                have isSymbol := startsSymbol_of_spanRun inside left
                rw [readRun, symbol] at laterStart isLater
                rw [laterStart isSymbol next isLater]
                exact mayAdjoin_of_beginsAtom rfl form
          rw [split]
          refine ⟨⟨?_, List.isChain_cons.mpr ⟨fits, later.chain⟩⟩, ?_⟩
          · intro other member
            rcases List.mem_cons.mp member with rfl | member
            · exact spoken
            · exact later.spoken other member
          · intro symbol other isOther
            rw [← Option.some.inj isOther]
            exact isWord symbol

theorem isClause_condition {asked : Condition} {rest : List Form}
    (remainder : IsRemainder rest)
    (start : ∀ first ∈ rest.head?, first = .word) :
    IsClause (.condition asked :: rest) where
  nonempty := by simp
  begins := by simp [beginsAtom]
  closes := by
    rw [closesAll_other (by simp) (by simp)]
    have spoken := remainder.spoken
    clear remainder start
    induction rest with
    | nil => rfl
    | cons first rest ih =>
        have isFirst := isSpoken_iff.mp (spoken first List.mem_cons_self)
        rw [closesAll_other]
        · exact ih fun form member =>
            spoken form (List.mem_cons_of_mem first member)
        · rcases isFirst with rfl | ⟨joining, rfl⟩ <;> simp
        · rcases isFirst with rfl | ⟨joining, rfl⟩ <;> simp
  chain := by
    refine List.isChain_cons.mpr ⟨?_, remainder.chain⟩
    intro next isNext
    rw [start next isNext]
    exact mayAdjoin_of_beginsAtom rfl _

end Structure

end CardQuery
