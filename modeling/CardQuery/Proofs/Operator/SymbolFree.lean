import CardQuery.Operator.Standard
import CardQuery.Proofs.Operator.Acceptance
import CardQuery.Proofs.Operator.Marks
import CardQuery.Proofs.Search.Run

/-!
# Values without symbols

Only free text may hold the characters of the symbols `&&` and `||`: these are
no marks that values are written with, and a choice has words without them.  A
value that is read up to its first symbol is therefore whole, or its operator
takes free text and is content with the part before the symbol.
-/

namespace CardQuery

open Lexeme

/-- Whether no character of the text is one that a symbol is made of. -/
def Lexeme.isSymbolFree (text : Text) : Bool :=
  text.all (!isSymbolPart ·)

theorem Lexeme.isSymbolFree_iff {text : Text} :
    isSymbolFree text = true ↔
      ∀ character ∈ text, isSymbolPart character = false := by
  simp [isSymbolFree]

private theorem Lexeme.isSymbolPart_eq_false {holds : Char → Bool}
    (noAmpersand : holds '&' = false) (noBar : holds '|' = false)
    {character : Char} (inClass : holds character = true) :
    isSymbolPart character = false := by
  rw [Bool.eq_false_iff]
  intro symbol
  simp only [isSymbolPart, Bool.or_eq_true, beq_iff_eq] at symbol
  rcases symbol with rfl | rfl
  · rw [noAmpersand] at inClass
    contradiction
  · rw [noBar] at inClass
    contradiction

private theorem Text.isSteady_of_isSymbolPart {character : Char}
    (symbol : isSymbolPart character = true) : isSteady character = true := by
  simp only [isSymbolPart, Bool.or_eq_true, beq_iff_eq] at symbol
  rcases symbol with rfl | rfl <;> decide

private theorem Text.isSymbolFree_of_lower {text : Text}
    (free : isSymbolFree (lower text) = true) : isSymbolFree text = true := by
  rw [isSymbolFree_iff] at free ⊢
  intro character member
  rw [Bool.eq_false_iff]
  intro symbol
  have inLower := mem_lowerFrom (isSteady_of_isSymbolPart symbol) member []
  rw [free character inLower] at symbol
  contradiction

namespace Grammar

private theorem isSymbolFree_of_line {value : Text}
    (free : isSymbolFree (line value) = true) : isSymbolFree value = true := by
  rw [line] at free
  split at free
  next feed =>
    obtain ⟨front, rfl⟩ := List.getLast?_eq_some_iff.mp feed
    rw [isSymbolFree_iff] at free ⊢
    intro character member
    rcases List.mem_append.mp member with inFront | isFeed
    · exact free character (by simpa using inFront)
    · rw [List.mem_singleton.mp isFeed]
      decide
  next => exact free

theorem isSymbolFree_of_all {holds : Char → Bool}
    (noAmpersand : holds '&' = false) (noBar : holds '|' = false)
    {text : Text} (all : text.all holds = true) :
    isSymbolFree text = true := by
  rw [isSymbolFree_iff]
  intro character member
  exact isSymbolPart_eq_false noAmpersand noBar
    (List.all_eq_true.mp all character member)

theorem isSymbolFree_of_accepted {grammar : Grammar} {value : Text}
    {sign : Option Text} (notText : grammar ≠ .text)
    (choices : ∀ name values, grammar = .choice name values →
      ∀ word ∈ values, isSymbolFree word = true)
    (accepted : (grammar.check value sign).errors = []) :
    isSymbolFree value = true := by
  by_cases isChoice : ∃ name values, grammar = .choice name values
  · obtain ⟨name, values, rfl⟩ := isChoice
    have member := mem_of_checkWord (List.append_eq_nil_iff.mp accepted).2
    exact Text.isSymbolFree_of_lower (choices name values rfl _ member)
  · have marked := isLineMarked_of_accepted notText
      (fun name values choice => isChoice ⟨name, values, choice⟩) accepted
    apply isSymbolFree_of_line
    rw [isSymbolFree_iff]
    exact marked.eq_false (fun _ => Text.isSteady_of_isSymbolPart)
      fun _ => isSymbolPart_eq_false (by decide) (by decide)

end Grammar

theorem Operator.isSymbolFree_of_choice {operator : Operator}
    (member : operator ∈ Operator.standard) {name : Text} {values : List Text}
    (choice : operator.grammar = .choice name values) :
    ∀ word ∈ values, isSymbolFree word = true := by
  have free : ∀ operator ∈ Operator.standard,
      (match operator.grammar with
        | .choice _ values => values.all isSymbolFree
        | _ => true) = true := by
    decide
  have ofOperator := free operator member
  rw [choice] at ofOperator
  exact List.all_eq_true.mp ofOperator

theorem Registry.mem_of_get? {registry : Registry} {name : Text}
    {operator : Operator} (found : registry.get? name = some operator) :
    operator ∈ registry.operators :=
  List.mem_of_find?_eq_some found

/-- If the standard registry accepts a value, it also accepts what stands
before the first symbol in it, unless nothing does. -/
theorem Registry.accepts_spanRun {name value : Text}
    {comparison : Option Comparison}
    (accepted : standard.accepts name value comparison = true)
    (inside : ∀ character ∈ value, endsRun character = false)
    (some : (spanRun value).1 ≠ []) :
    standard.accepts name (spanRun value).1 comparison = true := by
  obtain ⟨operator, found, nonempty, ordering, clean⟩ :=
    accepts_iff.mp accepted
  refine accepts_iff.mpr ⟨operator, found, some, ordering, ?_⟩
  by_cases free : operator.grammar = .text
  · rw [free] at clean ⊢
    exact clean
  · have symbolFree := Grammar.isSymbolFree_of_accepted free
      (fun _ _ choice => Operator.isSymbolFree_of_choice (mem_of_get? found)
        choice) clean
    rw [spanRun_eq_self inside (isSymbolFree_iff.mp symbolFree)]
    exact clean

end CardQuery
