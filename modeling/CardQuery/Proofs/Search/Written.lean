import CardQuery.Proofs.Search.Faultless
import CardQuery.Proofs.Search.Run
import Mathlib.Tactic.Tauto

/-!
# Reading what is written

A query that is put together from conditions, brackets and connectives is read
back as these.  The lemmas take one part off the front of a text; the forms of
the text are the form of the part and the forms of what follows.

A condition is read back whole only if its value is quoted.  A bare value ends
before the first symbol in it, and what follows is read on its own.
-/

namespace CardQuery

namespace Lexeme

/-- The forms that count among the lexemes of a text. -/
def forms (text : Text) : List Form :=
  ((scan text).map (·.form)).filter Form.isMeaningful

@[simp] theorem forms_nil : forms [] = [] := by
  simp [forms, scan]

theorem forms_cons (first : Char) (rest : Text) :
    forms (first :: rest) =
      (if (next first rest).1.form.isMeaningful
        then (next first rest).1.form :: forms (next first rest).2
        else forms (next first rest).2) := by
  rw [forms, scan, List.map_cons, List.filter_cons]
  rfl

theorem forms_append {text rest : Text}
    (inside : ∀ character ∈ text, endsRun character = false)
    (stop : ∀ next ∈ rest.head?, endsRun next = true ∧ next ≠ '"') :
    forms (text ++ rest) = forms text ++ forms rest := by
  rw [forms, scan_append inside stop, List.map_append, List.filter_append]
  rfl

private theorem forms_dropBlanks (text : Text) :
    forms (text.dropWhile Text.isBlank) = forms text := by
  cases text with
  | nil => rfl
  | cons first rest =>
      cases blank : Text.isBlank first with
      | true => simp [forms_cons, next, blank, Form.isMeaningful]
      | false => simp [blank]

theorem forms_blank (rest : Text) : forms (' ' :: rest) = forms rest := by
  rw [← forms_dropBlanks (' ' :: rest), ← forms_dropBlanks rest,
    List.dropWhile_cons_of_pos (by decide)]

theorem forms_opening (rest : Text) :
    forms ('(' :: rest) = .bracket true :: forms rest := by
  have opening : next '(' rest = (⟨.bracket true, ['(']⟩, rest) := by
    simp [next, show Text.isBlank '(' = false by decide]
  simp [forms_cons, opening, Form.isMeaningful]

theorem forms_closing (rest : Text) :
    forms (')' :: rest) = .bracket false :: forms rest := by
  have closing : next ')' rest = (⟨.bracket false, [')']⟩, rest) := by
    simp [next, show Text.isBlank ')' = false by decide]
  simp [forms_cons, closing, Form.isMeaningful]

theorem next_eq_ofRun {first : Char} {rest run later : Text}
    (starts : endsRun first = false)
    (isRun : readRun (first :: rest) = (run, later)) :
    next first rest = ofRun run later := by
  simp_all [next, endsRun]

end Lexeme

/-- The forms of a query that count are those of its lexemes. -/
theorem Structure.meaningfulForms_read (query : Text) :
    meaningfulForms (Token.read query) = Lexeme.forms query := by
  rw [Token.read, Lexeme.forms]
  generalize Lexeme.scan query = lexemes
  generalize 0 = start
  induction lexemes generalizing start with
  | nil => rfl
  | cons first rest ih =>
      have later := ih (start + first.text.length)
      rw [meaningfulForms, Token.meaningful] at later ⊢
      rw [Lexeme.place, List.filter_cons, List.map_cons, List.filter_cons,
        ← later]
      cases counts : first.form.isMeaningful <;>
        simp [Token.isMeaningful, counts]

theorem Structure.mem_meaningfulForms_iff {tokens : List Token} {form : Form}
    (counts : form.isMeaningful = true) :
    form ∈ meaningfulForms tokens ↔ ∃ token ∈ tokens, token.form = form := by
  simp only [meaningfulForms, forms, Token.meaningful, List.mem_map,
    List.mem_filter, Token.isMeaningful]
  constructor
  · rintro ⟨token, ⟨member, _⟩, rfl⟩
    exact ⟨token, member, rfl⟩
  · rintro ⟨token, member, rfl⟩
    exact ⟨token, ⟨member, counts⟩, rfl⟩

namespace Head

/-- Whether the text can be the name of an operator. -/
def isName : Text → Bool
  | [] => false
  | first :: rest => isNameStart first && rest.all isNamePart

/-- Whether the character can begin what separates a name from its value. -/
def beginsSeparator (character : Char) : Bool :=
  ":<>=!".toList.contains character

private theorem isNamePart_of_isNameStart {character : Char}
    (start : isNameStart character = true) : isNamePart character = true := by
  simp only [isNameStart, isNamePart, Char.isAlphanum, Bool.or_eq_true] at *
  tauto

theorem isNamePart_of_mem {name : Text} (named : isName name = true)
    {character : Char} (member : character ∈ name) :
    isNamePart character = true := by
  cases name with
  | nil => cases member
  | cons first rest =>
      rw [isName, Bool.and_eq_true, List.all_eq_true] at named
      rcases List.mem_cons.mp member with rfl | inRest
      · exact isNamePart_of_isNameStart named.1
      · exact named.2 character inRest

private theorem toNat_bounds {low high character : Char}
    (between : (decide (low.val ≤ character.val) &&
      decide (character.val ≤ high.val)) = true) :
    low.toNat ≤ character.toNat ∧ character.toNat ≤ high.toNat := by
  simpa [UInt32.le_iff_toNat_le] using between

private theorem isNamePart_bounds {character : Char}
    (part : isNamePart character = true) :
    48 ≤ character.toNat ∧ character.toNat ≤ 57 ∨
      65 ≤ character.toNat ∧ character.toNat ≤ 90 ∨
      character.toNat = 95 ∨
      97 ≤ character.toNat ∧ character.toNat ≤ 122 := by
  rcases Bool.or_eq_true_iff.mp part with alphanumeric | underscore
  · rcases Bool.or_eq_true_iff.mp alphanumeric with letter | digit
    · rcases Bool.or_eq_true_iff.mp letter with upper | lower
      · have bounds : 'A'.val ≤ character.val ∧ character.val ≤ 'Z'.val :=
          of_decide_eq_true upper
        exact Or.inr (Or.inl bounds)
      · exact Or.inr (Or.inr (Or.inr (toNat_bounds lower)))
    · exact Or.inl (toNat_bounds digit)
  · rw [beq_iff_eq.mp underscore]
    decide

theorem endsRun_of_isNamePart {character : Char}
    (part : isNamePart character = true) :
    Lexeme.endsRun character = false := by
  rw [Bool.eq_false_iff]
  intro ends
  simp only [Lexeme.endsRun, Bool.or_eq_true, beq_iff_eq] at ends
  rcases ends with ((blank | rfl) | rfl) | rfl
  · have bounds := isNamePart_bounds part
    simp only [Text.isBlank, Text.inRanges, Text.whiteSpaceRanges,
      List.any_cons, List.any_nil, Bool.or_false, Bool.or_eq_true,
      Bool.and_eq_true, decide_eq_true_eq] at blank
    omega
  · exact absurd part (by decide)
  · exact absurd part (by decide)
  · exact absurd part (by decide)

theorem isSymbolPart_of_isNamePart {character : Char}
    (part : isNamePart character = true) :
    Lexeme.isSymbolPart character = false := by
  rw [Bool.eq_false_iff]
  intro symbol
  simp only [Lexeme.isSymbolPart, Bool.or_eq_true, beq_iff_eq] at symbol
  rcases symbol with rfl | rfl
  · exact absurd part (by decide)
  · exact absurd part (by decide)

private theorem mem_separators_iff {character : Char} :
    beginsSeparator character = true ↔ character = ':' ∨ character = '<' ∨
      character = '>' ∨ character = '=' ∨ character = '!' := by
  simp [beginsSeparator]

theorem separator_eq_cons (comparison : Option Comparison) :
    ∃ first rest, Comparison.separator comparison = first :: rest ∧
      beginsSeparator first = true ∧ rest.all (· == '=') = true := by
  rcases comparison with _ | comparison
  · exact ⟨':', [], rfl, rfl, rfl⟩
  · cases comparison
    · exact ⟨'<', [], rfl, rfl, rfl⟩
    · exact ⟨'<', ['='], rfl, rfl, rfl⟩
    · exact ⟨'>', [], rfl, rfl, rfl⟩
    · exact ⟨'>', ['='], rfl, rfl, rfl⟩
    · exact ⟨'=', [], rfl, rfl, rfl⟩
    · exact ⟨'!', ['='], rfl, rfl, rfl⟩

theorem text_bounds {head : Head} (named : isName head.name = true)
    {character : Char} (member : character ∈ head.text) :
    Lexeme.endsRun character = false ∧
      Lexeme.isSymbolPart character = false := by
  rw [text, List.mem_append, List.mem_append] at member
  rcases member with (negation | inName) | inSeparator
  · rw [List.mem_ite_nil_right, List.mem_singleton] at negation
    rw [negation.2]
    decide
  · have part := isNamePart_of_mem named inName
    exact ⟨endsRun_of_isNamePart part, isSymbolPart_of_isNamePart part⟩
  · obtain ⟨first, rest, split, begins, equals⟩ :=
      separator_eq_cons head.comparison
    rw [split] at inSeparator
    rcases List.mem_cons.mp inSeparator with rfl | inRest
    · rcases mem_separators_iff.mp begins with
        rfl | rfl | rfl | rfl | rfl <;> decide
    · have isEquals := List.all_eq_true.mp equals character inRest
      rw [beq_iff_eq.mp isEquals]
      decide

private theorem exists_separator (head : Head) :
    ∃ character ∈ head.text, beginsSeparator character = true := by
  obtain ⟨first, rest, split, begins, _⟩ := separator_eq_cons head.comparison
  exact ⟨first, by simp [text, split], begins⟩

end Head

/-- In front of the value the separator is read back as it is. -/
def Comparison.Keeps (comparison : Option Comparison) (value : Text) : Prop :=
  read? (separator comparison ++ value) = some (comparison, value)

namespace Comparison

theorem keeps_none (value : Text) : Keeps none value := rfl

theorem keeps_of_noEquals (comparison : Option Comparison) {value : Text}
    (noEquals : '=' ∉ value.head?) : Keeps comparison value := by
  have notEquals : ∀ rest, value ≠ '=' :: rest := by
    rintro rest rfl
    exact noEquals rfl
  rcases comparison with _ | comparison
  · rfl
  · cases comparison <;> simp [Keeps, separator, symbol, read?]

theorem Keeps.of_head? {comparison : Option Comparison} {value other : Text}
    (keeps : Keeps comparison value)
    (same : '=' ∈ other.head? → '=' ∈ value.head?) :
    Keeps comparison other := by
  by_cases equals : '=' ∈ other.head?
  · obtain ⟨more, rfl⟩ := List.head?_eq_some_iff.mp equals
    obtain ⟨rest, rfl⟩ := List.head?_eq_some_iff.mp (same equals)
    rcases comparison with _ | comparison
    · rfl
    · cases comparison <;> simp_all [Keeps, separator, symbol, read?]
  · exact keeps_of_noEquals comparison equals

end Comparison

namespace Head

private theorem read?_text_eq {head : Head} (named : isName head.name = true)
    (value : Text) :
    read? (head.text ++ value) =
      (Comparison.read? (Comparison.separator head.comparison ++ value)).map
        fun (comparison, later) => ({ head with comparison }, later) := by
  obtain ⟨negated, name, comparison⟩ := head
  cases name with
  | nil => simp [isName] at named
  | cons first rest =>
      simp only [isName, Bool.and_eq_true, List.all_eq_true] at named
      obtain ⟨starts, parts⟩ := named
      obtain ⟨sign, signs, split, begins, _⟩ := separator_eq_cons comparison
      have outside : isNamePart sign = false := by
        rcases mem_separators_iff.mp begins with
          rfl | rfl | rfl | rfl | rfl <;> decide
      have passed :
          (rest ++ (Comparison.separator comparison ++ value)).dropWhile
            isNamePart = Comparison.separator comparison ++ value := by
        rw [List.dropWhile_append_of_pos parts, split]
        simp [outside]
      have taken :
          (rest ++ (Comparison.separator comparison ++ value)).takeWhile
            isNamePart = rest := by
        rw [List.takeWhile_append_of_pos parts, split]
        simp [outside]
      have reads (negated : Bool) :
          readName? negated
              (first :: (rest ++ (Comparison.separator comparison ++ value))) =
            (Comparison.read? (Comparison.separator comparison ++ value)).map
              fun (comparison, later) =>
                (⟨negated, first :: rest, comparison⟩, later) := by
        rw [readName?, if_pos starts, passed, taken]
      cases negated with
      | true => simpa [text, read?] using reads true
      | false =>
          have noHyphen : first ≠ '-' := by
            rintro rfl
            exact absurd starts (by decide)
          have direct := reads false
          simp only [text, Bool.false_eq_true, if_false, List.nil_append,
            List.cons_append, List.append_assoc]
          rw [← direct]
          simp [read?, noHyphen]

/-- A head is read back with the text after it exactly if its separator is. -/
theorem read?_text_iff {head : Head} (named : isName head.name = true)
    {value : Text} :
    read? (head.text ++ value) = some (head, value) ↔
      Comparison.Keeps head.comparison value := by
  rw [read?_text_eq named, Comparison.Keeps]
  constructor
  · intro found
    obtain ⟨⟨comparison, later⟩, isRead, same⟩ :=
      Option.map_eq_some_iff.mp found
    obtain ⟨isHead, rfl⟩ := Prod.mk.inj same
    have isComparison : comparison = head.comparison :=
      congrArg Head.comparison isHead
    rw [isRead, isComparison]
  · intro isRead
    rw [isRead]
    rfl

/-- A head alone is read back. -/
theorem read?_text_alone {head : Head} (named : isName head.name = true) :
    read? head.text = some (head, []) := by
  simpa using (@read?_text_iff head named []).mpr
    (Comparison.keeps_of_noEquals _ (by simp))

end Head

private theorem Connective.ofWord?_eq_none {word : Text} {character : Char}
    (member : character ∈ word)
    (separates : Head.beginsSeparator character = true) :
    ofWord? word = none := by
  rw [ofWord?, List.find?_eq_none]
  intro connective _ same
  have capital : character.toUpper = character := by
    rcases Head.mem_separators_iff.mp separates with
      rfl | rfl | rfl | rfl | rfl <;> decide
  have inName : character ∈ connective.name := by
    rw [beq_iff_eq.mp same, ← capital]
    exact List.mem_map_of_mem member
  have outside : connective.name.all (!Head.beginsSeparator ·) = true := by
    cases connective <;> decide
  have plain := List.all_eq_true.mp outside character inName
  simp [separates] at plain

theorem Head.ofWord?_text_append (head : Head) (value : Text) :
    Connective.ofWord? (head.text ++ value) = none := by
  obtain ⟨character, member, separates⟩ := exists_separator head
  exact Connective.ofWord?_eq_none (List.mem_append_left value member) separates

theorem Head.ofWord?_text (head : Head) :
    Connective.ofWord? head.text = none := by
  simpa using head.ofWord?_text_append []

theorem Head.isBalanced_text {head : Head} (named : isName head.name = true) :
    Quotation.IsBalanced head.text :=
  Lexeme.isBalanced_of_inside fun _ member => (text_bounds named member).1

theorem Head.text_eq_cons {head : Head} (named : isName head.name = true) :
    ∃ first rest, head.text = first :: rest ∧
      Lexeme.endsRun first = false ∧ Lexeme.isSymbolPart first = false := by
  obtain ⟨separator, inText, _⟩ := exists_separator head
  cases split : head.text with
  | nil =>
      rw [split] at inText
      contradiction
  | cons first rest =>
      have inText : first ∈ head.text := by simp [split]
      exact ⟨first, rest, rfl, text_bounds named inText⟩

namespace Lexeme

/-- The run of a condition holds its head and what is before the first symbol
of the value. -/
theorem readRun_condition {head : Head} (named : Head.isName head.name = true)
    (value : Text) :
    readRun (head.text ++ value) =
      (head.text ++ (spanRun value).1, (spanRun value).2) := by
  have spanned := spanRun_append_of_plain
    (fun character member => (Head.text_bounds named member).1)
    (fun character member => (Head.text_bounds named member).2) value
  obtain ⟨first, rest, split, _, plain⟩ := Head.text_eq_cons named
  have noSymbol : startsSymbol (head.text ++ value) = false := by
    rw [split]
    exact startsSymbol_cons_of_plain plain (rest ++ value)
  rw [readRun, noSymbol, spanned]
  rfl

private theorem next_condition {head : Head}
    (named : Head.isName head.name = true)
    {value : Text} {first : Char} {rest : Text}
    (split : head.text ++ value = first :: rest) :
    next first rest =
      ofRun (head.text ++ (spanRun value).1) (spanRun value).2 := by
  obtain ⟨start, more, isStart, starts, _⟩ := Head.text_eq_cons named
  have same : start = first := by
    rw [isStart] at split
    exact (List.cons.inj split).1
  subst same
  exact next_eq_ofRun starts (split ▸ readRun_condition named value)

private theorem forms_of_next {text : Text} {form : Form} {written rest : Text}
    (nonempty : text ≠ [])
    (isNext : ∀ first later, text = first :: later →
      next first later = (⟨form, written⟩, rest))
    (counts : form.isMeaningful = true) :
    forms text = form :: forms rest := by
  cases text with
  | nil => contradiction
  | cons first later =>
      rw [forms_cons, isNext first later rfl]
      simp [counts]

theorem head_text_append_ne_nil {head : Head}
    (named : Head.isName head.name = true) (value : Text) :
    head.text ++ value ≠ [] := by
  obtain ⟨first, rest, split, _⟩ := Head.text_eq_cons named
  simp [split]

theorem ofRunAlone_condition {head : Head} {value : Text}
    (isHead : Head.read? (head.text ++ value) = some (head, value)) :
    ofRunAlone (head.text ++ value) =
      ⟨.condition { head with value, quoted := false }, head.text ++ value⟩ := by
  unfold ofRunAlone ofRun
  rw [Head.ofWord?_text_append, isHead]
  cases value <;> rfl

theorem forms_condition_bare {head : Head}
    (named : Head.isName head.name = true) {value : Text}
    (inside : ∀ character ∈ value, endsRun character = false)
    (noEquals : ∀ character ∈ value, character ≠ '=') :
    forms (head.text ++ value) =
      .condition { head with value := (spanRun value).1, quoted := false } ::
        forms (spanRun value).2 := by
  have whole := spanRun_append value
  have noQuote : ∀ next ∈ (spanRun value).2.head?, next ≠ '"' := by
    rintro next isNext rfl
    have member : '"' ∈ value := by
      rw [← whole]
      exact List.mem_append_right _ (List.mem_of_mem_head? isNext)
    exact absurd (inside '"' member) (by decide)
  have headRead : Head.read? (head.text ++ (spanRun value).1) =
      some (head, (spanRun value).1) := by
    apply (Head.read?_text_iff named).mpr (Comparison.keeps_of_noEquals _ _)
    intro equals
    refine noEquals '=' ?_ rfl
    rw [← whole]
    exact List.mem_append_left _ (List.mem_of_mem_head? equals)
  have alone := ofRunAlone_condition headRead
  apply forms_of_next (head_text_append_ne_nil named value)
  · intro first later split
    rw [next_condition named split, ofRun_eq_of_noQuote noQuote, alone]
  · rfl

theorem forms_condition_quoted {head : Head}
    (named : Head.isName head.name = true) (value rest : Text) :
    forms (head.text ++ (Edit.phrase value ++ rest)) =
      .condition { head with value, quoted := true } :: forms rest := by
  have spanned : spanRun (Edit.phrase value ++ rest) =
      ([], Edit.phrase value ++ rest) :=
    spanRun_eq_of_stop (by
      intro next isNext
      rw [← Option.some.inj isNext]
      decide)
  have phrase := PhraseRead.read_escaped value rest
  have isPhrase : Edit.phrase value ++ rest =
      '"' :: (value.flatMap Edit.escape ++ '"' :: rest) := by
    simp [Edit.phrase]
  have whole : ofRun head.text (Edit.phrase value ++ rest) =
      (⟨.condition { head with value, quoted := true },
        head.text ++ Edit.phrase value⟩, rest) := by
    rw [isPhrase]
    unfold ofRun
    simp only [Head.ofWord?_text, Head.read?_text_alone named, phrase]
    rfl
  apply forms_of_next (head_text_append_ne_nil named _)
  · intro first later split
    rw [next_condition named split, spanned, List.append_nil, whole]
  · rfl

end Lexeme

end CardQuery
