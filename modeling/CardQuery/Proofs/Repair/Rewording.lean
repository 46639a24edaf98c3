import CardQuery.Proofs.Operator.Blame
import CardQuery.Proofs.Repair.Offer
import CardQuery.Proofs.Repair.Removal
import CardQuery.Proofs.Search.Heading

/-!
# Rewording the head of a condition and the symbol of a connective

The fixes read the head of a condition again at the place of the finding, and
there it is read as it was in the query, because a condition is written as its
head and its value.  They replace a part of the head, so that another head
stands in front of the same value: nothing but this condition changes.

A symbol that is spelled out becomes a word, which must not touch another run.
The fix puts a blank on each side where something touches it.
-/

namespace CardQuery

theorem Edit.replaceSpan_middle {before middle after : Text}
    {start stop : Nat} (isStart : start = before.length)
    (isStop : stop = start + middle.length) (replacement : Text) :
    replaceSpan (before ++ (middle ++ after)) start stop replacement =
      before ++ (replacement ++ after) := by
  have taken : (before ++ (middle ++ after)).take before.length = before :=
    List.take_left
  have dropped : (before ++ (middle ++ after)).drop
      (before ++ middle).length = after := by
    rw [← List.append_assoc, List.drop_left]
  rw [replaceSpan, isStop, isStart, ← List.length_append, taken, dropped,
    List.append_assoc]

namespace Head

private theorem exists_hyphen (head : Head) :
    ∃ hyphen : Text, hyphen.length = (if head.negated then 1 else 0) ∧
      ∀ name comparison, text { head with name, comparison } =
        hyphen ++ (name ++ Comparison.separator comparison) := by
  refine ⟨if head.negated then ['-'] else [], ?_, fun name comparison => ?_⟩
  · split <;> rfl
  · rw [text, List.append_assoc]

/-- The head that says with a colon what another one says. -/
def withColon (head : Head) : Head where
  negated := if head.comparison = some .ne then !head.negated else head.negated
  name := head.name
  comparison := none

end Head

namespace Fix

/-- The finding is at a head, which is read back from the query. -/
structure Setting.AtHead (setting : Setting) (front : Text) (head : Head)
    (behind : Text) : Prop where
  isQuery : setting.query = front ++ (head.text ++ behind)
  isPosition : setting.span.position = front.length
  isRead : Head.read? (head.text ++ behind) = some (head, behind)

namespace Setting.AtHead

variable {setting : Setting} {front behind : Text} {head : Head}
  {fix : Suggestion}

theorem headStart (atHead : setting.AtHead front head behind) :
    setting.headStart = front.length := by
  rw [Setting.headStart, atHead.isPosition, Int.toNat_natCast]

theorem head? (atHead : setting.AtHead front head behind) :
    setting.head? = some head := by
  rw [Setting.head?, atHead.headStart, atHead.isQuery, List.drop_left,
    atHead.isRead]
  rfl

private theorem renameOperator (atHead : setting.AtHead front head behind)
    (fixed : renameOperator setting = some fix) :
    ∃ correction, setting.corrections.head? = some correction ∧
      fix.query = front ++ ({ head with name := correction }.text ++ behind) := by
  cases first : setting.corrections.head? with
  | none => simp [Fix.renameOperator, first] at fixed
  | some correction =>
      simp only [Fix.renameOperator, first, atHead.head?, Option.bind_eq_bind,
        Option.bind_some, Option.pure_def, Option.some.injEq] at fixed
      refine ⟨correction, rfl, ?_⟩
      obtain ⟨hyphen, length, isText⟩ := head.exists_hyphen
      have old := isText head.name head.comparison
      have isQuery : setting.query = (front ++ hyphen) ++
          (head.name ++ (Comparison.separator head.comparison ++ behind)) := by
        rw [atHead.isQuery, old]
        simp
      have start : setting.nameStart head = (front ++ hyphen).length := by
        rw [Setting.nameStart, atHead.headStart, List.length_append, length]
      rw [← fixed, isText correction head.comparison, isQuery]
      dsimp only
      rw [Edit.replaceSpan_middle start rfl]
      simp

private theorem useColon (atHead : setting.AtHead front head behind)
    (fixed : useColon setting = some fix) :
    fix.query = front ++ ({ head with comparison := none }.text ++ behind) := by
  simp only [Fix.useColon, atHead.head?, Option.bind_eq_bind,
    Option.bind_some, Option.pure_def, Option.some.injEq] at fixed
  obtain ⟨hyphen, length, isText⟩ := head.exists_hyphen
  have old := isText head.name head.comparison
  have isQuery : setting.query = (front ++ hyphen ++ head.name) ++
      (Comparison.separator head.comparison ++ behind) := by
    rw [atHead.isQuery, old]
    simp
  have stop : setting.valueStart head = (front ++ hyphen ++ head.name).length +
      (Comparison.separator head.comparison).length := by
    rw [Setting.valueStart, atHead.headStart, old]
    simp only [List.length_append, Nat.add_assoc]
  have start : setting.valueStart head -
      (Comparison.separator head.comparison).length =
        (front ++ hyphen ++ head.name).length := by
    rw [stop, Nat.add_sub_cancel]
  rw [← fixed, isText head.name none, isQuery]
  dsimp only [likely]
  rw [Edit.replaceSpan_middle start (by rw [start, stop])]
  simp [Comparison.separator]

private theorem useNegation (atHead : setting.AtHead front head behind)
    (fixed : useNegation setting = some fix) :
    fix.query = front ++ (head.withColon.text ++ behind) := by
  have replaced (replacement : Text) :
      Edit.replaceSpan setting.query setting.headStart
        (setting.valueStart head) replacement =
          front ++ (replacement ++ behind) := by
    rw [atHead.isQuery]
    exact Edit.replaceSpan_middle atHead.headStart rfl replacement
  simp only [Fix.useNegation, atHead.head?, Option.bind_eq_bind,
    Option.bind_some, replaced, Option.pure_def] at fixed
  split at fixed
  next inequality =>
    split at fixed
    next negated =>
      rw [← Option.some.inj fixed]
      simp [likely, Head.withColon, inequality, negated, Head.text,
        Comparison.separator]
    next plain =>
      rw [← Option.some.inj fixed]
      simp [likely, Head.withColon, inequality, plain, Head.text,
        Comparison.separator]
  next other =>
    rw [← Option.some.inj fixed]
    cases negated : head.negated <;>
      simp [likely, Head.withColon, other, negated, Head.text,
        Comparison.separator]

end Setting.AtHead

/-- What is put between a word and a character that it would touch. -/
def gap (neighbour : Option Char) : Text :=
  if neighbour.any (!Text.isBlank ·) then [' '] else []

private theorem query_of_spellConnective {front symbol rest : Text}
    {corrections : List Text} {openings : Nat} {fix : Suggestion}
    (fixed : spellConnective ⟨front ++ (symbol ++ rest),
      ⟨front.length, symbol.length⟩, corrections, openings⟩ = some fix) :
    ∃ name, symbolName? symbol = some name ∧
      fix.query = front ++
        (gap front.getLast? ++ name ++ gap rest.head? ++ rest) := by
  have marked : Setting.marked ⟨front ++ (symbol ++ rest),
      ⟨front.length, symbol.length⟩, corrections, openings⟩ = symbol :=
    Text.slice_middle rfl rfl
  have start : Text.offset (front ++ (symbol ++ rest)).length front.length =
      front.length := by
    rw [Text.offset_natCast, List.length_append]
    exact Nat.min_eq_left (Nat.le_add_right _ _)
  have stop : Text.offset (front ++ (symbol ++ rest)).length
      (front.length + symbol.length) = (front ++ symbol).length := by
    rw [← Nat.cast_add, Text.offset_natCast]
    simp only [List.length_append]
    omega
  have behind : (front ++ (symbol ++ rest)).drop (front ++ symbol).length =
      rest := by
    rw [← List.append_assoc, List.drop_left]
  have before : ((0 : Int) < front.length &&
      front.getLast?.any (!Text.isBlank ·)) =
        front.getLast?.any (!Text.isBlank ·) := by
    cases front <;> simp
  cases named : symbolName? symbol with
  | none => simp [spellConnective, marked, named] at fixed
  | some name =>
      simp only [spellConnective, marked, named, Setting.offset, Span.stop,
        start, stop, behind, before, List.take_left, Option.bind_eq_bind,
        Option.bind_some, Option.pure_def, Option.some.injEq] at fixed
      refine ⟨name, rfl, ?_⟩
      rw [← fixed]
      dsimp only
      rw [Edit.replaceSpan_middle rfl List.length_append]
      simp [gap]

end Fix

theorem Token.IsWritten.atHead {token : Token} {query : Text}
    {asked : Condition} {front back : List Lexeme} {written : Text}
    (place : token.IsWritten query asked front written back)
    (corrections : List Text) (openings : Nat) :
    Fix.Setting.AtHead ⟨query, token.span, corrections, openings⟩
      (Lexeme.joined front) asked.toHead (written ++ Lexeme.joined back) where
  isQuery := place.isQuery
  isPosition := congrArg Nat.cast place.position
  isRead := place.read?_head

namespace Lexeme

private theorem counted_name (joining : Connective) :
    counted joining.name = [⟨.connective joining, joining.name⟩] := by
  cases joining <;> decide +kernel

private theorem isBalanced_name (joining : Connective) :
    Quotation.IsBalanced joining.name := by
  apply Quotation.isBalanced_of_noQuote
  cases joining <;> decide

private theorem isBlank_of_not_any {neighbour : Option Char}
    (apart : ¬ neighbour.any (!Text.isBlank ·) = true) :
    ∀ next ∈ neighbour, Text.isBlank next = true := by
  rintro next rfl
  simpa using apart

private theorem counted_spelled {front : Text}
    (balanced : Quotation.IsBalanced front)
    (joining : Connective) (rest : Text) :
    counted (front ++ (Fix.gap front.getLast? ++ joining.name ++
        Fix.gap rest.head? ++ rest)) =
      counted front ++ ⟨.connective joining, joining.name⟩ :: counted rest := by
  have separates : Separates (Fix.gap rest.head? ++ rest) ∧
      counted (Fix.gap rest.head? ++ rest) = counted rest := by
    unfold Fix.gap
    split
    · exact ⟨separates_blank rest, counted_blank rest⟩
    next apart =>
      exact ⟨separates_of_blank (isBlank_of_not_any apart), rfl⟩
  have spelled : counted (joining.name ++ (Fix.gap rest.head? ++ rest)) =
      ⟨.connective joining, joining.name⟩ :: counted rest := by
    rw [counted_append (isBalanced_name joining) separates.1, separates.2,
      counted_name]
    rfl
  rw [← spelled, List.append_assoc, List.append_assoc]
  generalize joining.name ++ (Fix.gap rest.head? ++ rest) = behind
  unfold Fix.gap
  split
  · rw [List.singleton_append, counted_append balanced (separates_blank behind),
      counted_blank]
  next apart =>
    rw [List.nil_append,
      counted_append_of_blank balanced (isBlank_of_not_any apart)]

end Lexeme

/-- What the fix for a finding puts in the place of the lexeme that the finding
is about. -/
inductive Finding.Rewords (finding : Finding) (registry : Registry) :
    (old new : Lexeme) → Prop where
  | name {asked : Condition} {written correction : Text} :
      finding.code = .unknownOperator →
      finding.corrections.head? = some correction →
      registry.contains correction = true →
      Rewords finding registry
        ⟨.condition asked, asked.toHead.text ++ written⟩
        ⟨.condition { asked with name := correction },
          { asked.toHead with name := correction }.text ++ written⟩
  | comparison {asked : Condition} {written : Text} :
      finding.code = .comparisonNotSupported →
      Rewords finding registry
        ⟨.condition asked, asked.toHead.text ++ written⟩
        ⟨.condition { asked with comparison := none },
          { asked.toHead with comparison := none }.text ++ written⟩
  | negation {asked : Condition} {written : Text} :
      finding.code = .comparisonNotAllowed →
      Rewords finding registry
        ⟨.condition asked, asked.toHead.text ++ written⟩
        ⟨.condition { asked with toHead := asked.toHead.withColon },
          asked.toHead.withColon.text ++ written⟩
  | connective {joining : Connective} {symbol : Text} :
      finding.code = .symbolicConnective →
      Fix.symbolName? symbol = some joining.name →
      Rewords finding registry ⟨.word, symbol⟩
        ⟨.connective joining, joining.name⟩

private theorem Fix.exists_connective_of_symbolName? {symbol name : Text}
    (isName : symbolName? symbol = some name) :
    ∃ joining : Connective, name = joining.name := by
  unfold symbolName? at isName
  split at isName
  · exact ⟨.and, (Option.some.inj isName).symm⟩
  · split at isName
    · exact ⟨.or, (Option.some.inj isName).symm⟩
    · cases isName

namespace Validator

variable {validator : Validator} {query : Text} {finding : Finding}
  {fix : Suggestion}

/-- The fix rewords the token that the finding is about, and no other token that
counts changes. -/
def RewordsOne (registry : Registry) (query : Text) (finding : Finding)
    (fix : Suggestion) : Prop :=
  ∃ before token after new,
    Token.meaningful (Token.read query) = before ++ token :: after ∧
    finding.span = some token.span ∧
    finding.Rewords registry token.toLexeme new ∧
    (Token.meaningful (Token.read fix.query)).map Token.toLexeme =
      before.map Token.toLexeme ++ new :: after.map Token.toLexeme

private theorem rewordsOne_of_condition
    (named : ∀ name ∈ validator.registry.names, Head.isName name = true)
    (fixes : validator.Fixes query finding fix)
    (about : finding.code ∈ [.unknownOperator, .comparisonNotSupported,
      .comparisonNotAllowed]) :
    RewordsOne validator.registry query finding fix := by
  have isFrom : finding.code.origin = .conditions := by
    simp only [List.mem_cons, List.not_mem_nil, or_false] at about
    rcases about with code | code | code <;> rw [code] <;> rfl
  obtain ⟨token, isToken, asked, blames⟩ :=
    exists_blamed fixes.found (Or.inl isFrom)
  obtain ⟨before, after, front, written, back, split, isBefore, isAfter,
    place⟩ := Token.exists_isWritten isToken blames.isCondition
  obtain ⟨openings, isFix⟩ := fixes.exists_openings blames.span
  have atHead := place.atHead finding.corrections openings
  have reworded (head : Head) (isName : Head.isName head.name = true)
      (same : head.comparison = none ∨ head.comparison = asked.comparison)
      (isQuery : fix.query = Lexeme.joined front ++
        (head.text ++ (written ++ Lexeme.joined back)))
      (rewords : finding.Rewords validator.registry
        ⟨.condition asked, asked.toHead.text ++ written⟩
        ⟨.condition { asked with toHead := head }, head.text ++ written⟩) :
      RewordsOne validator.registry query finding fix := by
    refine ⟨before, token, after, _, split, blames.span,
      place.toLexeme_eq ▸ rewords, ?_⟩
    rw [Token.map_toLexeme_meaningful_read, isQuery,
      place.counted_withHead isName same, isBefore, isAfter]
  simp only [List.mem_cons, List.not_mem_nil, or_false] at about
  rcases about with code | code | code
  · rw [code] at isFix
    obtain ⟨correction, first, isQuery⟩ :=
      atHead.renameOperator (Except.ok.inj isFix)
    have isName := blames.names code correction (List.mem_of_mem_head? first)
    exact reworded { asked.toHead with name := correction }
      (named correction isName) (Or.inr rfl) isQuery
      (.name code first (Registry.contains_of_mem_names isName))
  · rw [code] at isFix
    exact reworded { asked.toHead with comparison := none } place.named
      (Or.inl rfl) (atHead.useColon (Except.ok.inj isFix)) (.comparison code)
  · rw [code] at isFix
    exact reworded asked.toHead.withColon place.named
      (Or.inl rfl) (atHead.useNegation (Except.ok.inj isFix)) (.negation code)

private theorem rewordsOne_of_symbol (fixes : validator.Fixes query finding fix)
    (about : finding.code = .symbolicConnective) :
    RewordsOne validator.registry query finding fix := by
  obtain ⟨token, isToken, name, isWord, isName, span⟩ :=
    exists_symbol fixes.found about
  obtain ⟨before, after, front, back, split, scanned, position, isBefore,
    isAfter⟩ := Token.exists_lexemes_of_mem isToken
  obtain ⟨openings, isFix⟩ := fixes.exists_openings span
  obtain ⟨balanced, isFront⟩ :=
    Lexeme.counted_joined_of_followed scanned (by simp)
  have isSpan : token.span =
      ⟨(Lexeme.joined front).length, token.text.length⟩ := by
    rw [← position]
    rfl
  have isQuery : query =
      Lexeme.joined front ++ (token.text ++ Lexeme.joined back) := by
    rw [← Lexeme.joined_scan query, scanned]
    simp
  rw [about, isSpan, isQuery] at isFix
  obtain ⟨spelled, isSpelled, spells⟩ :=
    Fix.query_of_spellConnective (Except.ok.inj isFix)
  obtain ⟨joining, rfl⟩ := Fix.exists_connective_of_symbolName? isSpelled
  refine ⟨before, token, after, ⟨.connective joining, joining.name⟩, split,
    span, ?_, ?_⟩
  · have isLexeme : token.toLexeme = ⟨.word, token.text⟩ := by
      rw [← isWord]
    rw [isLexeme]
    exact .connective about isSpelled
  · rw [Token.map_toLexeme_meaningful_read, spells,
      Lexeme.counted_spelled balanced, isFront,
      Lexeme.counted_joined_behind scanned, isBefore, isAfter]

/-- What is suggested for a head or a symbol rewords the token that the finding
is about: the first correction, which is known, stands for the name, a colon for
the comparison, a negation for an inequality, and a connective for its symbol.
All other tokens that count stay what they are. -/
theorem rewording_changes_flagged {settings : Settings} {query : Text}
    {finding : Finding} {fix : Suggestion}
    (fixes : (make Registry.standard settings).Fixes query finding fix)
    (about : finding.code ∈ [.unknownOperator, .comparisonNotSupported,
      .comparisonNotAllowed, .symbolicConnective]) :
    RewordsOne Registry.standard query finding fix := by
  have isStandard := @make_registry Registry.standard (by decide) settings
  have named := Registry.standard_names_isName
  rw [← isStandard] at named ⊢
  by_cases symbol : finding.code = .symbolicConnective
  · exact rewordsOne_of_symbol fixes symbol
  · refine rewordsOne_of_condition named fixes ?_
    simp_all

/-- The comparison gives way to a colon in a condition that touches a symbol and
a phrase. -/
theorem rewording_changes_flagged_between_neighbours :
    ∃ finding fix, standard.Fixes "pow:3&&-t>=elf\"x\"" finding fix ∧
      finding.code = .comparisonNotSupported ∧
      fix.query = "pow:3&&-t:elf\"x\"" ∧
      RewordsOne Registry.standard "pow:3&&-t>=elf\"x\"" finding fix := by
  have fixes : standard.Fixes "pow:3&&-t>=elf\"x\""
      ⟨.comparisonNotSupported,
        "Operator 't' does not support comparison '>='; use ':'",
        some ⟨7, 7⟩, []⟩
      (Fix.likely "Operator 't' does not support '>='; use ':'"
        "pow:3&&-t:elf\"x\"") :=
    ⟨by decide +kernel, by decide +kernel⟩
  exact ⟨_, _, fixes, rfl, rfl, rewording_changes_flagged fixes (by decide)⟩

end Validator

end CardQuery
