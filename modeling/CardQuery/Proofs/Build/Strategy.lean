import CardQuery.Build.Optimize
import CardQuery.Proofs.Mapping.Plain
import CardQuery.Proofs.Operator.Shape
import CardQuery.Proofs.Outcome

/-!
# Strategies keep queries valid

Each term that a strategy adds is written like a plain mapping.  A lowered
power is a decimal number again, and a widened card type stays free text, so
relaxing a plain mapping gives a plain mapping.  It never fails if the powers
can be read.
-/

namespace CardQuery

open Lexeme

private theorem Numeral.readSign_of_isDigit {text : Text}
    (digits : ∀ character ∈ text, Text.isDigit character = true) :
    Numeral.readSign text = (false, text) := by
  unfold readSign
  split
  next rest => exact absurd (digits '-' List.mem_cons_self) (by decide)
  next rest => exact absurd (digits '+' List.mem_cons_self) (by decide)
  next => rfl

private theorem Grammar.line_of_isDigit {text : Text}
    (digits : ∀ character ∈ text, Text.isDigit character = true) :
    Grammar.line text = text := by
  apply line_of_not_mem
  intro feed
  exact absurd (digits '\n' feed) (by decide)

private theorem Grammar.isPowerToughness_of_isDigit {text : Text}
    (some : text ≠ [])
    (digits : ∀ character ∈ text, Text.isDigit character = true) :
    Grammar.isPowerToughness text = true := by
  have all : text.takeWhile Text.isDigit = text :=
    List.takeWhile_eq_self_iff.mpr digits
  have none : text.dropWhile Text.isDigit = [] :=
    List.dropWhile_eq_nil_iff.mpr digits
  rw [isPowerToughness, Numeral.readSign_of_isDigit digits]
  simp [all, none, some]

namespace Mapping

private theorem isPlain_iff {mapping : Mapping} :
    mapping.IsPlain ↔
      (Head.isName mapping.operator = true ∧ mapping.terms ≠ [] ∧
        mapping.isAccepted Registry.standard = true) ∧
      mapping.value ≠ [] ∧
        ∀ term ∈ mapping.terms, isSymbolFree term.2 = true :=
  ⟨fun plain => ⟨⟨plain.named, plain.termed, plain.accepted⟩, plain.filled,
    plain.symbolFree⟩,
   fun ⟨⟨named, termed, accepted⟩, filled, free⟩ =>
    ⟨⟨named, termed, accepted⟩, filled, free⟩⟩

instance (mapping : Mapping) : Decidable mapping.IsPlain :=
  decidable_of_iff _ isPlain_iff.symm

theorem comparisons_eq_nil {mapping : Mapping} (termed : mapping.terms ≠ [])
    (noParts : mapping.parts = []) : mapping.comparisons = [] := by
  by_contra compared
  apply termed
  simp [terms, noParts, compared]

/-- A mapping with another value has other terms only if it has no parts. -/
theorem terms_withValue {mapping : Mapping} (termed : mapping.terms ≠ [])
    (value : Text) :
    { mapping with value }.terms = mapping.terms ∨
      { mapping with value }.terms = [(mapping.comparison, value)] := by
  by_cases noParts : mapping.parts = []
  · right
    have uncompared := comparisons_eq_nil termed noParts
    simp [terms, values, noParts, uncompared]
  · left
    simp [terms, values, noParts]

/-- A mapping is plain if each of its terms is accepted and holds no symbol. -/
theorem isPlain_of_terms {mapping : Mapping}
    (named : Head.isName mapping.operator = true)
    (termed : mapping.terms ≠ []) (filled : mapping.value ≠ [])
    (each : ∀ term ∈ mapping.terms,
      Registry.standard.accepts mapping.operator term.2 term.1 = true ∧
        isSymbolFree term.2 = true) :
    mapping.IsPlain where
  named := named
  termed := termed
  accepted := List.all_eq_true.mpr fun term isTerm => (each term isTerm).1
  filled := filled
  symbolFree := fun term isTerm => (each term isTerm).2

private theorem isPlain_withValue {mapping : Mapping} (plain : mapping.IsPlain)
    {value : Text} (filled : value ≠ [])
    (accepted : Registry.standard.accepts mapping.operator value
      mapping.comparison = true)
    (free : isSymbolFree value = true) :
    IsPlain { mapping with value } := by
  rcases terms_withValue plain.termed value with same | single
  · refine isPlain_of_terms ?_ ?_ filled ?_
    · exact plain.named
    · rw [same]
      exact plain.termed
    · rw [same]
      intro term isTerm
      exact ⟨accepts_of_isAccepted plain.accepted isTerm,
        plain.symbolFree term isTerm⟩
  · refine isPlain_of_terms ?_ ?_ filled ?_
    · exact plain.named
    · rw [single]
      exact List.cons_ne_nil _ _
    · rw [single]
      exact List.forall_mem_singleton.mpr ⟨accepted, free⟩

theorem join_cons_ne_nil {first : Text} (filled : first ≠ [])
    (rest : List Text) : Joiner.or.join (first :: rest) ≠ [] := by
  cases rest with
  | nil => simpa [Joiner.join, Text.join, List.intercalate] using filled
  | cons second rest =>
      exact join_ne_nil .or (List.cons_ne_nil _ _) (by simp)

/-- A plain mapping whose power, if it is on one, can be read. -/
structure IsRelaxable (mapping : Mapping) : Prop extends IsPlain mapping where
  power : mapping.operator = "pow".toList →
    ∃ number, readNumber mapping.value = .ok number

end Mapping

open Mapping

/-- A term that is written like a plain mapping. -/
def IsPlainTerm (term : Text) : Prop :=
  ∃ mapping : Mapping, mapping.IsPlain ∧ mapping.written = term

private theorem exists_written_eq {terms : List Text}
    (plain : ∀ term ∈ terms, IsPlainTerm term) :
    ∃ mappings : List Mapping, (∀ mapping ∈ mappings, mapping.IsPlain) ∧
      mappings.map written = terms := by
  induction terms with
  | nil => exact ⟨[], by simp, rfl⟩
  | cons first rest ih =>
      obtain ⟨mapping, isPlain, rfl⟩ := plain first List.mem_cons_self
      obtain ⟨mappings, arePlain, rfl⟩ := ih fun term member =>
        plain term (List.mem_cons_of_mem _ member)
      exact ⟨mapping :: mappings,
        List.forall_mem_cons.mpr ⟨isPlain, arePlain⟩, rfl⟩

/-- Mappings and terms of which a valid query is made. -/
structure Optimized.IsPlain (optimized : Optimized) : Prop where
  mappings : ∀ mapping ∈ optimized.mappings, mapping.IsPlain
  extras : ∀ term ∈ optimized.extras, IsPlainTerm term

/-- A query in which no settings find an error. -/
def IsFaultless (query : Text) : Prop :=
  ∀ settings, (Validator.make Registry.standard settings).errors query = []

theorem IsFaultless.ne_nil {query : Text} (faultless : IsFaultless query) :
    query ≠ [] := by
  rintro rfl
  have structured :=
    (Validator.errors_eq_nil_iff.mp (faultless Settings.standard)).1
  rw [Structure.findings_eq_nil_iff, Structure.meaningfulForms_read,
    Lexeme.forms_nil] at structured
  exact Structure.not_isCoherent_nil structured.2

/-- Plain mappings and terms are rendered to a query without errors, unless
there is none of them. -/
theorem Optimized.render_isOk {optimized : Optimized}
    (plain : optimized.IsPlain) :
    ∃ query, optimized.render = .ok query ∧
      (optimized.mappings = [] ∧ optimized.extras = [] ∧ query = [] ∨
        IsFaultless query) := by
  obtain ⟨added, addedPlain, isAdded⟩ := exists_written_eq plain.extras
  have rendered := mapM_render_isOk fun mapping member =>
    (plain.mappings mapping member).filled
  refine ⟨Text.join " " ((optimized.mappings ++ added).map written), ?_, ?_⟩
  · rw [Optimized.render, rendered, ← isAdded, List.map_append]
    rfl
  · by_cases none : optimized.mappings ++ added = []
    · left
      obtain ⟨noMappings, noneAdded⟩ := List.append_eq_nil_iff.mp none
      rw [← isAdded, noMappings, noneAdded]
      exact ⟨rfl, rfl, rfl⟩
    · right
      intro settings
      apply errors_eq_nil_of_isPlain none
      intro mapping member
      exact (List.mem_append.mp member).elim (plain.mappings mapping)
        (addedPlain mapping)

namespace Strategy

section Additions

private theorem isPlainTerm_formats :
    IsPlainTerm (anyTerm "f" ["standard", "modern", "commander"]) :=
  ⟨joined .or "f" ["standard", "modern", "commander"] (.ofInt 1) .format none,
    by decide, by decide⟩

private theorem isPlainTerm_unusual :
    IsPlainTerm (anyTerm "is" ["unique", "reserved", "promo"]) :=
  ⟨joined .or "is" ["unique", "reserved", "promo"] (.ofInt 1) .keyword none,
    by decide, by decide⟩

private theorem isPlainTerm_upToFifty : IsPlainTerm "usd<=50" :=
  ⟨single "usd" "50" (some .le) (.ofInt 1) .price none, by decide +kernel,
    by decide⟩

private theorem isPlainTerm_upToFive : IsPlainTerm "usd<=5" :=
  ⟨single "usd" "5" (some .le) (.ofInt 1) .price none, by decide +kernel,
    by decide⟩

private theorem withAdditions_isPlain {mappings : List Mapping}
    {additions : List Addition} (plain : ∀ mapping ∈ mappings, mapping.IsPlain)
    (terms : ∀ addition ∈ additions, IsPlainTerm addition.term) :
    (withAdditions mappings additions).IsPlain :=
  ⟨plain, List.forall_mem_map.mpr terms⟩

private theorem isPlainTerm_of_mem_unless {mentioned : Bool}
    {only addition : Addition} (plain : IsPlainTerm only.term)
    (member : addition ∈ if mentioned then [] else [only]) :
    IsPlainTerm addition.term := by
  split at member
  · cases member
  · rw [List.mem_singleton.mp member]
    exact plain

private theorem isPlainTerm_of_mem_precisionAdditions {mappings : List Mapping}
    {addition : Addition} (member : addition ∈ precisionAdditions mappings) :
    IsPlainTerm addition.term := by
  rcases List.mem_append.mp member with isFormat | isPrice
  · exact isPlainTerm_of_mem_unless isPlainTerm_formats isFormat
  · exact isPlainTerm_of_mem_unless isPlainTerm_upToFifty isPrice

end Additions

section Lowering

theorem accepts_power (number : Nat) :
    Registry.standard.accepts "pow" (Text.ofNat number) (some .ge) = true := by
  have digits : ∀ character ∈ Text.ofNat number,
      Text.isDigit character = true := fun _ => Text.isDigit_of_mem_ofNat
  have isPower :=
    Grammar.isPowerToughness_of_isDigit (Text.ofNat_ne_nil number) digits
  refine Registry.accepts_iff.mpr
    ⟨.onOrdered "power" ["pow"] .powerToughness, by decide,
      Text.ofNat_ne_nil number, fun _ _ _ => rfl, ?_⟩
  change (Grammar.checkPowerToughness _).errors = []
  rw [Grammar.checkPowerToughness, Grammar.line_of_isDigit digits, isPower,
    Bool.or_true]
  rfl

private theorem lowerPower?_isOk {mapping : Mapping}
    (relaxable : mapping.IsRelaxable) :
    ∃ lowered, lowerPower? mapping = .ok lowered ∧
      ∀ other ∈ lowered, other.IsPlain := by
  rw [lowerPower?]
  split
  next isPower =>
    simp only [Bool.and_eq_true, beq_iff_eq] at isPower
    obtain ⟨⟨⟨operator, comparison⟩, _⟩, _⟩ := isPower
    obtain ⟨power, read⟩ := relaxable.power operator
    rw [read]
    refine ⟨_, rfl, ?_⟩
    intro other isOther
    rw [Option.mem_def, Option.ite_none_left_eq_some] at isOther
    rw [← Option.some.inj isOther.2]
    apply isPlain_withValue relaxable.toIsPlain (Text.ofNat_ne_nil _)
    · rw [operator, comparison]
      exact accepts_power _
    · exact Grammar.isSymbolFree_of_all (by decide) (by decide)
        (List.all_eq_true.mpr fun _ => Text.isDigit_of_mem_ofNat)
  next => exact ⟨none, rfl, by simp⟩

end Lowering

section Widening

theorem accepts_type {value other : Text} {comparison : Option Comparison}
    (accepted : Registry.standard.accepts "t" value comparison = true)
    (filled : other ≠ []) :
    Registry.standard.accepts "t" other comparison = true := by
  have isText : Registry.standard.get? "t" =
      some (.onText "type" ["t"] "Type line") := by
    decide
  obtain ⟨operator, found, _, ordering, clean⟩ :=
    Registry.accepts_iff.mp accepted
  rw [isText] at found
  cases found
  exact Registry.accepts_iff.mpr ⟨_, isText, filled, ordering, clean⟩

theorem mem_relatedTypes {name : Text} {related : List Text}
    (found : relatedTypes.lookup name = some related) :
    ∀ word ∈ name :: related, word ≠ [] ∧ isSymbolFree word = true := by
  have words : ∀ entry ∈ relatedTypes, ∀ word ∈ entry.1 :: entry.2,
      word ≠ [] ∧ isSymbolFree word = true := by
    decide
  obtain ⟨before, after, isEntry, _⟩ := List.lookup_eq_some_iff.mp found
  exact words (name, related) (by rw [isEntry]; simp)

/-- A card type without parts is widened by its relatives, and is compared with
each of them as it was. -/
theorem exists_related_of_widenType? {mapping wider : Mapping}
    (termed : mapping.terms ≠ []) (found : widenType? mapping = some wider) :
    mapping.operator = "t".toList ∧
      (mapping.comparison, mapping.value) ∈ mapping.terms ∧
      ∃ related, relatedTypes.lookup mapping.value = some related ∧
        wider.operator = mapping.operator ∧
        wider.value = Joiner.or.join (mapping.value :: related) ∧
        wider.terms =
          (mapping.value :: related).map (mapping.comparison, ·) := by
  rw [widenType?] at found
  split at found
  next isType =>
    simp only [Bool.and_eq_true, beq_iff_eq, List.isEmpty_iff] at isType
    obtain ⟨⟨operator, noParts⟩, _⟩ := isType
    obtain ⟨related, isRelated, rfl⟩ := Option.map_eq_some_iff.mp found
    have uncompared := comparisons_eq_nil termed noParts
    refine ⟨operator, ?_, related, isRelated, rfl, rfl, ?_⟩
    · simp [terms, values, noParts, uncompared]
    · simp [terms, values, uncompared]
  next => cases found

private theorem isPlain_of_widenType? {mapping wider : Mapping}
    (plain : mapping.IsPlain) (found : widenType? mapping = some wider) :
    wider.IsPlain := by
  obtain ⟨operator, isTerm, related, isRelated, sameOperator, isValue,
    areTerms⟩ := exists_related_of_widenType? plain.termed found
  have words := mem_relatedTypes isRelated
  have accepted := accepts_of_isAccepted plain.accepted isTerm
  rw [operator] at accepted
  refine isPlain_of_terms ?_ ?_ ?_ ?_
  · rw [sameOperator]
    exact plain.named
  · rw [areTerms]
    exact List.cons_ne_nil _ _
  · rw [isValue]
    exact join_cons_ne_nil plain.filled related
  · rw [areTerms, sameOperator, operator, List.forall_mem_map]
    intro word isWord
    obtain ⟨filled, free⟩ := words word isWord
    exact ⟨accepts_type accepted filled, free⟩

end Widening

section Relaxing

private theorem broadening_isOk {before after : Mapping} (reason : Text)
    (beforeFilled : before.value ≠ []) (afterFilled : after.value ≠ []) :
    ∃ change, broadening reason before after = .ok change := by
  rw [broadening, render_isOk beforeFilled, render_isOk afterFilled]
  exact ⟨_, rfl⟩

/-- Relaxing a mapping whose power can be read succeeds.  What holds of it with
a lower power, or of it as it is and with more card types if its power is not
lowered, holds of the result, if it is enough to write a mapping. -/
theorem exists_relaxOne_eq {holds : Mapping → Prop}
    (filled : ∀ mapping, holds mapping → mapping.value ≠ [])
    {mapping : Mapping} (isFilled : mapping.value ≠ [])
    {lowered : Option Mapping} (isLowered : lowerPower? mapping = .ok lowered)
    (loweredHeld : ∀ lower ∈ lowered, holds lower)
    (widerHeld : lowered = none →
      ∀ wider, widenType? mapping = some wider → holds wider)
    (isHeld : lowered = none → holds mapping) (widened : Bool) :
    ∃ relaxed, relaxOne widened mapping = .ok relaxed ∧
      holds relaxed.mapping := by
  rw [relaxOne, isLowered]
  cases lowered with
  | some lower =>
      have lowerHeld := loweredHeld lower rfl
      obtain ⟨change, isChange⟩ := broadening_isOk "Relax power requirement"
        isFilled (filled _ lowerHeld)
      refine ⟨⟨lower, some change, widened⟩, ?_, lowerHeld⟩
      simp only [Outcome.mapError_ok, bind, Except.bind, isChange]
      rfl
  | none =>
      cases found : if widened then none else widenType? mapping with
      | some wider =>
          have isHeldWider :=
            widerHeld rfl wider (Option.ite_none_left_eq_some.mp found).2
          obtain ⟨change, isChange⟩ := broadening_isOk
            "Include related card types" isFilled (filled _ isHeldWider)
          refine ⟨⟨wider, some change, true⟩, ?_, isHeldWider⟩
          simp only [Outcome.mapError_ok, bind, Except.bind, isChange]
          rfl
      | none =>
          refine ⟨⟨mapping, none, widened⟩, ?_, isHeld rfl⟩
          simp only [Outcome.mapError_ok, bind, Except.bind]
          rfl

private theorem relaxOne_isOk {mapping : Mapping}
    (relaxable : mapping.IsRelaxable)
    (widened : Bool) :
    ∃ relaxed, relaxOne widened mapping = .ok relaxed ∧
      relaxed.mapping.IsPlain := by
  obtain ⟨lowered, isLowered, loweredPlain⟩ := lowerPower?_isOk relaxable
  exact exists_relaxOne_eq (fun _ plain => plain.filled) relaxable.filled
    isLowered loweredPlain
    (fun _ _ => isPlain_of_widenType? relaxable.toIsPlain)
    (fun _ => relaxable.toIsPlain) widened

/-- If each mapping becomes another one when it is relaxed or fails in some
way, then all of them do so, each in its place, and no term is added. -/
theorem relax_forall₂ {fails : StrategyError → Prop}
    {becomes : Mapping → Mapping → Prop} {mappings : List Mapping}
    (each : ∀ mapping ∈ mappings, ∀ widened,
      (∃ error, relaxOne widened mapping = .error error ∧ fails error) ∨
      ∃ relaxed, relaxOne widened mapping = .ok relaxed ∧
        becomes mapping relaxed.mapping)
    (widened : Bool) :
    (∃ error, relax widened mappings = .error error ∧ fails error) ∨
    ∃ optimized, relax widened mappings = .ok optimized ∧
      optimized.extras = [] ∧
      List.Forall₂ becomes mappings optimized.mappings := by
  induction mappings generalizing widened with
  | nil => exact Or.inr ⟨_, rfl, rfl, .nil⟩
  | cons first rest ih =>
      rw [relax]
      rcases each first List.mem_cons_self widened with
        ⟨error, isError, failed⟩ | ⟨relaxed, isRelaxed, firstBecomes⟩
      · left
        rw [isError]
        exact ⟨error, rfl, failed⟩
      · rw [isRelaxed]
        rcases ih (fun mapping member =>
            each mapping (List.mem_cons_of_mem first member))
          relaxed.widened with
          ⟨error, isError, failed⟩ | ⟨later, isLater, _, laterBecome⟩
        · left
          refine ⟨error, ?_, failed⟩
          simp only [bind, Except.bind, isError]
        · right
          refine ⟨⟨relaxed.mapping :: later.mappings, [],
            relaxed.optimization.toList ++ later.optimizations⟩, ?_, rfl,
            .cons firstBecomes laterBecome⟩
          simp only [bind, Except.bind, isLater]
          rfl

private theorem relax_isOk {mappings : List Mapping}
    (relaxable : ∀ mapping ∈ mappings, mapping.IsRelaxable) (widened : Bool) :
    ∃ optimized, relax widened mappings = .ok optimized ∧
      optimized.IsPlain := by
  have each : ∀ mapping ∈ mappings, ∀ widened,
      (∃ error, relaxOne widened mapping = .error error ∧ False) ∨
      ∃ relaxed, relaxOne widened mapping = .ok relaxed ∧
        relaxed.mapping.IsPlain := fun mapping member widened =>
    Or.inr (relaxOne_isOk (relaxable mapping member) widened)
  rcases @relax_forall₂ _ (fun _ after => after.IsPlain) _ each widened with
    ⟨_, _, never⟩ | ⟨optimized, isOptimized, noExtras, become⟩
  · exact never.elim
  · refine ⟨optimized, isOptimized, ?_, ?_⟩
    · intro mapping member
      obtain ⟨_, _, plain⟩ :=
        Outcome.exists_mem_of_forall₂ become.flip member
      exact plain
    · rw [noExtras]
      exact List.forall_mem_nil _

end Relaxing

/-- A strategy always succeeds on relaxable mappings, and a valid query can be
made of what it gives. -/
theorem apply_isOk (strategy : Strategy) {mappings : List Mapping}
    (relaxable : ∀ mapping ∈ mappings, mapping.IsRelaxable) :
    ∃ optimized, strategy.apply mappings = .ok optimized ∧
      optimized.IsPlain := by
  have plain := fun mapping member => (relaxable mapping member).toIsPlain
  cases strategy with
  | precision =>
      exact ⟨_, rfl, withAdditions_isPlain plain fun _ =>
        isPlainTerm_of_mem_precisionAdditions⟩
  | coverage => exact relax_isOk relaxable false
  | discovery =>
      exact ⟨_, rfl, withAdditions_isPlain plain fun _ =>
        isPlainTerm_of_mem_unless isPlainTerm_unusual⟩
  | budget =>
      exact ⟨_, rfl, withAdditions_isPlain plain fun _ =>
        isPlainTerm_of_mem_unless isPlainTerm_upToFive⟩

/-- Relaxing leaves as many mappings as there were, so only it can leave
nothing to search for. -/
theorem eq_nil_of_apply {strategy : Strategy} {mappings : List Mapping}
    {optimized : Optimized} (applied : strategy.apply mappings = .ok optimized)
    (noMappings : optimized.mappings = []) (noExtras : optimized.extras = []) :
    mappings = [] ∧ strategy = .coverage := by
  cases strategy with
  | precision =>
      cases applied
      cases noMappings
      cases noExtras
  | coverage =>
      refine ⟨?_, rfl⟩
      cases mappings with
      | nil => rfl
      | cons first rest =>
          obtain ⟨relaxed, _, later⟩ := Outcome.bind_eq_ok_iff.mp applied
          obtain ⟨others, _, isOptimized⟩ := Outcome.bind_eq_ok_iff.mp later
          cases isOptimized
          cases noMappings
  | discovery =>
      cases applied
      cases noMappings
      cases noExtras
  | budget =>
      cases applied
      cases noMappings
      cases noExtras

end Strategy

end CardQuery
