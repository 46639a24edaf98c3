import CardQuery.Proofs.Build.Overriding
import CardQuery.Proofs.Build.Strategy
import CardQuery.Session

/-!
# From a text to valid queries

Forcing a format puts a plain mapping among those of a reading, so a builder
can apply any strategy to them.  Hence building fails for two reasons only: the
format is not known, or there is nothing to search for.  Otherwise the query
that is built and the other queries that are offered are valid.
-/

namespace CardQuery

open Mapping

theorem isRelaxable_ofFormat {name : Text}
    (accepted : Registry.standard.accepts "f" name none = true) :
    (ofFormat name).IsRelaxable := by
  obtain ⟨operator, found, filled, _, clean⟩ :=
    Registry.accepts_iff.mp accepted
  have isFormat : Registry.standard.get? "f" =
      some (.onChoice "format" ["f", "legal"] .format Vocabulary.formats) := by
    decide
  rw [isFormat] at found
  cases found
  have free : Lexeme.isSymbolFree name = true :=
    Grammar.isSymbolFree_of_accepted (by simp [Operator.onChoice])
      (by simp [Operator.onChoice]) clean
  constructor
  · apply isPlain_of_terms
    · change Head.isName "f" = true
      decide
    · exact List.cons_ne_nil _ _
    · exact filled
    · exact List.forall_mem_singleton.mpr ⟨accepted, free⟩
  · intro isPower
    exact absurd isPower (by decide : "f".toList ≠ "pow".toList)

private theorem Reading.isRelaxable_of_mem_mappings {reading : Reading}
    (plain : reading.IsPlain) {mapping : Mapping}
    (member : mapping ∈ reading.mappings Registry.standard) :
    mapping.IsRelaxable :=
  ⟨isPlain_of_mem_mappings plain member,
    (isSimple_of_mem_mappings plain member).power⟩

private theorem Reading.passage_of_ofText {text : Text} {reading : Reading}
    (read : ofText text = .ok reading) : reading.passage = text := by
  rw [ofText] at read
  dsimp only at read
  split at read
  · rw [← Except.ok.inj read]
    rfl
  · obtain ⟨stats, _, same⟩ := Outcome.bind_eq_ok_iff.mp read
    rw [← Except.ok.inj same]

namespace BuildOptions

private theorem apply_cases {options : BuildOptions}
    (noBudget : options.priceBudget = none) (mappings : List Mapping) :
    options.apply Registry.standard mappings = .ok mappings ∨
    (∃ name, options.format = some name ∧
      Registry.standard.accepts "f" (Text.lower name) none = true ∧
      options.apply Registry.standard mappings =
        .ok ((ofFormat (Text.lower name)).override mappings)) ∨
    ∃ name, options.format = some name ∧
      Registry.standard.accepts "f" (Text.lower name) none = false ∧
      options.apply Registry.standard mappings = .error ⟨name⟩ := by
  have same : options.applyBudget = id := by
    funext others
    rw [applyBudget, noBudget]
    rfl
  rw [apply, same, applyFormat]
  cases isFormat : options.format with
  | none => exact Or.inl rfl
  | some name =>
      cases name with
      | nil => exact Or.inl rfl
      | cons first rest =>
          right
          cases accepted : Registry.standard.accepts "f"
              (Text.lower (first :: rest)) none with
          | true =>
              refine Or.inl ⟨_, rfl, accepted, ?_⟩
              dsimp only
              rw [if_pos accepted]
              rfl
          | false =>
              refine Or.inr ⟨_, rfl, accepted, ?_⟩
              dsimp only
              rw [accepted]
              rfl

end BuildOptions

/-- A result with nothing but valid queries, which all differ. -/
structure Built.IsFaultless (built : Built) : Prop where
  query : CardQuery.IsFaultless built.query
  alternatives : ∀ alternative ∈ built.alternatives,
    CardQuery.IsFaultless alternative.query ∧ alternative.query ≠ built.query
  distinct : (built.alternatives.map (·.query)).Nodup

namespace Builder

section Fresh

variable {seen : List Text} {alternatives : List Alternative}

private theorem mem_of_mem_fresh {alternative : Alternative}
    (member : alternative ∈ fresh seen alternatives) :
    alternative ∈ alternatives ∧ alternative.query ≠ [] ∧
      alternative.query ∉ seen := by
  induction alternatives generalizing seen with
  | nil => cases member
  | cons first rest ih =>
      rw [fresh] at member
      split at member
      next =>
        obtain ⟨inRest, filled, unseen⟩ := ih member
        exact ⟨List.mem_cons_of_mem first inRest, filled, unseen⟩
      next new =>
        simp only [Bool.or_eq_true, List.isEmpty_iff, List.contains_iff_mem,
          not_or] at new
        rcases List.mem_cons.mp member with rfl | later
        · exact ⟨List.mem_cons_self, new⟩
        · obtain ⟨inRest, filled, unseen⟩ := ih later
          rw [List.mem_cons, not_or] at unseen
          exact ⟨List.mem_cons_of_mem first inRest, filled, unseen.2⟩

private theorem nodup_fresh : ((fresh seen alternatives).map (·.query)).Nodup
    := by
  induction alternatives generalizing seen with
  | nil => exact List.nodup_nil
  | cons first rest ih =>
      rw [fresh]
      split
      next => exact ih
      next =>
        rw [List.map_cons, List.nodup_cons]
        refine ⟨?_, ih⟩
        intro repeated
        obtain ⟨alternative, later, same⟩ := List.mem_map.mp repeated
        apply (mem_of_mem_fresh later).2.2
        rw [same]
        exact List.mem_cons_self

end Fresh

section Offers

variable {mappings : List Mapping}
  (relaxable : ∀ mapping ∈ mappings, mapping.IsRelaxable)

private theorem isPlainTerm_format :
    ∀ name ∈ ["standard".toList, "modern", "commander", "legacy"],
      IsPlainTerm ("f:" ++ name) := by
  have accepted : ∀ name ∈ ["standard".toList, "modern", "commander", "legacy"],
      Registry.standard.accepts "f" name none = true ∧
        (ofFormat name).written = "f:" ++ name := by
    decide
  intro name member
  exact ⟨ofFormat name,
    (isRelaxable_ofFormat (accepted name member).1).toIsPlain,
    (accepted name member).2⟩

include relaxable

private theorem formatAlternatives_isOk :
    ∃ alternatives, formatAlternatives mappings = .ok alternatives ∧
      ∀ alternative ∈ alternatives, IsFaultless alternative.query := by
  rw [formatAlternatives]
  split
  · exact ⟨[], rfl, by simp⟩
  · apply Outcome.exists_mapM_eq_ok
    intro name member
    have plain : Optimized.IsPlain ⟨mappings, ["f:" ++ name], []⟩ :=
      ⟨fun mapping isMapping => (relaxable mapping isMapping).toIsPlain,
        List.forall_mem_singleton.mpr (isPlainTerm_format name member)⟩
    obtain ⟨query, rendered, ⟨_, noExtras, _⟩ | faultless⟩ :=
      Optimized.render_isOk plain
    · cases noExtras
    · rw [rendered]
      exact ⟨_, rfl, faultless⟩

private theorem strategyAlternative?_isOk (base : Text) (strategy : Strategy) :
    ∃ alternative?, strategyAlternative? mappings base strategy =
        .ok alternative? ∧
      ∀ alternative ∈ alternative?, alternative.query ≠ [] →
        IsFaultless alternative.query := by
  obtain ⟨optimized, applied, plain⟩ := strategy.apply_isOk relaxable
  obtain ⟨query, rendered, faultless⟩ := Optimized.render_isOk plain
  simp only [strategyAlternative?, applied, bind, Except.bind, rendered,
    Outcome.mapError_ok]
  refine ⟨_, rfl, ?_⟩
  intro alternative isAlternative
  rw [Option.mem_def, Option.ite_none_left_eq_some] at isAlternative
  rw [← Option.some.inj isAlternative.2]
  intro filled
  exact faultless.resolve_left fun ⟨_, _, empty⟩ => filled empty

private theorem alternatives_isOk (chosen : Strategy) (query : Text) :
    ∃ offered, alternatives mappings chosen query = .ok offered ∧
      (∀ alternative ∈ offered, IsFaultless alternative.query ∧
        alternative.query ≠ query) ∧
      (offered.map (·.query)).Nodup := by
  have plain : Optimized.IsPlain ⟨mappings, [], []⟩ :=
    ⟨fun mapping member => (relaxable mapping member).toIsPlain, by simp⟩
  obtain ⟨base, isBase, _⟩ := Optimized.render_isOk plain
  obtain ⟨formats, areFormats, formatsFaultless⟩ :=
    formatAlternatives_isOk relaxable
  obtain ⟨strategies, areStrategies, strategiesFaultless⟩ :=
    Outcome.exists_mapM_eq_ok fun strategy
        (_ : strategy ∈ Strategy.all.filter (· != chosen)) =>
      strategyAlternative?_isOk relaxable base strategy
  simp only [alternatives, isBase, areFormats, areStrategies, bind,
    Except.bind, Outcome.mapError_ok]
  refine ⟨_, rfl, ?_, ?_⟩
  · intro alternative member
    obtain ⟨among, filled, unseen⟩ :=
      mem_of_mem_fresh (List.mem_of_mem_take member)
    refine ⟨?_, by simpa using unseen⟩
    rcases List.mem_append.mp among with isFormat | isStrategy
    · exact formatsFaultless alternative isFormat
    · obtain ⟨alternative?, inStrategies, found⟩ :=
        List.mem_filterMap.mp isStrategy
      exact strategiesFaultless alternative? inStrategies alternative found
        filled
  · rw [List.map_take]
    exact nodup_fresh.sublist (List.take_sublist _ _)

end Offers

private theorem make_registry (settings : Settings) :
    (make Registry.standard settings).registry = Registry.standard := by
  rw [make, Registry.orElse, if_neg (by decide)]

private theorem build_of_apply {reading : Reading} {options : BuildOptions}
    {mappings : List Mapping}
    (applied : options.apply Registry.standard
      (reading.mappings Registry.standard) = .ok mappings)
    (relaxable : ∀ mapping ∈ mappings, mapping.IsRelaxable)
    (settings : Settings) :
    let outcome := (make Registry.standard settings).build reading options
    (options.strategy = .coverage ∧ mappings = [] ∧
      outcome = .error (.refused (.nothingToSearch reading.passage))) ∨
    ∃ built, outcome = .ok built ∧ built.IsFaultless := by
  obtain ⟨optimized, isOptimized, plain⟩ :=
    options.strategy.apply_isOk relaxable
  obtain ⟨query, rendered, faultless⟩ := Optimized.render_isOk plain
  obtain ⟨offered, areOffered, offeredFaultless, distinct⟩ :=
    alternatives_isOk relaxable options.strategy query
  simp only [build, make_registry, applied, bind, Except.bind,
    Outcome.mapError_ok, isOptimized, rendered, areOffered]
  rcases faultless with ⟨noMappings, noExtras, empty⟩ | faultless
  · left
    obtain ⟨noneBefore, relaxed⟩ :=
      Strategy.eq_nil_of_apply isOptimized noMappings noExtras
    rw [empty]
    exact ⟨relaxed, noneBefore, rfl⟩
  · right
    rw [if_neg (by simpa using faultless.ne_nil)]
    exact ⟨_, rfl, faultless, offeredFaultless, distinct⟩

/-- A builder makes a valid query of a plain reading, with valid alternatives,
if it knows the format and finds anything to search for. -/
theorem build_isFaultless {reading : Reading} (plain : reading.IsPlain)
    (settings : Settings) {options : BuildOptions}
    (noBudget : options.priceBudget = none) :
    let outcome := (make Registry.standard settings).build reading options
    (∃ name, options.format = some name ∧
      Registry.standard.accepts "f" (Text.lower name) none = false ∧
      outcome = .error (.refused (.unknownFormat name))) ∨
    (options.strategy = .coverage ∧ reading.mappings Registry.standard = [] ∧
      outcome = .error (.refused (.nothingToSearch reading.passage))) ∨
    ∃ built, outcome = .ok built ∧ built.IsFaultless := by
  have relaxable : ∀ mapping ∈ reading.mappings Registry.standard,
      mapping.IsRelaxable := fun mapping =>
    reading.isRelaxable_of_mem_mappings plain
  rcases options.apply_cases noBudget (reading.mappings Registry.standard) with
    applied | ⟨name, _, accepted, applied⟩ | ⟨name, isFormat, unknown, applied⟩
  · exact Or.inr (build_of_apply applied relaxable settings)
  · right
    right
    have forced : ∀ mapping ∈ (ofFormat (Text.lower name)).override
        (reading.mappings Registry.standard), mapping.IsRelaxable := by
      intro mapping member
      rcases (isForcedInto_override _ _).eq_or_mem member with rfl | old
      · exact isRelaxable_ofFormat accepted
      · exact relaxable mapping old
    refine (build_of_apply applied forced settings).resolve_left ?_
    rintro ⟨_, none, _⟩
    exact List.ne_nil_of_mem (isForcedInto_override _ _).mem none
  · refine Or.inl ⟨name, isFormat, unknown, ?_⟩
    simp only [build, make_registry, applied]
    rfl

end Builder

namespace Session

private theorem make_registry (settings : Settings) :
    (make settings Registry.standard).registry = Registry.standard := by
  rw [make, Registry.orElse, if_neg (by decide)]

private theorem validate_isValid_of_isFaultless {query : Text}
    (faultless : IsFaultless query) (settings : Settings) :
    ((make settings Registry.standard).validate query none).isValid = true := by
  rw [validate, make_registry]
  exact (Validator.isValid_iff_errors_eq_nil _ query none).mpr
    (faultless settings)

private theorem query_eq {text : Text} {reading : Reading}
    (read : Reading.ofText text = .ok reading) (settings : Settings) :
    (make settings Registry.standard).query text =
      (Mapping.query (reading.mappings Registry.standard)).mapError .render := by
  simp only [query, read, make_registry, Outcome.mapError_ok, bind,
    Except.bind]

/-- What a session does with a text that it has read is left to its builder. -/
theorem build_eq {text : Text} {reading : Reading}
    (read : Reading.ofText text = .ok reading) (settings : Settings)
    (strategy : Strategy) (format : Option Text) :
    (make settings Registry.standard).build text strategy.name format =
      ((Builder.make Registry.standard settings).build reading
        { BuildOptions.standard with
          strategy
          format := format.map Text.trim }).mapError .build := by
  have known : Strategy.ofName? strategy.name = some strategy := by
    cases strategy <;> decide
  simp only [build, read, known, make_registry, Outcome.mapError_ok, bind,
    Except.bind, Option.elim_some]
  rfl

/-- What a session builds of a text that it has read is valid: the query and
every alternative, no two of which are the same.  It refuses only a format that
is not known and a text without anything to search for. -/
theorem build_refuses_or_isValid {text : Text}
    (read : (Reading.ofText text).isOk = true) (settings : Settings)
    (strategy : Strategy) (format : Option Text) :
    let session := make settings Registry.standard
    let outcome := session.build text strategy.name format
    (∃ name, format.map Text.trim = some name ∧
      Registry.standard.accepts "f" (Text.lower name) none = false ∧
      outcome = .error (.build (.refused (.unknownFormat name)))) ∨
    (strategy = .coverage ∧ session.query text = .error (.render .noMapping) ∧
      outcome = .error (.build (.refused (.nothingToSearch text)))) ∨
    ∃ built, outcome = .ok built ∧
      (session.validate built.query none).isValid = true ∧
      (∀ alternative ∈ built.alternatives,
        (session.validate alternative.query none).isValid = true ∧
          alternative.query ≠ built.query) ∧
      (built.alternatives.map (·.query)).Nodup := by
  cases isReading : Reading.ofText text with
  | error fault =>
      rw [isReading] at read
      cases read
  | ok reading =>
      dsimp only
      rw [build_eq isReading]
      rcases @Builder.build_isFaultless reading
          (Reading.isPlain_of_ofText isReading) settings
          { BuildOptions.standard with
            strategy
            format := format.map Text.trim } rfl with
        ⟨name, isFormat, unknown, refused⟩ | ⟨relaxed, none, refused⟩ |
          ⟨built, isBuilt, faultless⟩
      · left
        rw [refused]
        exact ⟨name, isFormat, unknown, rfl⟩
      · right
        left
        rw [refused, query_eq isReading, none,
          Reading.passage_of_ofText isReading]
        exact ⟨relaxed, rfl, rfl⟩
      · right
        right
        rw [isBuilt]
        refine ⟨built, rfl,
          validate_isValid_of_isFaultless faultless.query settings, ?_,
          faultless.distinct⟩
        intro alternative member
        obtain ⟨valid, differs⟩ := faultless.alternatives alternative member
        exact ⟨validate_isValid_of_isFaultless valid settings, differs⟩

theorem build_refuses_or_isValid_red_creatures :
    (Reading.ofText "red creatures with power 3 or more").isOk = true ∧
      let session := make Settings.standard Registry.standard
      let outcome := session.build "red creatures with power 3 or more"
        Strategy.coverage.name (some " Modern")
      (∃ name, some (Text.trim " Modern") = some name ∧
        Registry.standard.accepts "f" (Text.lower name) none = false ∧
        outcome = .error (.build (.refused (.unknownFormat name)))) ∨
      (Strategy.coverage = .coverage ∧
        session.query "red creatures with power 3 or more" =
          .error (.render .noMapping) ∧
        outcome = .error (.build (.refused
          (.nothingToSearch "red creatures with power 3 or more")))) ∨
      ∃ built, outcome = .ok built ∧
        (session.validate built.query none).isValid = true ∧
        (∀ alternative ∈ built.alternatives,
          (session.validate alternative.query none).isValid = true ∧
            alternative.query ≠ built.query) ∧
        (built.alternatives.map (·.query)).Nodup :=
  have read : (Reading.ofText "red creatures with power 3 or more").isOk =
      true := by
    decide +kernel
  ⟨read, build_refuses_or_isValid read Settings.standard .coverage
    (some " Modern")⟩

end Session

end CardQuery
