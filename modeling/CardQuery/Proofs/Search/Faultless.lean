import CardQuery.Proofs.Search.Nesting

/-!
# Queries without structural faults

Each of the checks is empty exactly if a condition on the forms holds, and the
conditions together say that the brackets close and that the forms are
coherent.  The checks for connectives at the start or the end and for a
trailing bracket add nothing of their own: they name faults which the other
conditions already exclude.
-/

namespace CardQuery.Structure

/-- The forms of tokens. -/
def forms (tokens : List Token) : List Form := tokens.map (·.form)

@[simp] theorem forms_nil : forms [] = [] := rfl

@[simp] theorem forms_cons (token : Token) (tokens : List Token) :
    forms (token :: tokens) = token.form :: forms tokens := rfl

theorem isOpening_iff {token : Token} :
    token.isOpening = true ↔ token.form = .bracket true := by
  simp [Token.isOpening]

theorem isClosing_iff {token : Token} :
    token.isClosing = true ↔ token.form = .bracket false := by
  simp [Token.isClosing]

private theorem isFilled_of_ne_opening {first : Form} (second : Form)
    (other : first ≠ .bracket true) : isFilled first second = true := by
  simp [isFilled, other]

private theorem emptyBrackets_eq_nil_iff {opening : Token}
    {tokens : List Token} :
    emptyBrackets opening tokens = [] ↔
      ∀ next ∈ (forms tokens).head?,
        isFilled (.bracket true) next = true := by
  cases tokens with
  | nil => simp [emptyBrackets]
  | cons next rest =>
      have fits : isFilled (.bracket true) next.form = !next.isClosing := by
        simp [isFilled, Token.isClosing]
      rw [emptyBrackets, forms_cons, List.head?_cons]
      cases closing : next.isClosing <;> simp [fits, closing]

private theorem bracketFindings_eq_nil_iff {pending tokens : List Token} :
    bracketFindings pending tokens = [] ↔
      closesAll pending.length (forms tokens) = true ∧
        (forms tokens).IsChain (isFilled · ·) := by
  induction tokens generalizing pending with
  | nil => simp [bracketFindings]
  | cons token rest ih =>
      rw [forms_cons, List.isChain_cons]
      by_cases opening : token.form = .bracket true
      · simp only [bracketFindings, isOpening_iff.mpr opening, if_true,
          List.append_eq_nil_iff, emptyBrackets_eq_nil_iff, ih, opening,
          closesAll_opening, List.length_cons]
        tauto
      · have notOpening : token.isOpening = false := by
          simpa [← isOpening_iff] using opening
        have filled : ∀ next ∈ (forms rest).head?,
            isFilled token.form next = true := fun next _ =>
          isFilled_of_ne_opening next opening
        by_cases closing : token.form = .bracket false
        · cases pending with
          | nil =>
              simp [bracketFindings, notOpening, isClosing_iff.mpr closing,
                closing]
          | cons _ outer =>
              simp only [bracketFindings, notOpening,
                isClosing_iff.mpr closing, if_true, Bool.false_eq_true,
                if_false, ih, closing, List.length_cons,
                closesAll_closing_succ]
              rw [← closing]
              tauto
        · have notClosing : token.isClosing = false := by
            simpa [← isClosing_iff] using closing
          simp only [bracketFindings, notOpening, notClosing,
            Bool.false_eq_true, if_false, ih,
            closesAll_other opening closing]
          tauto

/-- The form after which nothing but the end of the brackets follows, and the
forms that stand before it. -/
def closed (tokens : List Token) : List Form := forms tokens ++ [.bracket false]

@[simp] theorem closed_cons (token : Token) (tokens : List Token) :
    closed (token :: tokens) = token.form :: closed tokens := rfl

private theorem isJoined_of_not_connective {first second : Form}
    (noConnective : first.connective? = none)
    (noOpening : first ≠ .bracket true) : isJoined first second = true := by
  cases first with
  | connective joining => simp [Form.connective?] at noConnective
  | bracket isOpen => cases isOpen <;> simp_all [isJoined]
  | _ => simp [isJoined]

private theorem isJoined_opening {second : Form} :
    isJoined (.bracket true) second = true ↔
      ∀ joining ∈ second.connective?, joining = .not := by
  cases second <;> simp [isJoined, Form.connective?]

private theorem rightFaults_eq_nil_iff {token : Token} {joining : Connective}
    {tokens : List Token} :
    consecutive token joining tokens.head? ++
        orphaned token joining tokens.head? = [] ↔
      ∀ next ∈ (closed tokens).head?,
        isJoined (.connective joining) next = true := by
  cases tokens with
  | nil => simp [consecutive, orphaned, closed, isJoined]
  | cons next rest =>
      rw [List.head?_cons, closed_cons, List.head?_cons,
        List.append_eq_nil_iff]
      cases form : next.form with
      | connective second =>
          have notClosing : next.isClosing = false := by
            simp [Token.isClosing, form]
          cases fits : mayFollow joining second <;>
            simp [consecutive, orphaned, form, isJoined, notClosing, fits,
              Form.connective?]
      | bracket isOpen =>
          cases isOpen <;>
            simp [consecutive, orphaned, form, isJoined, Token.isClosing,
              Form.connective?]
      | _ =>
          simp [consecutive, orphaned, form, isJoined, Token.isClosing,
            Form.connective?]

private theorem afterOpening_eq_nil_iff {before : Option Token} {token : Token}
    {joining : Connective} (isConnective : token.form = .connective joining) :
    afterOpening before token joining = [] ↔
      ∀ earlier ∈ before, earlier.form = .bracket true →
        isJoined (.bracket true) token.form = true := by
  rw [isConnective]
  cases before with
  | none => simp [afterOpening]
  | some earlier =>
      by_cases opening : earlier.form = .bracket true
      · cases joining <;>
          simp [afterOpening, isOpening_iff.mpr opening, opening, isJoined]
      · have notOpening : earlier.isOpening = false := by
          simpa [← isOpening_iff] using opening
        simp [afterOpening, notOpening, opening]

private theorem opening_closed_iff {tokens : List Token} :
    (∀ next ∈ (closed tokens).head?, isJoined (.bracket true) next = true) ↔
      ∀ first ∈ (forms tokens).head?, isJoined (.bracket true) first = true := by
  cases tokens with
  | nil => simp [closed, isJoined]
  | cons token rest => simp

private theorem neighbourFindings_eq_nil_iff {before : Option Token}
    {tokens : List Token} :
    neighbourFindings before tokens = [] ↔
      (closed tokens).IsChain (isJoined · ·) ∧
        ∀ earlier ∈ before, earlier.form = .bracket true →
          ∀ first ∈ (forms tokens).head?,
            isJoined (.bracket true) first = true := by
  induction tokens generalizing before with
  | nil => simp [neighbourFindings, closed]
  | cons token rest ih =>
      rw [neighbourFindings, List.append_eq_nil_iff, ih, closed_cons,
        List.isChain_cons, forms_cons, List.head?_cons]
      cases connective : token.form.connective? with
      | some joining =>
          have isConnective : token.form = .connective joining := by
            cases form : token.form <;> simp_all [Form.connective?]
          change consecutive token joining rest.head? ++
            orphaned token joining rest.head? ++
              afterOpening before token joining = [] ∧ _ ↔ _
          rw [List.append_eq_nil_iff, rightFaults_eq_nil_iff,
            afterOpening_eq_nil_iff isConnective, isConnective]
          simp [isConnective]
          tauto
      | none =>
          have fits : isJoined (.bracket true) token.form = true :=
            isJoined_opening.mpr (by simp [connective])
          by_cases opening : token.form = .bracket true
          · have ends := @opening_closed_iff rest
            simp only [Option.mem_def] at ends
            rw [opening] at fits
            simp [opening, fits, ends, and_comm]
          · have joined : ∀ next, isJoined token.form next = true := fun next =>
              isJoined_of_not_connective connective opening
            simp [fits, joined, opening]

private theorem atStart_eq_nil_iff {tokens : List Token} :
    atStart tokens = [] ↔
      ∀ first ∈ (forms tokens).head?, isJoined (.bracket true) first = true := by
  cases tokens with
  | nil => simp [atStart]
  | cons token rest =>
      rw [atStart, forms_cons, List.head?_cons]
      cases connective : token.form.connective? with
      | none => simp [isJoined_opening, connective]
      | some joining => cases joining <;> simp [isJoined_opening, connective]

theorem atEnd_eq_nil {tokens : List Token}
    (joined : (closed tokens).IsChain (isJoined · ·)) : atEnd tokens = [] := by
  rw [atEnd]
  cases last : tokens.getLast? with
  | none => rfl
  | some token =>
      obtain ⟨front, rfl⟩ := List.getLast?_eq_some_iff.mp last
      have fits : isJoined token.form (.bracket false) = true := by
        have chain : (forms front ++ [token.form, .bracket false]).IsChain
            (isJoined · ·) := by
          simpa [closed, forms] using joined
        simpa using chain.right_of_append
      cases form : token.form <;> simp_all [isJoined, Form.connective?]

private theorem connectiveFindings_eq_nil_iff {tokens : List Token} :
    connectiveFindings tokens = [] ↔
      (enclose (forms tokens)).IsChain (isJoined · ·) := by
  rw [connectiveFindings, List.append_eq_nil_iff, List.append_eq_nil_iff,
    atStart_eq_nil_iff, neighbourFindings_eq_nil_iff, enclose,
    List.isChain_cons, ← opening_closed_iff]
  constructor
  · rintro ⟨⟨start, _⟩, joined, _⟩
    exact ⟨start, joined⟩
  · rintro ⟨start, joined⟩
    exact ⟨⟨start, atEnd_eq_nil joined⟩, joined, by simp⟩

private theorem isChain_and_iff {α : Type} {first second : α → α → Prop}
    {items : List α} :
    items.IsChain (fun left right => first left right ∧ second left right) ↔
      items.IsChain first ∧ items.IsChain second := by
  simp only [List.isChain_iff_getElem, ← forall_and]

private theorem isCoherent_iff {forms : List Form} :
    IsCoherent forms ↔ (enclose forms).IsChain (isFilled · ·) ∧
      (enclose forms).IsChain (isJoined · ·) := by
  rw [IsCoherent, ← isChain_and_iff]
  simp only [mayAdjoin, Bool.and_eq_true]

theorem not_opening_of_closesAll {pending : Nat} {front : List Form}
    (closed : closesAll pending (front ++ [.bracket true]) = true) : False := by
  induction front generalizing pending with
  | nil => simp at closed
  | cons form front ih =>
      by_cases opening : form = .bracket true
      · subst opening
        exact ih (by simpa using closed)
      · by_cases closing : form = .bracket false
        · subst closing
          cases pending with
          | zero => simp at closed
          | succ pending => exact ih (by simpa using closed)
        · exact ih (by
            simpa [closesAll_other opening closing] using closed)

private theorem isFilled_enclose_iff {forms : List Form} (nonempty : forms ≠ [])
    (closed : closesAll 0 forms = true) :
    (enclose forms).IsChain (isFilled · ·) ↔ forms.IsChain (isFilled · ·) := by
  rw [enclose, List.isChain_cons, List.isChain_append]
  constructor
  · rintro ⟨_, chain, _⟩
    exact chain
  · intro chain
    refine ⟨?_, chain, List.isChain_singleton _, ?_⟩
    · intro first isFirst
      cases forms with
      | nil => contradiction
      | cons form rest =>
          have same : form = first := by simpa using isFirst
          subst same
          have notClosing : form ≠ .bracket false := by
            rintro rfl
            simp at closed
          simp [isFilled, notClosing]
    · intro last isLast next isNext
      apply isFilled_of_ne_opening
      rintro rfl
      obtain ⟨front, rfl⟩ :=
        List.getLast?_eq_some_iff.mp (by simpa using isLast)
      exact not_opening_of_closesAll closed

theorem trailingOpening_eq_nil {tokens : List Token}
    (closed : closesAll 0 (forms tokens) = true) :
    trailingOpening tokens = [] := by
  rw [trailingOpening]
  cases last : tokens.getLast? with
  | none => rfl
  | some token =>
      obtain ⟨front, rfl⟩ := List.getLast?_eq_some_iff.mp last
      have notOpening : token.isOpening = false := by
        rw [Bool.eq_false_iff, Ne, isOpening_iff]
        intro opening
        refine @not_opening_of_closesAll 0 (forms front) ?_
        simpa [forms, opening] using closed
      simp [notOpening]

/-- The forms of the tokens that count for the structure of a query. -/
def meaningfulForms (tokens : List Token) : List Form :=
  forms (Token.meaningful tokens)

theorem isMeaningful_of_mem {tokens : List Token} {form : Form}
    (member : form ∈ meaningfulForms tokens) : form.isMeaningful = true := by
  obtain ⟨token, isToken, rfl⟩ := List.mem_map.mp member
  exact (List.mem_filter.mp isToken).2

/-- A query has no structural fault exactly if its brackets close and its
forms are coherent. -/
theorem findings_eq_nil_iff {tokens : List Token} :
    findings tokens = [] ↔
      closesAll 0 (meaningfulForms tokens) = true ∧
        IsCoherent (meaningfulForms tokens) := by
  rw [findings, meaningfulForms, isCoherent_iff]
  cases nonempty : Token.meaningful tokens with
  | nil => simp [enclose, isFilled]
  | cons first rest =>
      rw [← nonempty]
      have some : forms (Token.meaningful tokens) ≠ [] := by
        simp [nonempty]
      have full : (Token.meaningful tokens).isEmpty = false := by
        simp [nonempty]
      simp only [full, Bool.false_eq_true, if_false, List.append_eq_nil_iff,
        bracketFindings_eq_nil_iff, connectiveFindings_eq_nil_iff,
        List.length_nil]
      constructor
      · rintro ⟨⟨⟨closed, filled⟩, joined⟩, _⟩
        exact ⟨closed, (isFilled_enclose_iff some closed).mpr filled, joined⟩
      · rintro ⟨closed, filled, joined⟩
        exact ⟨⟨⟨closed, (isFilled_enclose_iff some closed).mp filled⟩,
          joined⟩, trailingOpening_eq_nil closed⟩

end CardQuery.Structure
