import CardQuery.Search.Structure

/-!
# Faults of the structure

The checks of brackets and of connectives walk over the tokens, one of them with
a stack, but what they report is about one token or about two neighbours.  Where
their findings come from, what they flag and what they point at are each read
off from these few kinds of faults.
-/

namespace CardQuery

/-- The codes of findings about one connective. -/
def Code.ofOneConnective : List Code :=
  [.connectiveAtStart, .connectiveAtEnd, .orphanedConnective,
   .connectiveAfterOpening]

namespace Structure

/-- What is wrong with brackets among tokens. -/
inductive BracketFault (tokens : List Token) : Finding → Prop where
  | leftOpen {opening : Token} :
      opening ∈ tokens → opening.isOpening = true →
      BracketFault tokens (unmatchedOpening opening)
  | stray {closing : Token} :
      closing ∈ tokens → closing.isClosing = true →
      BracketFault tokens (unmatchedClosing closing)
  | hollow {opening closing : Token} {message : Text} :
      [opening, closing] <:+: tokens → opening.isOpening = true →
      closing.isClosing = true →
      BracketFault tokens ⟨.emptyBrackets, message,
        some ⟨opening.position, closing.stop - opening.position⟩, []⟩

/-- What is wrong with connectives among tokens. -/
inductive ConnectiveFault (tokens : List Token) : Finding → Prop where
  | alone {token : Token} {code : Code} {message : Text} :
      token ∈ tokens → token.form.connective?.isSome = true →
      code ∈ Code.ofOneConnective →
      ConnectiveFault tokens (.onToken token code message [])
  | consecutive {first second : Token} {message : Text} :
      [first, second] <:+: tokens →
      first.form.connective?.isSome = true →
      second.form.connective?.isSome = true →
      ConnectiveFault tokens ⟨.consecutiveConnectives, message,
        some ⟨first.position, second.stop - first.position⟩, []⟩

variable {pending tokens rest : List Token} {before : Option Token}
  {finding : Finding}

theorem BracketFault.cons (fault : BracketFault rest finding) (token : Token) :
    BracketFault (token :: rest) finding := by
  cases fault with
  | leftOpen member opening =>
      exact .leftOpen (List.mem_cons_of_mem token member) opening
  | stray member closing =>
      exact .stray (List.mem_cons_of_mem token member) closing
  | hollow neighbours opening closing =>
      exact .hollow (List.infix_cons neighbours) opening closing

theorem ConnectiveFault.cons (fault : ConnectiveFault rest finding)
    (token : Token) : ConnectiveFault (token :: rest) finding := by
  cases fault with
  | alone member joining code =>
      exact .alone (List.mem_cons_of_mem token member) joining code
  | consecutive neighbours first second =>
      exact .consecutive (List.infix_cons neighbours) first second

private theorem cases_of_mem_bracketFindings
    (member : finding ∈ bracketFindings pending tokens) :
    (∃ opening ∈ pending, finding = unmatchedOpening opening) ∨
      BracketFault tokens finding := by
  fun_induction bracketFindings pending tokens with
  | case1 pending =>
      obtain ⟨opening, isPending, rfl⟩ := List.mem_map.mp member
      exact Or.inl ⟨opening, List.mem_reverse.mp isPending, rfl⟩
  | case2 pending token rest opening ih =>
      rcases List.mem_append.mp member with empty | later
      · cases rest with
        | nil => cases empty
        | cons next rest =>
            rw [emptyBrackets, List.mem_ite_nil_right,
              List.mem_singleton] at empty
            obtain ⟨closing, rfl⟩ := empty
            exact Or.inr (.hollow ⟨[], rest, rfl⟩ opening closing)
      · rcases ih later with ⟨other, isPending, rfl⟩ | fault
        · rcases List.mem_cons.mp isPending with rfl | isPending
          · exact Or.inr (.leftOpen List.mem_cons_self opening)
          · exact Or.inl ⟨other, isPending, rfl⟩
        · exact Or.inr (fault.cons token)
  | case3 token rest opening closing ih =>
      rcases List.mem_cons.mp member with rfl | later
      · exact Or.inr (.stray List.mem_cons_self closing)
      · exact (ih later).imp_right (·.cons token)
  | case4 token rest opening closing innermost outer ih =>
      rcases ih member with ⟨other, isPending, rfl⟩ | fault
      · exact Or.inl ⟨other, List.mem_cons_of_mem innermost isPending, rfl⟩
      · exact Or.inr (fault.cons token)
  | case5 pending token rest opening closing ih =>
      exact (ih member).imp_right (·.cons token)

theorem bracketFault_of_mem (member : finding ∈ bracketFindings [] tokens) :
    BracketFault tokens finding := by
  rcases cases_of_mem_bracketFindings member with ⟨_, isPending, _⟩ | fault
  · cases isPending
  · exact fault

theorem BracketFault.exists_span (fault : BracketFault tokens finding) :
    ∃ span, finding.span = some span := by
  cases fault <;> exact ⟨_, rfl⟩

theorem ConnectiveFault.exists_neighbours
    (fault : ConnectiveFault tokens finding)
    (code : finding.code = .consecutiveConnectives) :
    ∃ first second, [first, second] <:+: tokens ∧
      first.form.connective?.isSome = true ∧
      finding.span = some ⟨first.position, second.stop - first.position⟩ := by
  cases fault with
  | alone _ _ isAlone =>
      have other : Code.consecutiveConnectives ∉ Code.ofOneConnective := by
        decide
      exact absurd (code ▸ isAlone) other
  | @consecutive first second _ neighbours isFirst _ =>
      exact ⟨first, second, neighbours, isFirst, rfl⟩

private theorem connectiveFault_of_mem_consecutive {token : Token}
    {connective : Connective} (joining : token.form.connective? = some connective)
    (member : finding ∈ consecutive token connective rest.head?) :
    ConnectiveFault (token :: rest) finding := by
  cases rest with
  | nil => cases member
  | cons following rest =>
      rw [List.head?_cons, consecutive] at member
      split at member
      next second isSecond =>
        rw [List.mem_ite_nil_left, List.mem_singleton] at member
        rw [member.2]
        exact .consecutive ⟨[], rest, rfl⟩ (by simp [joining])
          (by simp [isSecond])
      next => cases member

private theorem connectiveFault_of_mem_neighbourFindings
    (member : finding ∈ neighbourFindings before tokens) :
    ConnectiveFault tokens finding := by
  induction tokens generalizing before with
  | nil => cases member
  | cons token rest ih =>
      rw [neighbourFindings, List.mem_append] at member
      rcases member with here | later
      · split at here
        next connective joining =>
          have isConnective : token.form.connective?.isSome = true := by
            simp [joining]
          simp only [orphaned, afterOpening, List.mem_append,
            List.mem_ite_nil_right, List.mem_singleton] at here
          rcases here with (followed | ⟨_, rfl⟩) | ⟨_, rfl⟩
          · exact connectiveFault_of_mem_consecutive joining followed
          · exact .alone List.mem_cons_self isConnective (by decide)
          · exact .alone List.mem_cons_self isConnective (by decide)
        next => cases here
      · exact (ih later).cons token

private theorem connectiveFault_of_mem_atStart
    (member : finding ∈ atStart tokens) :
    ConnectiveFault tokens finding := by
  unfold atStart at member
  split at member
  next first rest =>
    split at member
    · cases member
    · cases member
    next connective joining =>
      rw [List.mem_singleton.mp member]
      exact .alone List.mem_cons_self (by simp [joining]) (by decide)
  next => cases member

private theorem connectiveFault_of_mem_atEnd (member : finding ∈ atEnd tokens) :
    ConnectiveFault tokens finding := by
  unfold atEnd at member
  split at member
  next last isLast =>
    split at member
    · cases member
    next connective joining =>
      rw [List.mem_singleton.mp member]
      exact .alone (List.mem_of_getLast? isLast) (by simp [joining]) (by decide)
  next => cases member

theorem connectiveFault_of_mem (member : finding ∈ connectiveFindings tokens) :
    ConnectiveFault tokens finding := by
  simp only [connectiveFindings, List.mem_append] at member
  rcases member with (start | final) | neighbours
  · exact connectiveFault_of_mem_atStart start
  · exact connectiveFault_of_mem_atEnd final
  · exact connectiveFault_of_mem_neighbourFindings neighbours

theorem exists_last_of_mem_trailingOpening
    (member : finding ∈ trailingOpening tokens) :
    ∃ last, tokens.getLast? = some last ∧ last.isOpening = true ∧
      finding.code = .trailingOpening ∧ finding.span = some last.span := by
  unfold trailingOpening at member
  split at member
  next last isLast =>
    rw [List.mem_ite_nil_right, List.mem_singleton] at member
    obtain ⟨opening, rfl⟩ := member
    exact ⟨last, isLast, opening, rfl, rfl⟩
  next => cases member

end Structure

end CardQuery
