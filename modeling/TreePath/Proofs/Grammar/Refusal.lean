import TreePath.Proofs.Grammar.Turns

/-
  Which brackets may not stand where they do, why, and how
  much text a malformed group takes.

  Key definitions include:
    * `Grammar.Overflows`
    * `Grammar.faultAt`
    * `Grammar.RunsToClosing`

  Main statements:
    * `Grammar.readGroup_fault`
    * `Grammar.readGroup_taken`
    * `Grammar.readGroup_malformed`
-/

------------------------------------------------------------
-- Faults of Brackets
------------------------------------------------------------

namespace TreePath

namespace Grammar

variable {body content : List Char} {fault : Fault}

/- A row of digits whose value does not fit in 64 bits. -/
def Overflows
    (content : List Char) : Prop :=
  content ≠ [] ∧ (∀ c ∈ content, c.isDigit = true) ∧
    UInt64.size ≤ Nat.ofDigitChars 10 content 0

instance (content : List Char) :
    Decidable (Overflows content) :=
  inferInstanceAs (Decidable (_ ∧ _ ∧ _))

/-
  What is wrong with a bracket that may not stand before a
  text: it closes nothing, or it is not closed itself, or the
  text up to the first closing bracket is no content.
-/
def faultAt
    (bracket : Char)
    (later : List Char) : Fault :=
  if bracket = ']' then
    .unexpectedBracket
  else if ']' ∉ later then
    .unclosedBracket
  else if Overflows (later.takeWhile (· != ']')) then
    .indexOverflow
  else
    .invalidBracket

/-
  A text is a bracket that opens and all that follows it
  through the first closing bracket, or to the end if there
  is none.
-/
def RunsToClosing
    (text rest : List Char) : Prop :=
  ∃ inside,
    ']' ∉ inside ∧
      (text = '[' :: (inside ++ [']']) ∨
        (text = '[' :: inside ∧ rest = []))

------------------------------------------------------------
-- Groups That Are Refused
------------------------------------------------------------

/- A content that is no position overflows or is invalid. -/
theorem position_fault
    (hFault : position content = .error fault) :
    fault =
      if Overflows content then .indexOverflow
      else .invalidBracket := by
  unfold position at hFault
  split at hFault
  · rename_i hContent
    have hDigits := List.all_eq_true.mp hContent.2
    dsimp only at hFault
    split at hFault
    · cases hFault
    · rename_i hSize
      have hOverflows : Overflows content :=
        ⟨hContent.1, hDigits, Nat.le_of_not_lt hSize⟩
      rw [if_pos hOverflows]
      exact (Except.error.inj hFault).symm
  · rename_i hContent
    have hFits : ¬ Overflows content := by
      rintro ⟨hNonempty, hDigits, _⟩
      exact hContent ⟨hNonempty, List.all_eq_true.mpr hDigits⟩
    rw [if_neg hFits]
    exact (Except.error.inj hFault).symm

/- A quoted reading is never refused. -/
theorem quoted?_content
    {quote : Char}
    {group : Group}
    (hRead : quoted? quote body = some group) :
    ∃ key, group.content = .ok key := by
  unfold quoted? at hRead
  split at hRead
  · simp only [Option.some.injEq] at hRead
    subst hRead
    exact ⟨_, rfl⟩
  · cases hRead

/- A group that is refused was not read as a quoted name. -/
theorem readGroup_eq_unquoted
    (hFault : (readGroup body).content = .error fault) :
    readGroup body = unquoted body := by
  rcases readGroup_cases body with
    hGroup | ⟨quote, text, group, _, _, hQuoted, hGroup⟩
  · exact hGroup
  · rcases quoted?_content hQuoted with ⟨key, hKey⟩
    rw [hGroup, hKey] at hFault
    cases hFault

/- The fault of a group is that of its opening bracket. -/
theorem readGroup_fault
    (hFault : (readGroup body).content = .error fault) :
    fault = faultAt '[' body := by
  have hOther : ¬ ('[' = ']') := by decide
  rw [readGroup_eq_unquoted hFault] at hFault
  unfold faultAt
  rw [if_neg hOther]
  by_cases hClosing : ']' ∈ body
  · rw [if_neg (not_not_intro hClosing)]
    rcases List.eq_append_cons_of_mem hClosing with
      ⟨content, rest, rfl, hOpen⟩
    rw [unquoted_closed hOpen] at hFault
    rw [takeWhile_closing hOpen]
    exact position_fault hFault
  · rw [unquoted_open hClosing] at hFault
    rw [if_pos hClosing]
    exact (Except.error.inj hFault).symm

/-
  A group that is refused runs through its first closing
  bracket and loses nothing.
-/
theorem readGroup_taken
    (hFault : (readGroup body).content = .error fault) :
    '[' :: body =
        (readGroup body).raw ++ (readGroup body).rest ∧
      RunsToClosing (readGroup body).raw
        (readGroup body).rest := by
  rw [readGroup_eq_unquoted hFault]
  by_cases hClosing : ']' ∈ body
  · rcases List.eq_append_cons_of_mem hClosing with
      ⟨content, rest, rfl, hOpen⟩
    rw [unquoted_closed hOpen]
    exact ⟨by simp, content, hOpen, Or.inl rfl⟩
  · rw [unquoted_open hClosing]
    exact ⟨by simp, body, hClosing, Or.inr ⟨rfl, rfl⟩⟩

/- Where a group is refused no lexeme stands. -/
theorem readGroup_malformed
    {lexeme : Lexeme}
    {later : List Char}
    (hFault : (readGroup body).content = .error fault)
    (hWell : lexeme.WellFormed) :
    '[' :: body ≠ lexeme.chars ++ later := by
  intro hText
  cases lexeme with
  | dot =>
      simp only [Lexeme.chars, List.cons_append,
        List.cons.injEq] at hText
      exact absurd hText.1 (by decide)
  | name text =>
      rcases List.exists_cons_of_ne_nil hWell.1 with
        ⟨c, tail, rfl⟩
      have hPlain : Plain c := hWell.2 c (by simp)
      simp only [Lexeme.chars, List.cons_append,
        List.cons.injEq] at hText
      exact hPlain.2.1 hText.1.symm
  | position digits =>
      have hBody : body = digits ++ ']' :: later := by
        simpa [Lexeme.chars] using hText
      rw [hBody, readGroup_position hWell] at hFault
      cases hFault
  | quoted quote text =>
      have hBody :
          body = quote :: (text ++ quote :: ']' :: later) := by
        simpa [Lexeme.chars] using hText
      rw [hBody, readGroup_quoted hWell] at hFault
      cases hFault

end Grammar

end TreePath
