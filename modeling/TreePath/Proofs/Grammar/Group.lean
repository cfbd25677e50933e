import Mathlib.Data.List.TakeWhile
import TreePath.Proofs.Grammar.Lexeme

/-
  Bracket groups against the grammar: reading a group gives a
  key exactly where a position or a quoted name stands, and
  the group is then that lexeme.

  Main declarations:
    * `Grammar.unquoted_closed`
    * `Grammar.readGroup_cases`
    * `Grammar.readGroup_position`
    * `Grammar.readGroup_quoted`
    * `Grammar.readGroup_sound`
-/

------------------------------------------------------------
-- Splitting at a Character Class
------------------------------------------------------------

namespace TreePath

namespace Grammar

variable {text body rest : List Char}

/- A run of a class is taken up to where the class ends. -/
theorem takeWhile_run
    {p : Char → Bool}
    (hInside : ∀ c ∈ text, p c = true)
    (hStop : ∀ c ∈ rest.head?, p c = false) :
    (text ++ rest).takeWhile p = text := by
  rw [List.takeWhile_append_of_pos hInside]
  cases rest with
  | nil => simp
  | cons c rest =>
      have hc : p c = false := hStop c (by simp)
      simp [hc]

/- Dropping a run of a class leaves what stands behind it. -/
theorem dropWhile_run
    {p : Char → Bool}
    (hInside : ∀ c ∈ text, p c = true)
    (hStop : ∀ c ∈ rest.head?, p c = false) :
    (text ++ rest).dropWhile p = rest := by
  rw [List.dropWhile_append_of_pos hInside]
  cases rest with
  | nil => rfl
  | cons c rest =>
      have hc : p c = false := hStop c (by simp)
      simp [hc]

------------------------------------------------------------
-- Unquoted Groups
------------------------------------------------------------

/- What holds no closing bracket is taken before one. -/
theorem takeWhile_closing
    (hOpen : ']' ∉ text)
    (rest : List Char) :
    (text ++ ']' :: rest).takeWhile (· != ']') = text := by
  apply takeWhile_run
  · intro c hMember
    rw [bne_iff_ne]
    rintro rfl
    exact hOpen hMember
  · simp

/- A group takes the text through its first closing bracket. -/
theorem unquoted_closed
    (hOpen : ']' ∉ text)
    (rest : List Char) :
    unquoted (text ++ ']' :: rest) =
      { raw := '[' :: (text ++ [']'])
        content := position text
        rest := rest } := by
  have hTaken := takeWhile_closing hOpen rest
  have hWhole :=
    List.takeWhile_append_dropWhile (p := (· != ']'))
      (l := text ++ ']' :: rest)
  rw [hTaken, List.append_cancel_left_eq] at hWhole
  simp [unquoted, hTaken, hWhole]

/- Without a closing bracket it takes the whole text. -/
theorem unquoted_open
    (hOpen : ']' ∉ body) :
    unquoted body =
      { raw := '[' :: body
        content := .error .unclosedBracket
        rest := [] } := by
  have hDrop : body.dropWhile (· != ']') = [] := by
    rw [List.dropWhile_eq_nil_iff]
    intro c hMember
    rw [bne_iff_ne]
    rintro rfl
    exact hOpen hMember
  simp [unquoted, hDrop]

/- A group is read as a quoted name if it can be. -/
theorem readGroup_cases
    (body : List Char) :
    readGroup body = unquoted body ∨
      ∃ quote text group,
        (quote = '\'' ∨ quote = '"') ∧ body = quote :: text ∧
          quoted? quote text = some group ∧
            readGroup body = group := by
  unfold readGroup
  split
  · rename_i text
    cases hQuoted : quoted? '\'' text with
    | none => exact Or.inl rfl
    | some group =>
        right
        exact ⟨'\'', text, group, Or.inl rfl, rfl, hQuoted, rfl⟩
  · rename_i text
    cases hQuoted : quoted? '"' text with
    | none => exact Or.inl rfl
    | some group =>
        right
        exact ⟨'"', text, group, Or.inr rfl, rfl, hQuoted, rfl⟩
  · exact Or.inl rfl

------------------------------------------------------------
-- Reading What the Grammar Allows
------------------------------------------------------------

/- No digit is a closing bracket or a quote. -/
theorem ne_of_isDigit
    {c d : Char}
    (hDigit : c.isDigit = true)
    (hOther : d.isDigit = false) :
    c ≠ d := by
  rintro rfl
  rw [hDigit] at hOther
  cases hOther

/- A position in brackets is read as that position. -/
theorem readGroup_position
    {digits : List Char}
    (hWell : (Lexeme.position digits).WellFormed)
    (rest : List Char) :
    readGroup (digits ++ ']' :: rest) =
      { raw := (Lexeme.position digits).chars
        content := .ok
          (.index (Nat.ofDigitChars 10 digits 0).toUInt64)
        rest := rest } := by
  rcases hWell with ⟨hNonempty, hDigits, hSize⟩
  rcases readGroup_cases (digits ++ ']' :: rest) with
    hGroup | ⟨quote, text, group, hQuote, hBody, _⟩
  · have hOpen : ']' ∉ digits := by
      intro hMember
      exact ne_of_isDigit (hDigits _ hMember) rfl rfl
    have hAll : digits.all Char.isDigit = true :=
      List.all_eq_true.mpr hDigits
    have hWord :
        Nat.ofDigitChars 10 digits 0 < UInt64.size :=
      hSize
    rw [hGroup, unquoted_closed hOpen]
    simp [position, hNonempty, hAll, hWord, Lexeme.chars]
  · -- A digit stands in front, so no quoted reading is tried.
    exfalso
    rcases List.exists_cons_of_ne_nil hNonempty with
      ⟨c, tail, rfl⟩
    have hFront : c.isDigit = true := hDigits c (by simp)
    have hSame : c = quote := (List.cons.inj hBody).1
    rcases hQuote with rfl | rfl
    · exact ne_of_isDigit hFront rfl hSame
    · exact ne_of_isDigit hFront rfl hSame

/- A quoted name in brackets is read as that name. -/
theorem readGroup_quoted
    {quote : Char}
    {text : List Char}
    (hWell : (Lexeme.quoted quote text).WellFormed)
    (rest : List Char) :
    readGroup (quote :: (text ++ quote :: ']' :: rest)) =
      { raw := (Lexeme.quoted quote text).chars
        content := .ok (.name (String.ofList text))
        rest := rest } := by
  rcases hWell with ⟨hQuote, hNonempty, hOpen⟩
  have hBracket : quote ≠ ']' := by
    rcases hQuote with rfl | rfl <;> decide
  have hSplit := closing?_append hBracket hOpen rest
  rcases List.exists_cons_of_ne_nil hNonempty with
    ⟨c, tail, rfl⟩
  have hQuoted :
      quoted? quote (c :: tail ++ quote :: ']' :: rest) =
        some
          { raw := (Lexeme.quoted quote (c :: tail)).chars
            content := .ok (.name (String.ofList (c :: tail)))
            rest := rest } := by
    unfold quoted?
    rw [hSplit]
    simp [Lexeme.chars]
  rcases hQuote with rfl | rfl
  · simp only [readGroup, hQuoted, Option.getD_some]
  · simp only [readGroup, hQuoted, Option.getD_some]

------------------------------------------------------------
-- The Grammar Allows What Is Read
------------------------------------------------------------

/-
  A group stands in front of a text if it is a lexeme there,
  and the lexeme has the key.
-/
def Group.Stands
    (group : Group)
    (key : Key)
    (source : List Char) : Prop :=
  ∃ lexeme : Lexeme,
    lexeme.WellFormed ∧
      lexeme.step? = some (.keyed key) ∧
      source = lexeme.chars ++ group.rest ∧
      group.raw = lexeme.chars

/- A quoted reading is a quoted name of the grammar. -/
theorem quoted?_sound
    {quote : Char}
    {group : Group}
    {key : Key}
    (hQuote : quote = '\'' ∨ quote = '"')
    (hRead : quoted? quote body = some group)
    (hKey : group.content = .ok key) :
    group.Stands key ('[' :: quote :: body) := by
  unfold quoted? at hRead
  split at hRead
  · rename_i c text rest hSplit
    rcases of_closing? hSplit with ⟨hBody, hOpen⟩
    simp only [Option.some.injEq] at hRead
    subst hRead
    simp only [Except.ok.injEq] at hKey
    subst hKey
    refine ⟨.quoted quote (c :: text), ?_, rfl, ?_, ?_⟩
    · exact ⟨hQuote, by simp, hOpen⟩
    · simp [hBody, Lexeme.chars]
    · simp [Lexeme.chars]
  · simp at hRead

/- A content that gives a key is a row of digits. -/
theorem position_sound
    {content : List Char}
    {key : Key}
    (hKey : position content = .ok key) :
    (Lexeme.position content).WellFormed ∧
      key =
        .index (Nat.ofDigitChars 10 content 0).toUInt64 := by
  unfold position at hKey
  split at hKey
  · rename_i hContent
    dsimp only at hKey
    split at hKey
    · rename_i hSize
      simp only [Except.ok.injEq] at hKey
      have hDigits := List.all_eq_true.mp hContent.2
      exact ⟨⟨hContent.1, hDigits, hSize⟩, hKey.symm⟩
    · simp at hKey
  · simp at hKey

/- An unquoted reading with a key is a position. -/
theorem unquoted_sound
    {key : Key}
    (hKey : (unquoted body).content = .ok key) :
    (unquoted body).Stands key ('[' :: body) := by
  by_cases hClosing : ']' ∈ body
  · rcases List.eq_append_cons_of_mem hClosing with
      ⟨digits, rest, rfl, hOpen⟩
    rw [unquoted_closed hOpen] at hKey ⊢
    rcases position_sound hKey with ⟨hWell, rfl⟩
    refine ⟨.position digits, hWell, rfl, ?_, rfl⟩
    simp [Lexeme.chars]
  · rw [unquoted_open hClosing] at hKey
    cases hKey

/- A group that is read as a key is a lexeme with that key. -/
theorem readGroup_sound
    {key : Key}
    (hKey : (readGroup body).content = .ok key) :
    (readGroup body).Stands key ('[' :: body) := by
  rcases readGroup_cases body with
    hGroup | ⟨quote, text, group, hQuote, rfl, hQuoted, hGroup⟩
  · rw [hGroup] at hKey ⊢
    exact unquoted_sound hKey
  · rw [hGroup] at hKey ⊢
    exact quoted?_sound hQuote hQuoted hKey

end Grammar

end TreePath
