import TreePath.Item.Lexer

/-
  The literal that is written for a text is read as that text.

  Key definitions include:
    * `Item.Spells`

  Main statements:
    * `Json.hexValue?_toDigits`
    * `Item.readText?_escape`
    * `Item.readToken?_ofText`
-/

------------------------------------------------------------
-- Base Sixteen
------------------------------------------------------------

namespace TreePath

namespace Json

/- A digit has its value. -/
theorem hexDigit?_digitChar
    {d : Nat}
    (hDigit : d < 16) :
    hexDigit? d.digitChar = some d := by
  revert d
  decide

/- The last digit counts once, all before it sixteen times. -/
theorem hexValue?_append_digit
    (n : Nat)
    (cs : List Char)
    (c : Char) :
    hexValue? n (cs ++ [c]) =
      (hexValue? n cs).bind (fun value =>
        (hexDigit? c).map (fun d => 16 * value + d)) := by
  induction cs generalizing n with
  | nil =>
      simp only [List.nil_append, hexValue?, Option.bind_some]
      cases hexDigit? c with
      | none => rfl
      | some d => rfl
  | cons b cs ih =>
      simp only [List.cons_append, hexValue?]
      cases hexDigit? b with
      | none => rfl
      | some d => exact ih (16 * n + d)

/- The digits of a number have its value. -/
theorem hexValue?_toDigits
    (n : Nat) :
    hexValue? 0 (Nat.toDigits 16 n) = some n := by
  induction n using Nat.strongRecOn with
  | ind n ih =>
      by_cases hSmall : n < 16
      · rw [Nat.toDigits_of_lt_base hSmall]
        simp [hexValue?, hexDigit?_digitChar hSmall]
      · have hLess : n / 16 < n := by omega
        rw [Nat.toDigits_of_base_le (by decide) (by omega),
          hexValue?_append_digit, ih _ hLess,
          hexDigit?_digitChar (Nat.mod_lt n (by decide))]
        simp [Nat.div_add_mod]

/- No other character is among the digits. -/
theorem ne_of_mem_toDigits
    {n : Nat}
    {c d : Char}
    (hMember : c ∈ Nat.toDigits 16 n)
    (hNone : ∀ k < 16, k.digitChar ≠ d) :
    c ≠ d := by
  induction n using Nat.strongRecOn with
  | ind n ih =>
      by_cases hSmall : n < 16
      · rw [Nat.toDigits_of_lt_base hSmall,
          List.mem_singleton] at hMember
        exact hMember ▸ hNone n hSmall
      · rw [Nat.toDigits_of_base_le (by decide) (by omega),
          List.mem_append, List.mem_singleton] at hMember
        rcases hMember with hFront | rfl
        · exact ih (n / 16) (by omega) hFront
        · exact hNone _ (Nat.mod_lt n (by decide))

end Json

------------------------------------------------------------
-- Characters
------------------------------------------------------------

namespace Item

/-
  A text that is read as one character, whatever follows it.
  It neither closes a text nor breaks a line.
-/
structure Spells
    (piece : List Char)
    (c : Char) : Prop where
  opens : ∀ rest, (piece ++ rest).head? ≠ some '"'
  stays : ∀ rest, endsLine (piece ++ rest) = false
  read :
    ∀ rest,
      character? .characters (piece ++ rest) = some (c, rest)

/- A character behind a backslash may be read as another. -/
theorem spells_of_backslash
    {d c : Char}
    (hLine : endsLine ['\\', d] = false)
    (hRead :
      ∀ rest,
        escapedChar? .characters (d :: rest) =
          some (c, rest)) :
    Spells ['\\', d] c where
  opens := by
    intro rest
    simp
  stays := by
    intro rest
    unfold endsLine at hLine ⊢
    split
    case h_1 hTokens =>
      cases hTokens
      cases hLine
    case h_2 hTokens =>
      cases hTokens
      cases hLine
    case h_3 => rfl
  read := hRead

/- A number in braces is the character of that number. -/
theorem spells_braced
    (c : Char) :
    Spells (Quoted.braced c) c where
  opens := by
    intro rest
    simp [Quoted.braced]
  stays := by
    intro rest
    rfl
  read := by
    intro rest
    let digits := Nat.toDigits 16 c.toNat
    have hNoBrace : ∀ d ∈ digits, (d != '\x7d') = true := by
      intro d hMember
      have hNe : d ≠ '\x7d' :=
        Json.ne_of_mem_toDigits hMember (by decide)
      simpa using hNe
    have hNoBlank : ∀ d ∈ digits, (d != '_') = true := by
      intro d hMember
      have hNe : d ≠ '_' :=
        Json.ne_of_mem_toDigits hMember (by decide)
      simpa using hNe
    have hText :
        Quoted.braced c ++ rest =
          '\\' :: 'u' :: '\x7b' :: (digits ++ '\x7d' :: rest) := by
      simp [Quoted.braced, digits]
    have hWritten :
        (digits ++ '\x7d' :: rest).takeWhile (· != '\x7d') =
          digits := by
      rw [List.takeWhile_append_of_pos hNoBrace]
      simp
    have hRest :
        (digits ++ '\x7d' :: rest).dropWhile (· != '\x7d') =
          '\x7d' :: rest := by
      rw [List.dropWhile_append_of_pos hNoBrace]
      simp
    have hDigits : digits.filter (· != '_') = digits :=
      List.filter_eq_self.mpr hNoBlank
    have hValid : c.toNat.isValidChar := c.valid
    have hLength : digits.length ≤ 6 := by
      rw [Nat.length_toDigits_le_iff (by decide) (by decide)]
      unfold Nat.isValidChar at hValid
      omega
    have hHead : digits.head? ≠ some '_' := by
      intro hBlank
      have hNone := hNoBlank '_' (List.mem_of_mem_head? hBlank)
      simp at hNone
    have hAdmitted :
        digits ≠ [] ∧ digits.length ≤ 6 ∧
          digits.head? ≠ some '_' ∧ c.toNat.isValidChar :=
      ⟨Nat.toDigits_ne_nil, hLength, hHead, hValid⟩
    have hValue : Json.hexValue? 0 digits = some c.toNat :=
      Json.hexValue?_toDigits c.toNat
    rw [hText]
    simp only [character?, escapedChar?, bracedChar?, hWritten,
      hRest, hDigits, hValue]
    rw [if_neg (by decide), if_pos hAdmitted,
      Char.ofNat_toNat]

/- A character that is no backslash and no return may stand
   for itself. -/
theorem spells_self
    {c : Char}
    (hQuote : c ≠ '"')
    (hBackslash : c ≠ '\\')
    (hReturn : c ≠ '\r') :
    Spells [c] c where
  opens := by
    intro rest
    simp [hQuote]
  stays := by
    intro rest
    simp [endsLine, hBackslash]
  read := by
    intro rest
    simp [character?, hReturn, TextKind.admits]

/- A character is spelt as it is escaped, but for the null. -/
theorem spells_escape
    {c : Char}
    (hNull : c ≠ '\x00') :
    Spells (Quoted.escape '"' c) c := by
  unfold Quoted.escape
  by_cases hQuote : c = '"' ∨ c = '\\'
  · rw [if_pos hQuote]
    rcases hQuote with rfl | rfl
    · exact spells_of_backslash rfl (fun _ => rfl)
    · exact spells_of_backslash rfl (fun _ => rfl)
  by_cases hBreak : c = '\n'
  · subst hBreak
    exact spells_of_backslash rfl (fun _ => rfl)
  by_cases hReturn : c = '\r'
  · subst hReturn
    exact spells_of_backslash rfl (fun _ => rfl)
  by_cases hTab : c = '\t'
  · subst hTab
    exact spells_of_backslash rfl (fun _ => rfl)
  rw [if_neg hQuote, if_neg hBreak, if_neg hReturn,
    if_neg hTab, if_neg hNull]
  rcases not_or.mp hQuote with ⟨hNoQuote, hNoBackslash⟩
  split
  · exact spells_braced c
  · exact spells_self hNoQuote hNoBackslash hReturn

/- The null may be spelt in two ways. -/
theorem spells_null :
    Spells ['\\', '0'] '\x00' ∧
      Spells ['\\', 'x', '0', '0'] '\x00' := by
  refine ⟨spells_of_backslash rfl (fun _ => rfl), ?_, ?_, ?_⟩
  · intro rest
    simp
  · intro rest
    rfl
  · intro rest
    rfl

------------------------------------------------------------
-- Texts
------------------------------------------------------------

/- A character is read in front of a text. -/
theorem readText?_of_spells
    {piece cs text : List Char}
    {c : Char}
    {fuel : Nat}
    (hPiece : Spells piece c)
    (hRest :
      readText? .characters fuel cs = some (text, [])) :
    readText? .characters (fuel + 1) (piece ++ cs) =
      some (c :: text, []) := by
  have hOpens := hPiece.opens cs
  unfold readText?
  split
  case h_1 hQuote =>
    rw [hQuote] at hOpens
    exact absurd rfl hOpens
  case h_2 =>
    simp [hPiece.stays cs, hPiece.read cs, hRest]

/- Every character is spelt by a piece that is not empty. -/
theorem exists_spells_escape
    (c : Char)
    (cs : List Char) :
    ∃ piece,
      Literal.escape (c :: cs) = piece ++ Literal.escape cs ∧
        Spells piece c ∧ piece ≠ [] := by
  by_cases hNull : c = '\x00'
  · subst hNull
    rcases spells_null with ⟨hShort, hLong⟩
    rcases cs with _ | ⟨d, ds⟩
    · exact ⟨_, rfl, hShort, by simp⟩
    · simp only [Literal.escape]
      split
      · exact ⟨_, rfl, hLong, by simp⟩
      · exact ⟨_, rfl, hShort, by simp⟩
  · have hSpells := spells_escape hNull
    refine ⟨Quoted.escape '"' c, ?_, hSpells, ?_⟩
    · rw [Literal.escape]
      exact hNull
    · intro hNothing
      have hRead := hSpells.read []
      rw [hNothing] at hRead
      cases hRead

/- An escaped text is read up to its quote. -/
theorem readText?_escape
    {fuel : Nat}
    {cs : List Char}
    (hFuel : (Literal.escape cs).length < fuel) :
    readText? .characters fuel (Literal.escape cs ++ ['"']) =
      some (cs, []) := by
  induction cs generalizing fuel with
  | nil =>
      cases fuel with
      | zero => cases hFuel
      | succ fuel => rfl
  | cons c cs ih =>
      rcases exists_spells_escape c cs with
        ⟨piece, hEscape, hSpells, hSome⟩
      rw [hEscape, List.length_append] at hFuel
      have hPositive := List.length_pos_iff.mpr hSome
      cases fuel with
      | zero => cases hFuel
      | succ fuel =>
          rw [hEscape, List.append_assoc]
          exact readText?_of_spells hSpells (ih (by omega))

/- The literal of a text has a quote on either side. -/
theorem toList_written_ofText
    (text : String) :
    (Literal.ofText text).written.toList =
      '"' :: (Literal.escape text.toList ++ ['"']) := by
  simp [Literal.ofText]

/- It is read back whole. -/
theorem readLiteral?_ofText
    (text : String) :
    readLiteral? (Literal.ofText text).written.toList =
      some (.literal (Literal.ofText text), []) := by
  have hRead :
      readText? .characters
          (Literal.escape text.toList ++ ['"']).length
          (Literal.escape text.toList ++ ['"']) =
        some (text.toList, []) :=
    readText?_escape (by simp)
  have hAll
      (cs : List Char) :
      upTo cs [] = String.ofList cs := by
    simp [upTo]
  rw [toList_written_ofText]
  unfold readLiteral?
  simp only [hRead, textLiteral, Option.map_some, skipSuffix,
    hAll, String.ofList_toList]
  rfl

/- No other token can be read from it. -/
theorem readToken?_ofText
    (text : String) :
    readToken? (Literal.ofText text).written.toList =
      some (.literal (Literal.ofText text), []) := by
  have hBroken :
      readBroken? (Literal.ofText text).written.toList =
        none := by
    rw [toList_written_ofText]
    rfl
  have hBracket :
      readBracket? (Literal.ofText text).written.toList =
        none := by
    rw [toList_written_ofText]
    rfl
  simp [readToken?, hBroken, hBracket, readLiteral?_ofText]

end Item

end TreePath
