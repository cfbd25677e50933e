import TreePath.Proofs.Grammar.Group

/-
  A text is spelled by at most one row of lexemes: the first
  lexeme can be found at its front.

  Main declarations:
    * `Lexeme.front`
    * `Lexeme.chars_injective`
    * `Lexeme.row_unique`
-/

------------------------------------------------------------
-- One Row for a Text
------------------------------------------------------------

namespace TreePath

namespace Lexeme

open Grammar

variable {lexeme other : Lexeme} {source rest : List Char}

/-
  The characters of the first lexeme of a text and those
  behind it, if there is a lexeme at all.
-/
def front : List Char → List Char × List Char
| '.' :: cs => (['.'], cs)
| '[' :: body => ((readGroup body).raw, (readGroup body).rest)
| cs =>
    (cs.takeWhile (fun c => decide (Plain c)),
      cs.dropWhile (fun c => decide (Plain c)))

/- The first lexeme of a row is found at its front. -/
theorem front_chars
    (hWell : lexeme.WellFormed)
    (hEnds : lexeme.EndsBefore rest) :
    front (lexeme.chars ++ rest) = (lexeme.chars, rest) := by
  cases lexeme with
  | dot => rfl
  | position digits =>
      have hGroup := readGroup_position hWell rest
      have hText :
          (Lexeme.position digits).chars ++ rest =
            '[' :: (digits ++ ']' :: rest) := by
        simp [chars]
      rw [hText, front, hGroup]
  | quoted quote text =>
      have hGroup := readGroup_quoted hWell rest
      have hText :
          (Lexeme.quoted quote text).chars ++ rest =
            '[' :: quote ::
              (text ++ quote :: ']' :: rest) := by
        simp [chars]
      rw [hText, front, hGroup]
  | name text =>
      rcases hWell with ⟨hNonempty, hPlain⟩
      have hInside :
          ∀ c ∈ text, decide (Plain c) = true := by
        simpa using hPlain
      have hStop :
          ∀ c ∈ rest.head?, decide (Plain c) = false := by
        intro c hHead
        exact decide_eq_false (hEnds c hHead)
      rcases List.exists_cons_of_ne_nil hNonempty with
        ⟨c, tail, rfl⟩
      rcases hPlain c (by simp) with ⟨hDot, hOpening, _⟩
      have hFront :
          front (c :: tail ++ rest) =
            ((c :: tail ++ rest).takeWhile
                (fun c => decide (Plain c)),
              (c :: tail ++ rest).dropWhile
                (fun c => decide (Plain c))) := by
        rw [front.eq_3]
        · intro cs hSame
          exact hDot (List.cons.inj hSame).1
        · intro body hSame
          exact hOpening (List.cons.inj hSame).1
      rw [chars, hFront, takeWhile_run hInside hStop,
        dropWhile_run hInside hStop]

/- Well-formed lexemes are told apart by their characters. -/
theorem chars_injective
    (hWell : lexeme.WellFormed)
    (hOther : other.WellFormed)
    (hChars : lexeme.chars = other.chars) :
    lexeme = other := by
  have hName :
      ∀ {text : List Char} {c : Char} {cs : List Char},
        (Lexeme.name text).WellFormed → text = c :: cs →
          c ≠ '.' ∧ c ≠ '[' := by
    intro text c cs hText hSame
    subst hSame
    rcases hText.2 c (by simp) with ⟨hDot, hOpening, _⟩
    exact ⟨hDot, hOpening⟩
  have hGroup :
      ∀ {digits : List Char} {quote : Char}
        {text rest : List Char},
        (Lexeme.position digits).WellFormed →
        (Lexeme.quoted quote text).WellFormed →
          digits ++ [']'] ≠ quote :: rest := by
    intro digits quote text rest hDigits hQuoted hSame
    rcases List.exists_cons_of_ne_nil hDigits.1 with
      ⟨c, tail, rfl⟩
    have hDigit : c.isDigit = true := hDigits.2.1 c (by simp)
    have hQuote : c = quote := (List.cons.inj hSame).1
    subst hQuote
    rcases hQuoted.1 with rfl | rfl <;> cases hDigit
  cases lexeme <;> cases other <;>
    simp only [chars, List.cons.injEq, true_and] at hChars
  case dot.dot => rfl
  case dot.name => exact absurd rfl (hName hOther hChars.symm).1
  case dot.position => exact absurd hChars.1 (by decide)
  case dot.quoted => exact absurd hChars.1 (by decide)
  case name.dot => exact absurd rfl (hName hWell hChars).1
  case name.name => rw [hChars]
  case name.position => exact absurd rfl (hName hWell hChars).2
  case name.quoted => exact absurd rfl (hName hWell hChars).2
  case position.dot => exact absurd hChars.1 (by decide)
  case position.name =>
    exact absurd rfl (hName hOther hChars.symm).2
  case position.position =>
    rw [List.append_cancel_right hChars]
  case position.quoted =>
    exact absurd hChars (hGroup hWell hOther)
  case quoted.dot => exact absurd hChars.1 (by decide)
  case quoted.name =>
    exact absurd rfl (hName hOther hChars.symm).2
  case quoted.position =>
    exact absurd hChars.symm (hGroup hOther hWell)
  case quoted.quoted =>
    rcases hChars with ⟨rfl, hText⟩
    rw [List.append_cancel_right hText]

/- At most one row spells a text. -/
theorem row_unique
    {lexemes others : List Lexeme}
    (hRow : Row lexemes source)
    (hOther : Row others source) :
    lexemes = others := by
  induction hRow generalizing others with
  | nil =>
      generalize hSource : [] = source at hOther
      cases hOther with
      | nil => rfl
      | cons hWell _ _ =>
          have hEmpty := (List.append_eq_nil_iff.mp hSource.symm).1
          exact absurd hEmpty (chars_ne_nil hWell)
  | @cons lexeme lexemes rest hWell hEnds _ ih =>
      generalize hSource : lexeme.chars ++ rest = source
        at hOther
      cases hOther with
      | nil =>
          have hEmpty := (List.append_eq_nil_iff.mp hSource).1
          exact absurd hEmpty (chars_ne_nil hWell)
      | @cons other others later hOtherWell hOtherEnds hLater =>
          have hFront := front_chars hWell hEnds
          rw [hSource, front_chars hOtherWell hOtherEnds]
            at hFront
          rcases Prod.mk.inj hFront with ⟨hChars, rfl⟩
          rw [chars_injective hOtherWell hWell hChars,
            ih hLater]

end Lexeme

end TreePath
