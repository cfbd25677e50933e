import Mathlib.Data.List.Infix
import TreePath.Grammar.Scanner

/-
  Where a quoted name ends: at the first place where its
  quote stands directly before a closing bracket.

  Main declarations:
    * `Closes`
    * `Key.closes_iff`
    * `Grammar.closing?_append`
    * `Grammar.of_closing?`
-/

------------------------------------------------------------
-- Quotes before Brackets
------------------------------------------------------------

namespace TreePath

/-
  Somewhere in a text the quote stands directly before a
  closing bracket.
-/
def Closes
    (quote : Char)
    (text : List Char) : Prop :=
  [quote, ']'] <:+: text

namespace Closes

variable {quote c : Char} {text : List Char}

/- An empty text closes nothing. -/
theorem not_nil : ¬ Closes quote [] := by
  simp [Closes]

/- A text closes at its front or behind it. -/
theorem cons_iff :
    Closes quote (c :: text) ↔
      (c = quote ∧ text.head? = some ']') ∨
        Closes quote text := by
  unfold Closes
  rw [List.infix_cons_iff, List.cons_prefix_cons]
  constructor
  · rintro (⟨rfl, hFront⟩ | hLater)
    · left
      refine ⟨rfl, ?_⟩
      rcases hFront with ⟨rest, rfl⟩
      rfl
    · exact Or.inr hLater
  · rintro (⟨rfl, hHead⟩ | hLater)
    · left
      rcases List.head?_eq_some_iff.mp hHead with ⟨rest, rfl⟩
      exact ⟨rfl, rest, rfl⟩
    · exact Or.inr hLater

end Closes

/- The test of the written form decides `Closes`. -/
theorem Key.closes_iff
    (quote : Char)
    (text : List Char) :
    Key.closes quote text = true ↔ Closes quote text := by
  induction text with
  | nil => simp [Key.closes, Closes]
  | cons c text ih =>
      rw [Closes.cons_iff]
      cases text with
      | nil => simp [Key.closes, Closes.not_nil]
      | cons d text => simp [Key.closes, ih]

------------------------------------------------------------
-- Ends of Quoted Names
------------------------------------------------------------

namespace Grammar

variable {quote : Char} {text rest source : List Char}

/-
  A text that does not close ends at the quote and bracket
  behind it.  The quote must not be the bracket itself, or
  the text could end one character early.
-/
theorem closing?_append
    (hQuote : quote ≠ ']')
    (hOpen : ¬ Closes quote text)
    (rest : List Char) :
    closing? quote (text ++ quote :: ']' :: rest) =
      some (text, rest) := by
  induction text with
  | nil => simp [closing?]
  | cons c text ih =>
      rw [Closes.cons_iff, not_or] at hOpen
      have hLater := ih hOpen.2
      cases text with
      | nil =>
          simp only [List.nil_append] at hLater
          simp [closing?, hQuote]
      | cons d text =>
          have hFront : ¬ (c = quote ∧ d = ']') := by
            simpa using hOpen.1
          simp only [List.cons_append] at hLater ⊢
          simp [closing?, hFront, hLater]

/- The text before the end does not close. -/
theorem of_closing?
    (hSplit : closing? quote source = some (text, rest)) :
    source = text ++ quote :: ']' :: rest ∧
      ¬ Closes quote text := by
  fun_induction closing? quote source generalizing text with
  | case1 c d cs hHere =>
      rcases hHere with ⟨rfl, rfl⟩
      simp only [Option.some.injEq, Prod.mk.injEq] at hSplit
      rcases hSplit with ⟨rfl, rfl⟩
      exact ⟨rfl, Closes.not_nil⟩
  | case2 c d cs hThere hNone ih => simp at hSplit
  | case3 c d cs hThere front later hSome ih =>
      simp only [Option.some.injEq, Prod.mk.injEq] at hSplit
      rcases hSplit with ⟨rfl, rfl⟩
      rcases ih hSome with ⟨hSource, hOpen⟩
      refine ⟨by simp [hSource], ?_⟩
      rw [Closes.cons_iff, not_or]
      refine ⟨?_, hOpen⟩
      rintro ⟨hQuote, hHead⟩
      rcases List.head?_eq_some_iff.mp hHead with ⟨tail, rfl⟩
      apply hThere
      exact ⟨hQuote, (List.cons.inj hSource).1⟩
  | case4 cs hShort => simp at hSplit

end Grammar

end TreePath
