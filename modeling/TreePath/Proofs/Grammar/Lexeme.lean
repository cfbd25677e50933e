import TreePath.Proofs.Grammar.Closing

/-
  This file defines the grammar of path texts without any
  reading of them: a text is a row of lexemes, each a dot, a
  name, a position in brackets or a quoted name in brackets.

  Key definitions include:
    * `Lexeme`
    * `Lexeme.chars`
    * `Lexeme.WellFormed`
    * `Lexeme.step?`
    * `Lexeme.located`
    * `Lexeme.Spells`
    * `Lexeme.Row`

  Main statements:
    * `Lexeme.spells_iff_row`
-/

------------------------------------------------------------
-- Lexemes
------------------------------------------------------------

namespace TreePath

/- The characters that a name may hold. -/
def Plain
    (c : Char) : Prop :=
  c ≠ '.' ∧ c ≠ '[' ∧ c ≠ ']'

instance (c : Char) : Decidable (Plain c) := by
  unfold Plain
  infer_instance

/-
  The pieces of a path text.  Digits are kept as written, so
  that leading zeros count; a quoted name keeps its quote.
-/
inductive Lexeme where
| dot
| name (text : List Char)
| position (digits : List Char)
| quoted (quote : Char) (text : List Char)
deriving DecidableEq, Repr

namespace Lexeme

/- A lexeme as it stands in a text. -/
def chars : Lexeme → List Char
| .dot => ['.']
| .name text => text
| .position digits => '[' :: (digits ++ [']'])
| .quoted quote text =>
    '[' :: quote :: (text ++ [quote, ']'])

/-
  What a lexeme may hold.  Positions have 64 bits; a quoted
  name must not close before its end.
-/
def WellFormed : Lexeme → Prop
| .dot => True
| .name text => text ≠ [] ∧ ∀ c ∈ text, Plain c
| .position digits =>
    digits ≠ [] ∧ (∀ c ∈ digits, c.isDigit = true) ∧
      Nat.ofDigitChars 10 digits 0 < UInt64.size
| .quoted quote text =>
    (quote = '\'' ∨ quote = '"') ∧ text ≠ [] ∧
      ¬ Closes quote text

/- The step that a lexeme stands for; a dot is none. -/
def step? : Lexeme → Option Step
| .dot => none
| .name text => some (.named (String.ofList text))
| .position digits =>
    some (.keyed
      (.index (Nat.ofDigitChars 10 digits 0).toUInt64))
| .quoted _ text =>
    some (.keyed (.name (String.ofList text)))

/-
  The steps of a row of lexemes.  Each lies at the byte where
  its lexeme begins; the row begins at the given byte.
-/
def located : Nat → List Lexeme → List LocatedStep
| _, [] => []
| start, lexeme :: lexemes =>
    let later :=
      located (start + Utf8.size lexeme.chars) lexemes
    match lexeme.step? with
    | none => later
    | some step => ⟨step, some start⟩ :: later

------------------------------------------------------------
-- Rows of Lexemes
------------------------------------------------------------

/- The text of a row. -/
def text
    (lexemes : List Lexeme) : List Char :=
  lexemes.flatMap chars

/-
  A row spells a source if its lexemes are well formed and
  make up the source, and if no name in it could be longer on
  either side.
-/
structure Spells
    (lexemes : List Lexeme)
    (source : List Char) : Prop where
  whole : text lexemes = source
  wellFormed : ∀ lexeme ∈ lexemes, lexeme.WellFormed
  maximal :
    ∀ before name after,
      lexemes = before ++ .name name :: after →
        (∀ c ∈ (text before).getLast?, ¬ Plain c) ∧
          (∀ c ∈ (text after).head?, ¬ Plain c)

/- A name must not stand before a character it could hold. -/
def EndsBefore
    (rest : List Char) : Lexeme → Prop
| .name _ => ∀ c ∈ rest.head?, ¬ Plain c
| _ => True

/- The same rows, built from their front. -/
inductive Row : List Lexeme → List Char → Prop where
| nil : Row [] []
| cons
    {lexeme : Lexeme}
    {lexemes : List Lexeme}
    {rest : List Char} :
    lexeme.WellFormed → lexeme.EndsBefore rest →
      Row lexemes rest →
        Row (lexeme :: lexemes) (lexeme.chars ++ rest)

variable {lexeme : Lexeme} {lexemes : List Lexeme}
variable {source rest : List Char}

/- A dot may stand before any row. -/
theorem Row.dot
    (hRow : Row lexemes rest) :
    Row (.dot :: lexemes) ('.' :: rest) :=
  Row.cons trivial trivial hRow

/- No lexeme is empty. -/
theorem chars_ne_nil
    (hWell : lexeme.WellFormed) :
    lexeme.chars ≠ [] := by
  cases lexeme with
  | dot => simp [chars]
  | name text => exact hWell.1
  | position digits => simp [chars]
  | quoted quote text => simp [chars]

/- Every lexeme but a name ends in a dot or a bracket. -/
theorem getLast?_chars
    (hGroup : ∀ text, lexeme ≠ .name text) :
    ∀ c ∈ lexeme.chars.getLast?, ¬ Plain c := by
  intro c hLast
  cases lexeme with
  | dot =>
      simp only [chars, List.getLast?_singleton,
        Option.mem_some_iff] at hLast
      subst hLast
      decide
  | name text => exact absurd rfl (hGroup text)
  | position digits =>
      rw [chars, ← List.cons_append,
        List.getLast?_concat] at hLast
      simp only [Option.mem_some_iff] at hLast
      subst hLast
      decide
  | quoted quote text =>
      have hChars :
          (Lexeme.quoted quote text).chars =
            ('[' :: quote :: (text ++ [quote])) ++ [']'] := by
        simp [chars]
      rw [hChars, List.getLast?_concat] at hLast
      simp only [Option.mem_some_iff] at hLast
      subst hLast
      decide

@[simp] theorem text_nil : text [] = [] :=
  rfl

@[simp] theorem text_cons
    (lexeme : Lexeme)
    (lexemes : List Lexeme) :
    text (lexeme :: lexemes) =
      lexeme.chars ++ text lexemes :=
  List.flatMap_cons

/- A row is made of its lexemes. -/
theorem Row.text_eq
    (hRow : Row lexemes source) :
    text lexemes = source := by
  induction hRow with
  | nil => rfl
  | cons _ _ _ ih => rw [text_cons, ih]

/- Every lexeme of a row is well formed. -/
theorem Row.wellFormed
    (hRow : Row lexemes source) :
    ∀ lexeme ∈ lexemes, lexeme.WellFormed := by
  induction hRow with
  | nil => simp
  | cons hWell _ _ ih =>
      simp only [List.mem_cons, forall_eq_or_imp]
      exact ⟨hWell, ih⟩

/- A row has no two names side by side. -/
theorem Row.not_adjacent
    {front name : List Char} :
    ¬ Row (.name front :: .name name :: lexemes) source := by
  intro hRow
  cases hRow with
  | cons _ hEnds hLater =>
      have hName : (Lexeme.name name).WellFormed :=
        hLater.wellFormed _ (by simp)
      rcases List.exists_cons_of_ne_nil hName.1 with
        ⟨c, tail, rfl⟩
      have hPlain : Plain c := hName.2 c (by simp)
      exact hEnds c (by simp [← hLater.text_eq, chars]) hPlain

/-
  In a row neither neighbour of a name could belong to it.
  On the left stands a dot or a bracket, as no name can.
-/
theorem Row.maximal
    {before after : List Lexeme}
    {name : List Char}
    (hRow : Row (before ++ .name name :: after) source) :
    (∀ c ∈ (text before).getLast?, ¬ Plain c) ∧
      (∀ c ∈ (text after).head?, ¬ Plain c) := by
  induction before generalizing source with
  | nil =>
      cases hRow with
      | cons _ hEnds hLater =>
          rw [hLater.text_eq]
          exact ⟨by simp, hEnds⟩
  | cons lexeme before ih =>
      have hWhole := hRow
      cases hRow with
      | cons hWell hEnds hLater =>
          rcases ih hLater with ⟨hLeft, hRight⟩
          refine ⟨?_, hRight⟩
          cases before with
          | nil =>
              rw [text_cons, text_nil, List.append_nil]
              apply getLast?_chars
              intro front hFront
              subst hFront
              exact Row.not_adjacent hWhole
          | cons next before =>
              have hNext : next.chars ≠ [] :=
                chars_ne_nil (hLater.wellFormed _ (by simp))
              rw [text_cons, List.getLast?_append_of_ne_nil]
              · exact hLeft
              · simp [hNext]

/- A spelling without its first lexeme is one of the rest. -/
theorem Spells.tail
    (hSpells : Spells (lexeme :: lexemes) source) :
    Spells lexemes (text lexemes) := by
  refine ⟨rfl, ?_, ?_⟩
  · intro later hLater
    exact hSpells.wellFormed later (by simp [hLater])
  · intro before name after hSplit
    rcases
        hSpells.maximal (lexeme :: before) name after
          (by simp [hSplit]) with
      ⟨hLeft, hRight⟩
    refine ⟨?_, hRight⟩
    intro c hLast
    apply hLeft
    rw [text_cons, List.getLast?_append]
    rw [Option.mem_def] at hLast ⊢
    rw [hLast, Option.some_or]

/- The two ways to say what a row of lexemes is agree. -/
theorem spells_iff_row :
    Spells lexemes source ↔ Row lexemes source := by
  constructor
  · intro hSpells
    induction lexemes generalizing source with
    | nil =>
        have hSource : [] = source := hSpells.whole
        rw [← hSource]
        exact Row.nil
    | cons lexeme lexemes ih =>
        have hSource :
            lexeme.chars ++ text lexemes = source := by
          rw [← hSpells.whole, text_cons]
        rw [← hSource]
        apply Row.cons
        · exact hSpells.wellFormed lexeme (by simp)
        · cases lexeme with
          | name name =>
              exact (hSpells.maximal [] name lexemes rfl).2
          | dot => trivial
          | position digits => trivial
          | quoted quote text => trivial
        · exact ih hSpells.tail
  · intro hRow
    refine ⟨hRow.text_eq, hRow.wellFormed, ?_⟩
    intro before name after hSplit
    subst hSplit
    exact hRow.maximal

end Lexeme

end TreePath
