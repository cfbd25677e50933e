import Mathlib.Data.List.TakeWhile
import TreePath.Item.Lexer

/-
  Words as program texts.  A text of letters, digits and what
  else may continue an identifier is one name if it begins as
  one; otherwise it is no token at all, or it begins with a
  literal.

  Key definitions include:
    * `CodePoints.apart`
    * `Identifier.isWord`
    * `Item.outermost`

  Main statements:
    * `Identifier.isContinue_of_outside`
    * `Item.readTokens?_of_word`
    * `Item.readToken?_segment`
    * `Item.outermost_of_nest?`
-/

------------------------------------------------------------
-- Ranges
------------------------------------------------------------

namespace TreePath

namespace CodePoints

/- Whether no range of some meets one of others. -/
def apart
    (ranges others : List (Nat × Nat)) : Bool :=
  ranges.all (fun r =>
    others.all (fun s => Nat.blt r.2 s.1 || Nat.blt s.2 r.1))

/- A character lies on one side only. -/
theorem contains_of_apart
    {ranges others : List (Nat × Nat)}
    {c : Char}
    (hApart : apart ranges others = true)
    (hInside : contains ranges c = true) :
    contains others c = false := by
  rcases List.any_eq_true.mp hInside with ⟨r, hr, hc⟩
  apply List.any_eq_false.mpr
  intro s hs hOther
  have hSides :=
    List.all_eq_true.mp (List.all_eq_true.mp hApart r hr) s hs
  simp only [Bool.and_eq_true, Bool.or_eq_true,
    decide_eq_true_eq, Nat.blt_eq] at hc hOther hSides
  omega

end CodePoints

------------------------------------------------------------
-- Characters of Words
------------------------------------------------------------

namespace Identifier

/- A text of characters that may continue an identifier. -/
def isWord
    (text : String) : Bool :=
  text.toList.all isContinue

/- Blanks, marks, brackets and quotes. -/
def outsideRanges : List (Nat × Nat) :=
  [ (0x09, 0x0d), (0x20, 0x2f), (0x3a, 0x40), (0x5b, 0x5e),
    (0x60, 0x60), (0x7b, 0x7e), (0x85, 0x85), (0xa0, 0xa0),
    (0x1680, 0x1680), (0x2000, 0x200a), (0x200e, 0x200f),
    (0x2028, 0x2029), (0x202f, 0x202f), (0x205f, 0x205f),
    (0x3000, 0x3000) ]

/- Letters, digits and the underscore, of the oldest code. -/
def plainRanges : List (Nat × Nat) :=
  [ (0x30, 0x39), (0x41, 0x5a), (0x5f, 0x5f), (0x61, 0x7a) ]

theorem apart_start :
    CodePoints.apart outsideRanges startRanges = true := by
  decide +kernel

theorem apart_continue :
    CodePoints.apart outsideRanges continueRanges = true := by
  decide +kernel

theorem apart_plain :
    CodePoints.apart outsideRanges plainRanges = true := by
  decide

variable {c d : Char}

/- The letters of the oldest code, by their numbers. -/
theorem isAlpha_iff :
    c.isAlpha = true ↔
      (65 ≤ c.toNat ∧ c.toNat ≤ 90) ∨
        (97 ≤ c.toNat ∧ c.toNat ≤ 122) := by
  have hLetters :
      c.isAlpha =
        (decide (c.val ≥ 65 ∧ c.val ≤ 90) ||
          (decide (c.val ≥ 97) && decide (c.val ≤ 122))) :=
    rfl
  simp [hLetters, UInt32.le_iff_toNat_le]

/- What stands between words is no part of one. -/
theorem isContinue_of_outside
    (hOutside :
      CodePoints.contains outsideRanges c = true) :
    isContinue c = false := by
  have hStart :=
    CodePoints.contains_of_apart apart_start hOutside
  have hContinue :=
    CodePoints.contains_of_apart apart_continue hOutside
  have hPlain :=
    CodePoints.contains_of_apart apart_plain hOutside
  have hUnderscore : ¬c = '_' := by
    rintro rfl
    cases hPlain
  simp [CodePoints.contains, plainRanges] at hPlain
  have hAlpha : c.isAlpha = false := by
    rw [Bool.eq_false_iff, Ne, isAlpha_iff]
    omega
  simp [isContinue, isStart, hStart, hContinue, hUnderscore,
    hAlpha, Char.isDigit, UInt32.le_iff_toNat_le]
  omega

/- A character of a word is none that stands between words. -/
theorem ne_of_isContinue
    (hInside : isContinue c = true)
    (hOutside :
      CodePoints.contains outsideRanges d = true) :
    c ≠ d := by
  rintro rfl
  rw [isContinue_of_outside hOutside] at hInside
  cases hInside

/- A character of a word is not blank. -/
theorem isBlank_of_isContinue
    (hInside : isContinue c = true) :
    Blank.isBlank c = false := by
  apply Bool.eq_false_iff.mpr
  intro hBlank
  have hOutside :
      CodePoints.contains outsideRanges c = true := by
    simp [Blank.isBlank] at hBlank
    rcases hBlank with ((rfl | hLow) | hListed) | hHigh
    · decide
    all_goals
      simp [CodePoints.contains, outsideRanges]
      omega
  rw [isContinue_of_outside hOutside] at hInside
  cases hInside

/- No identifier begins with a digit. -/
theorem isDigit_of_isStart
    (hStart : isStart c = true) :
    c.isDigit = false := by
  apply Bool.eq_false_iff.mpr
  intro hDigit
  have hInside :
      CodePoints.contains [(0x30, 0x39)] c = true := by
    simpa [CodePoints.contains, Char.isDigit,
      UInt32.le_iff_toNat_le] using hDigit
  have hRanges : CodePoints.contains startRanges c = false :=
    CodePoints.contains_of_apart (by decide +kernel) hInside
  have hUnderscore : ¬c = '_' := by
    rintro rfl
    cases hDigit
  simp [CodePoints.contains] at hInside
  simp [isStart, hRanges, hUnderscore, isAlpha_iff] at hStart
  omega

end Identifier

------------------------------------------------------------
-- First Tokens
------------------------------------------------------------

namespace Item

open Identifier

variable {c : Char} {cs rest : List Char}

/- A word begins right where it is. -/
theorem gap?_of_isContinue
    (hc : isContinue c = true) :
    gap? (c :: cs) = some .none := by
  have hSlash := ne_of_isContinue hc (d := '/') (by decide)
  have hBlank := isBlank_of_isContinue hc
  unfold gap?
  split
  case h_1 hSame => exact absurd (List.cons.inj hSame).1 hSlash
  case h_2 hSame => exact absurd (List.cons.inj hSame).1 hSlash
  case h_3 hSame =>
    rcases List.cons.inj hSame with ⟨rfl, rfl⟩
    simp [hBlank]
  case h_4 hSame => cases hSame

/- A word is no broken literal. -/
theorem readBroken?_of_isContinue
    (hc : isContinue c = true) :
    readBroken? (c :: cs) = none := by
  have hOther := ne_of_isContinue hc (d := '(') (by decide)
  have hText :
      Literal.broken.written.toList =
        '(' :: "/*ERROR*/)".toList := by
    decide
  simp [readBroken?, hText, List.isPrefixOf, hOther.symm]

/- A word begins with no bracket. -/
theorem readBracket?_of_isContinue
    (hc : isContinue c = true) :
    readBracket? (c :: cs) = none := by
  have hBrackets :
      ∀ d ∈ "()[]\x7b\x7d".toList, c ≠ d := by
    intro d hd
    have hOutside :
        "()[]\x7b\x7d".toList.all
          (CodePoints.contains outsideRanges) = true := by
      decide
    exact
      ne_of_isContinue hc (List.all_eq_true.mp hOutside d hd)
  simp only [String.reduceToList, List.forall_mem_cons]
    at hBrackets
  unfold readBracket?
  split <;> simp_all

/- A word begins with no mark. -/
theorem startsMark_of_isContinue
    (hc : isContinue c = true) :
    startsMark (c :: cs) = false := by
  have hOutside :
      marks.all (CodePoints.contains outsideRanges) = true := by
    decide
  have hMark : c ∉ marks := by
    intro hMember
    exact
      ne_of_isContinue hc
        (List.all_eq_true.mp hOutside c hMember) rfl
  unfold startsMark
  split
  case h_1 => rfl
  case h_2 => rfl
  case h_3 hSame =>
    rcases List.cons.inj hSame with ⟨rfl, rfl⟩
    simpa using hMark
  case h_4 => rfl

theorem readMark?_of_isContinue
    (hc : isContinue c = true) :
    readMark? (c :: cs) = none := by
  have hTick := ne_of_isContinue hc (d := '\'') (by decide)
  unfold readMark?
  split
  case h_1 hSame => exact absurd (List.cons.inj hSame).1 hTick
  case h_2 => simp [startsMark_of_isContinue hc]
  case h_3 => rfl

------------------------------------------------------------
-- Literals
------------------------------------------------------------

/- A letter counts ten or more. -/
theorem ten_le_of_hexDigit?
    {n : Nat}
    (hDigit : c.isDigit = false)
    (hHex : Json.hexDigit? c = some n) :
    10 ≤ n := by
  have hLower : 'a'.toNat = 97 := rfl
  have hUpper : 'A'.toNat = 65 := rfl
  unfold Json.hexDigit? at hHex
  rw [if_neg (by simp [hDigit])] at hHex
  split at hHex
  case isTrue hLetter =>
    have hFirst : 'a'.toNat ≤ c.toNat := hLetter.1
    have hCount := Option.some.inj hHex
    omega
  case isFalse =>
    split at hHex
    case isTrue hLetter =>
      have hFirst : 'A'.toNat ≤ c.toNat := hLetter.1
      have hCount := Option.some.inj hHex
      omega
    case isFalse => cases hHex

/- A number begins with a digit. -/
theorem number?_of_isDigit
    (hDigit : c.isDigit = false) :
    number? (c :: cs) = none := by
  have hZero : c ≠ '0' := by
    rintro rfl
    cases hDigit
  have hFraction : fraction? (c :: cs) = none := by
    simp [fraction?, hDigit]
  have hBase :
      whole? (c :: cs) = wholeDigits? 10 false (c :: cs) := by
    unfold whole?
    split <;> simp_all
  have hWhole : wholeDigits? 10 false (c :: cs) = none := by
    unfold wholeDigits?
    cases hHex : Json.hexDigit? c with
    | none => simp
    | some n =>
        have hTen := ten_le_of_hexDigit? hDigit hHex
        simp [Nat.not_lt.mpr hTen]
  simp [number?, hFraction, hBase, hWhole]

/- No quote follows the letters in front of a raw text. -/
theorem rawText?_of_word
    {k : TextKind}
    (hWord : ∀ d ∈ cs, isContinue d = true) :
    rawText? k cs = none := by
  cases cs with
  | nil => rfl
  | cons c cs =>
      have hc := hWord c (by simp)
      have hSign := ne_of_isContinue hc (d := '#') (by decide)
      have hQuote := ne_of_isContinue hc (d := '"') (by decide)
      simp [rawText?, hSign]
      split
      case h_1 hSame =>
        exact absurd (List.cons.inj hSame).1 hQuote
      case h_2 => rfl

/- A word that begins as an identifier begins no literal. -/
theorem readLiteral?_of_isStart
    (hStart : isStart c = true)
    (hWord : ∀ d ∈ c :: cs, isContinue d = true) :
    readLiteral? (c :: cs) = none := by
  have hNumber : number? (c :: cs) = none :=
    number?_of_isDigit (isDigit_of_isStart hStart)
  have hRaw :
      ∀ k rest,
        (∀ d ∈ rest, d ∈ c :: cs) → rawText? k rest = none :=
    fun k rest hPart =>
      rawText?_of_word (fun d hd => hWord d (hPart d hd))
  have hQuote : ∀ d ∈ c :: cs, d ≠ '"' :=
    fun d hd => ne_of_isContinue (hWord d hd) (by decide)
  have hTick : ∀ d ∈ c :: cs, d ≠ '\'' :=
    fun d hd => ne_of_isContinue (hWord d hd) (by decide)
  unfold readLiteral?
  simp only
  split
  case h_2 hSame =>
    rcases List.cons.inj hSame with ⟨rfl, rfl⟩
    rw [hRaw _ _ (by simp +contextual)]
    rfl
  case h_5 hSame =>
    rcases List.cons.inj hSame with ⟨rfl, rfl⟩
    rw [hRaw _ _ (by simp +contextual)]
    rfl
  case h_6 hSame =>
    rcases List.cons.inj hSame with ⟨rfl, rfl⟩
    rw [hRaw _ _ (by simp +contextual)]
    rfl
  all_goals simp_all

/- What is read as a literal is one. -/
theorem exists_literal_of_readLiteral?
    {token : Token}
    (hRead : readLiteral? cs = some (token, rest)) :
    ∃ l, token = .literal l := by
  have hText :
      ∀ read,
        textLiteral cs read = some (token, rest) →
          ∃ l, token = .literal l := by
    intro read hRead
    simp only [textLiteral, Option.map_eq_some_iff,
      Prod.mk.injEq] at hRead
    rcases hRead with ⟨_, _, hToken, _⟩
    exact ⟨_, hToken.symm⟩
  have hOther :
      ∀ read : Option (List Char),
        read.map (otherLiteral cs) = some (token, rest) →
          ∃ l, token = .literal l := by
    intro read hRead
    simp only [otherLiteral, Option.map_eq_some_iff,
      Prod.mk.injEq] at hRead
    rcases hRead with ⟨_, _, hToken, _⟩
    exact ⟨_, hToken.symm⟩
  unfold readLiteral? at hRead
  simp only at hRead
  split at hRead
  case h_1 => exact hText _ hRead
  case h_2 => exact hText _ hRead
  all_goals exact hOther _ hRead

------------------------------------------------------------
-- Tokens of Words
------------------------------------------------------------

theorem startsBroken_of_word
    (hWord : ∀ d ∈ cs, isContinue d = true) :
    startsBroken cs = false := by
  have hQuote : ∀ d ∈ cs, d ≠ '"' :=
    fun d hd => ne_of_isContinue (hWord d hd) (by decide)
  have hTick : ∀ d ∈ cs, d ≠ '\'' :=
    fun d hd => ne_of_isContinue (hWord d hd) (by decide)
  have hSign : ∀ d ∈ cs, d ≠ '#' :=
    fun d hd => ne_of_isContinue (hWord d hd) (by decide)
  unfold startsBroken
  split <;> simp_all

/- A word that begins as an identifier is a name. -/
theorem readName?_of_word
    (hWord : ∀ d ∈ c :: cs, isContinue d = true) :
    readName? (c :: cs) =
      if isStart c then
        some (.name (String.ofList (c :: cs)), [])
      else
        none := by
  have hRest : ∀ d ∈ cs, isContinue d = true :=
    fun d hd => hWord d (List.mem_cons_of_mem c hd)
  have hSign : ∀ d ∈ cs, d ≠ '#' :=
    fun d hd => ne_of_isContinue (hRest d hd) (by decide)
  have hTake := List.takeWhile_eq_self_iff.mpr hRest
  have hDrop := List.dropWhile_eq_nil_iff.mpr hRest
  unfold readName?
  split
  case h_1 => simp_all
  case h_2 =>
    by_cases hStart : isStart c = true
    · simp [readPlainName?, hStart, hTake, hDrop]
    · simp [readPlainName?, hStart]

/- The first token of a word is the word, or a literal. -/
theorem readToken?_of_word
    {token : Token}
    (hWord : ∀ d ∈ c :: cs, isContinue d = true)
    (hRead : readToken? (c :: cs) = some (token, rest)) :
    (isStart c = true ∧
        token = .name (String.ofList (c :: cs)) ∧
          rest = []) ∨
      ∃ l, token = .literal l := by
  have hc := hWord c (by simp)
  simp only [readToken?, readBroken?_of_isContinue hc,
    readBracket?_of_isContinue hc, readMark?_of_isContinue hc,
    startsBroken_of_word hWord, readName?_of_word hWord,
    Option.none_or, Bool.false_eq_true, if_false] at hRead
  by_cases hStart : isStart c = true
  · left
    simp only [readLiteral?_of_isStart hStart hWord, hStart,
      if_true, Option.none_or, Option.some.injEq,
      Prod.mk.injEq] at hRead
    exact ⟨hStart, hRead.1.symm, hRead.2.symm⟩
  · right
    simp only [hStart, Bool.false_eq_true, if_false,
      Option.or_none] at hRead
    exact exists_literal_of_readLiteral? hRead

/- A word is no token, or one name, or begins with a literal. -/
theorem readTokens?_of_word
    {fuel : Nat}
    {tokens : List Token}
    (hWord : ∀ d ∈ cs, isContinue d = true)
    (hRead : readTokens? fuel cs = some tokens) :
    tokens = [] ∨
      (isIdentifier cs = true ∧
          tokens = [.name (String.ofList cs)]) ∨
        ∃ l later, tokens = .literal l :: later := by
  cases cs with
  | nil =>
      left
      simpa [readTokens?] using hRead.symm
  | cons c cs =>
      right
      cases fuel with
      | zero => simp [readTokens?] at hRead
      | succ fuel =>
          simp only [readTokens?,
            gap?_of_isContinue (hWord c (by simp))] at hRead
          cases hToken : readToken? (c :: cs) with
          | none => simp [hToken] at hRead
          | some read =>
              rcases read with ⟨token, rest⟩
              simp only [hToken,
                Option.map_eq_some_iff] at hRead
              rcases hRead with ⟨later, hLater, rfl⟩
              rcases readToken?_of_word hWord hToken with
                ⟨hStart, rfl, rfl⟩ | ⟨l, rfl⟩
              · left
                have hEnd : later = [] := by
                  simpa [readTokens?] using hLater.symm
                have hAll : cs.all isContinue = true :=
                  List.all_eq_true.mpr
                    (fun d hd =>
                      hWord d (List.mem_cons_of_mem c hd))
                simp [isIdentifier, hStart, hAll, hEnd]
              · exact .inr ⟨l, later, rfl⟩

------------------------------------------------------------
-- Tokens of Segments
------------------------------------------------------------

/- An identifier begins a name and goes on as a word. -/
theorem word_of_isIdentifier
    (hName : isIdentifier cs = true) :
    ∃ c later,
      cs = c :: later ∧
        isStart c = true ∧
          ∀ d ∈ cs, isContinue d = true := by
  cases cs with
  | nil => cases hName
  | cons c later =>
      rw [isIdentifier, Bool.and_eq_true] at hName
      rcases hName with ⟨hStart, hLater⟩
      refine ⟨c, later, rfl, hStart, ?_⟩
      intro d hd
      rcases List.mem_cons.mp hd with rfl | hd
      · simp [isContinue, hStart]
      · exact List.all_eq_true.mp hLater d hd

/- An identifier is read as one name. -/
theorem readToken?_identifier
    (hName : isIdentifier cs = true) :
    readToken? cs = some (.name (String.ofList cs), []) := by
  rcases word_of_isIdentifier hName with
    ⟨c, later, rfl, hStart, hWord⟩
  have hc := hWord c (by simp)
  simp [readToken?, readBroken?_of_isContinue hc,
    readBracket?_of_isContinue hc, readMark?_of_isContinue hc,
    readLiteral?_of_isStart hStart hWord,
    startsBroken_of_word hWord, readName?_of_word hWord, hStart]

/- So is one behind a mark, unless it is not to be marked. -/
theorem readToken?_marked
    (hName : isIdentifier cs = true)
    (hFree : String.ofList cs ∉ unescapable) :
    readToken? ('r' :: '#' :: cs) =
      some (.name ("r#" ++ String.ofList cs), []) := by
  rcases word_of_isIdentifier hName with
    ⟨c, later, rfl, hStart, hWord⟩
  have hr : isContinue 'r' = true := by decide
  have hc := hWord c (by simp)
  have hSign := ne_of_isContinue hc (d := '#') (by decide)
  have hQuote := ne_of_isContinue hc (d := '"') (by decide)
  have hLater : ∀ d ∈ later, isContinue d = true :=
    fun d hd => hWord d (List.mem_cons_of_mem c hd)
  have hRaw :
      rawText? .characters ('#' :: c :: later) = none := by
    simp [rawText?, hSign]
    split
    case h_1 hSame =>
      exact absurd (List.cons.inj hSame).1 hQuote
    case h_2 => rfl
  have hLiteral :
      readLiteral? ('r' :: '#' :: c :: later) = none := by
    simp [readLiteral?, textLiteral, hRaw]
  have hBroken :
      startsBroken ('r' :: '#' :: c :: later) = false := by
    unfold startsBroken
    split <;> simp_all
  have hPlain :
      readPlainName? (c :: later) =
        some (String.ofList (c :: later), []) := by
    simp [readPlainName?, hStart,
      List.takeWhile_eq_self_iff.mpr hLater,
      List.dropWhile_eq_nil_iff.mpr hLater]
  have hRead :
      readName? ('r' :: '#' :: c :: later) =
        some
          (.name ("r#" ++ String.ofList (c :: later)), []) := by
    simp only [readName?, hPlain, List.contains_eq_mem, hFree,
      decide_false, Bool.false_eq_true, if_false]
  simp [readToken?, readBroken?_of_isContinue hr,
    readBracket?_of_isContinue hr, readMark?_of_isContinue hr,
    hLiteral, hBroken, hRead]

/- What may stand between the colons of a path is an
   identifier, or one behind a mark. -/
theorem isSegment_cases
    {word : String}
    (hSegment : isSegment word = true) :
    isIdentifier word.toList = true ∨
      ∃ cs,
        word.toList = 'r' :: '#' :: cs ∧
          isIdentifier cs = true ∧
            String.ofList cs ∉ unescapable := by
  simp only [isSegment, Bool.or_eq_true, isName,
    Bool.and_eq_true] at hSegment
  rcases hSegment with (⟨hName, _⟩ | hReserved) | hMarked
  · exact .inl hName
  · have hAll :
        ∀ w ∈ pathKeywords, isIdentifier w.toList = true := by
      decide
    exact .inl (hAll word (List.contains_iff_mem.mp hReserved))
  · unfold isRawName at hMarked
    split at hMarked
    case h_1 cs hText =>
      refine .inr ⟨cs, hText, ?_⟩
      simpa using hMarked
    case h_2 => cases hMarked

/- It is read as one name. -/
theorem readToken?_segment
    {word : String}
    (hSegment : isSegment word = true) :
    readToken? word.toList = some (.name word, []) := by
  rcases isSegment_cases hSegment with
    hName | ⟨cs, hText, hName, hFree⟩
  · rw [readToken?_identifier hName, String.ofList_toList]
  · have hSame : "r#" ++ String.ofList cs = word := by
      rw [← String.toList_inj, hText]
      simp
    rw [hText, readToken?_marked hName hFree, hSame]

/- It begins with a character of a word. -/
theorem exists_cons_of_isSegment
    {word : String}
    (hSegment : isSegment word = true) :
    ∃ c cs, word.toList = c :: cs ∧ isContinue c = true := by
  rcases isSegment_cases hSegment with
    hName | ⟨cs, hText, _⟩
  · rcases word_of_isIdentifier hName with
      ⟨c, cs, hText, _, hWord⟩
    exact ⟨c, cs, hText, hWord c (by simp [hText])⟩
  · exact ⟨'r', '#' :: cs, hText, by decide⟩

/- There is no blank in it. -/
theorem blank_notMem_of_isSegment
    {word : String}
    (hSegment : isSegment word = true) :
    ' ' ∉ word.toList := by
  have hNone :
      ∀ {cs}, isIdentifier cs = true → ' ' ∉ cs := by
    intro cs hName hBlank
    rcases word_of_isIdentifier hName with ⟨_, _, _, _, hWord⟩
    exact ne_of_isContinue (hWord _ hBlank) (by decide) rfl
  rcases isSegment_cases hSegment with
    hName | ⟨cs, hText, hName, _⟩
  · exact hNone hName
  · simp [hText, hNone hName]

/- Where a token stands, reading goes on behind it. -/
theorem readTokens?_of_readToken?
    {token : Token}
    (hGap : gap? (c :: cs) = some .none)
    (hToken : readToken? (c :: cs) = some (token, rest))
    (fuel : Nat) :
    readTokens? (fuel + 1) (c :: cs) =
      (readTokens? fuel rest).map (token :: ·) := by
  simp only [readTokens?, hGap, hToken]

/- A segment is all the tokens of its text. -/
theorem readTokens?_segment
    {word : String}
    {fuel : Nat}
    (hSegment : isSegment word = true)
    (hFuel : 0 < fuel) :
    readTokens? fuel word.toList = some [.name word] := by
  have hToken := readToken?_segment hSegment
  rcases exists_cons_of_isSegment hSegment with
    ⟨c, cs, hText, hc⟩
  rcases Nat.exists_eq_add_of_lt hFuel with ⟨n, rfl⟩
  rw [hText] at hToken ⊢
  rw [readTokens?_of_readToken? (gap?_of_isContinue hc) hToken]
  rw [readTokens?]
  rfl

/- A colon is a token whatever follows it. -/
theorem readTokens?_colon
    (fuel : Nat)
    (cs : List Char) :
    readTokens? (fuel + 1) (':' :: cs) =
      (readTokens? fuel cs).map
        (.mark ':' (startsMark cs) :: ·) :=
  rfl

------------------------------------------------------------
-- Matched Brackets
------------------------------------------------------------

/- The tokens before all groups that are open, in reverse. -/
def outermost : List OpenGroup → Tokens → Tokens
| [], level => level
| g :: groups, _ => outermost groups g.earlier

/- One more token leaves those before it where they are. -/
theorem outermost_cons
    (groups : List OpenGroup)
    (level : Tokens)
    (tree : TokenTree) :
    (outermost groups level).reverse <+:
      (outermost groups (tree :: level)).reverse := by
  cases groups with
  | nil =>
      simp only [outermost, List.reverse_cons]
      exact List.prefix_append _ _
  | cons g groups => exact List.prefix_rfl

/- The tokens before all open groups come first in the end. -/
theorem outermost_of_nest?
    {groups : List OpenGroup}
    {level trees : Tokens}
    {ts : List Token}
    (hNest : nest? groups level ts = some trees) :
    (outermost groups level).reverse <+: trees := by
  induction ts generalizing groups level with
  | nil =>
      cases groups with
      | nil =>
          rw [nest?] at hNest
          rw [← Option.some.inj hNest]
          exact List.prefix_rfl
      | cons g groups => simp [nest?] at hNest
  | cons t ts ih =>
      cases t with
      | name text =>
          rw [nest?] at hNest
          exact (outermost_cons _ _ _).trans (ih hNest)
      | mark c joint =>
          rw [nest?] at hNest
          exact (outermost_cons _ _ _).trans (ih hNest)
      | literal l =>
          rw [nest?] at hNest
          exact (outermost_cons _ _ _).trans (ih hNest)
      | opening d =>
          rw [nest?] at hNest
          have hPrefix := ih hNest
          exact hPrefix
      | closing d =>
          cases groups with
          | nil => simp [nest?] at hNest
          | cons g groups =>
              rw [nest?] at hNest
              split at hNest
              case isTrue =>
                exact
                  (outermost_cons groups g.earlier _).trans
                    (ih hNest)
              case isFalse => cases hNest

end Item

end TreePath
