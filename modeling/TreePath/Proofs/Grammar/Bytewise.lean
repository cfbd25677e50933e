import TreePath.Proofs.Grammar.Adequacy
import TreePath.Proofs.Grammar.ByteLoops

/-
  The scanner by bytes does what the scanner by characters
  does, call by call, and never misreads: it stands between
  characters before and after each call, and every slice that
  it takes is between characters.

  Key definitions include:
    * `Scanner.StandsBehind`
    * `Scanner.InPlace`

  Main statements:
    * `Scanner.readBracket_bytewise`
    * `Scanner.advance_bytewise`
    * `Scanner.next_bytewise`
-/

------------------------------------------------------------
-- Quotes
------------------------------------------------------------

namespace TreePath

namespace Grammar

variable {quote : Char}

/- A quote is a character of one byte. -/
theorem quote_lt
    (hQuote : quote = '\'' ∨ quote = '"') :
    quote.toNat < 128 := by
  rcases hQuote with rfl | rfl <;> decide

/- A quoted group has its four marks beside its name. -/
theorem size_quoted
    (hQuote : quote = '\'' ∨ quote = '"')
    (name : List Char) :
    Utf8.size ('[' :: quote :: (name ++ [quote, ']'])) =
      Utf8.size name + 4 := by
  have hSize := Utf8.utf8Size_of_lt (quote_lt hQuote)
  have hOpening : '['.utf8Size = 1 := rfl
  have hClosing : ']'.utf8Size = 1 := rfl
  simp only [Utf8.size_cons, Utf8.size_append, Utf8.size_nil,
    hSize, hOpening, hClosing]
  omega

/- A quoted reading wins wherever there is one. -/
theorem readGroup_quote
    (hQuote : quote = '\'' ∨ quote = '"')
    (text : List Char) :
    readGroup (quote :: text) =
      (quoted? quote text).getD
        (unquoted (quote :: text)) := by
  rcases hQuote with rfl | rfl <;> rfl

end Grammar

------------------------------------------------------------
-- Places
------------------------------------------------------------

namespace Scanner

open Grammar

/-
  A scanner stands behind a front of its text: what is left of
  the text follows it, and the offset counts its bytes.
-/
structure StandsBehind
    (front : List Char)
    (s : Scanner) : Prop where
  split : s.source.toList = front ++ s.rest
  offset : s.offset = Utf8.size front

variable {s : Scanner} {front taken rest body : List Char}

/- It stands further behind when it has read some text. -/
theorem StandsBehind.moveTo
    (hStands : s.StandsBehind front)
    (hRest : s.rest = taken ++ rest) :
    (s.moveTo (s.offset + Utf8.size taken) rest).StandsBehind
      (front ++ taken) := by
  have hSplit := hStands.split
  rw [hRest, ← List.append_assoc] at hSplit
  refine ⟨hSplit, ?_⟩
  rw [Utf8.size_append, ← hStands.offset]
  rfl

/- A text in front of a scanner is a slice of the source. -/
theorem StandsBehind.slice
    (hStands : s.StandsBehind front)
    (hRest : s.rest = taken ++ rest) :
    Utf8.slice s.source s.offset (s.offset + Utf8.size taken) =
      .ok (String.ofList taken) := by
  rw [hStands.offset]
  exact
    Utf8.slice_split
      (hStands.split.trans (congrArg (front ++ ·) hRest))

/- The bytes behind that text are those of what is left. -/
theorem StandsBehind.bytesFrom
    (hStands : s.StandsBehind front)
    (hRest : s.rest = taken ++ rest) :
    Utf8.bytesFrom s.source (s.offset + Utf8.size taken) =
      .ok (Utf8.encode rest) := by
  have hMoved := hStands.moveTo hRest
  have hOffset :
      s.offset + Utf8.size taken = Utf8.size (front ++ taken) :=
    hMoved.offset
  rw [hOffset]
  exact Utf8.bytesFrom_split hMoved.split

/- The source ends where what is left of it does. -/
theorem StandsBehind.length_bytes
    (hStands : s.StandsBehind front) :
    (Utf8.bytes s.source).length =
      s.offset + Utf8.size s.rest := by
  rw [Utf8.length_bytes, hStands.split, Utf8.size_append,
    hStands.offset]

/- Behind an opening bracket the bytes of the group follow. -/
theorem StandsBehind.getElem?_bytes
    (hStands : s.StandsBehind front)
    (hRest : s.rest = '[' :: body) :
    (Utf8.bytes s.source)[s.offset + 1]? =
      (Utf8.encode body).head? := by
  have hSplit := hStands.split
  rw [hRest] at hSplit
  rw [Utf8.bytes_split hSplit, hStands.offset, Utf8.encode_cons,
    Utf8.encodeChar_of_lt (c := '[') (by decide),
    List.getElem?_append_right (by simp)]
  simp [List.head?_eq_getElem?]

------------------------------------------------------------
-- Groups
------------------------------------------------------------

/- A name between quotes is found as the grammar finds it. -/
theorem quoted?_bytewise
    {quote : Char}
    {text : List Char}
    (hStands : s.StandsBehind front)
    (hRest : s.rest = '[' :: quote :: text)
    (hQuote : quote = '\'' ∨ quote = '"') :
    s.bytewise.quoted? =
      .ok
        (match closing? quote text with
        | some (c :: name, _) =>
            some
              (String.ofList (c :: name),
                s.offset + 2 + Utf8.size (c :: name) + 2)
        | _ => none) := by
  have hSingle := quote_lt hQuote
  have hSize : Utf8.size ['[', quote] = 2 := by
    rw [Utf8.size_cons, Utf8.size_cons,
      Utf8.utf8Size_of_lt hSingle]
    rfl
  have hByte :
      (Utf8.bytes s.source)[s.offset + 1]? =
        some quote.toUInt8 := by
    rw [hStands.getElem?_bytes hRest, Utf8.encode_cons,
      Utf8.encodeChar_of_lt hSingle]
    rfl
  have hMark :
      quote.toUInt8 = '\''.toUInt8 ∨
        quote.toUInt8 = '"'.toUInt8 := by
    rcases hQuote with rfl | rfl
    · exact Or.inl rfl
    · exact Or.inr rfl
  have hFront : s.rest = ['[', quote] ++ text := hRest
  have hLater := hStands.bytesFrom hFront
  have hPair := ByteScanner.closingPair?_encode hSingle text
  rw [hSize] at hLater
  simp only [ByteScanner.quoted?, source_bytewise,
    position_bytewise, hByte, hMark, if_true, hLater,
    Except.bind, hPair]
  cases hClosing : closing? quote text with
  | none => rfl
  | some split =>
      rcases split with ⟨name, later⟩
      cases name with
      | nil => rfl
      | cons c name =>
          rcases of_closing? hClosing with ⟨hText, _⟩
          have hSlice := (hStands.moveTo hFront).slice hText
          have hPositive : 0 < c.utf8Size := Char.utf8Size_pos c
          rcases Nat.exists_eq_succ_of_ne_zero
              (n := Utf8.size (c :: name))
              (by rw [Utf8.size_cons]; omega) with
            ⟨n, hLength⟩
          simp only [moveTo, hSize, hLength] at hSlice
          simp only [Option.map_some, hLength, hSlice]
          rfl

/- In strict reading a group that is refused is a fault. -/
theorem reject_strict
    (hMode : s.mode = .strict)
    (offset last : Nat)
    (fault : Fault) :
    s.bytewise.reject offset last fault =
      .ok (s.yieldFault offset fault).bytewise := by
  rw [ByteScanner.reject, mode_bytewise, hMode]
  rfl

/- In loose reading its slice is kept, with a warning. -/
theorem reject_loose
    {raw : String}
    {offset last : Nat}
    (hMode : s.mode = .loose)
    (hSlice : Utf8.slice s.source offset last = .ok raw)
    (fault : Fault) :
    s.bytewise.reject offset last fault =
      .ok
        (s.yieldStep (.named raw) offset
          [.demotedBracket raw offset s.source
            fault]).bytewise := by
  rw [ByteScanner.reject, mode_bytewise, hMode,
    source_bytewise, hSlice]
  rfl

/-
  A group without quotes is read as the grammar reads it, up
  to its first closing bracket or to the end of the text.
-/
theorem readUnquoted_bytewise
    (hStands : s.StandsBehind front)
    (hRest : s.rest = '[' :: body)
    (hGroup : readGroup body = unquoted body) :
    s.bytewise.readUnquoted =
      .ok (s.readBracket s.offset body).bytewise := by
  have hFront : s.rest = ['['] ++ body := hRest
  have hSize : Utf8.size ['['] = 1 := rfl
  have hLater := hStands.bytesFrom hFront
  rw [hSize] at hLater
  by_cases hClosing : ']' ∈ body
  · rcases List.eq_append_cons_of_mem hClosing with
      ⟨content, rest, rfl, hOpen⟩
    have hFound := ByteScanner.findIdx?_closing hOpen rest
    have hContent := (hStands.moveTo hFront).slice rfl
    have hWhole :
        s.rest = '[' :: (content ++ [']']) ++ rest := by
      rw [hRest]
      simp
    have hRaw := hStands.slice hWhole
    have hLast :
        s.offset + Utf8.size ('[' :: (content ++ [']'])) =
          s.offset + 1 + Utf8.size content + 1 := by
      have hClose : Utf8.size [']'] = 1 := rfl
      have hOpens : '['.utf8Size = 1 := rfl
      rw [Utf8.size_cons, Utf8.size_append, hClose, hOpens]
      omega
    simp only [moveTo, hSize] at hContent
    rw [hLast] at hRaw
    rw [readBracket, hGroup, unquoted_closed hOpen, hLast]
    simp only [ByteScanner.readUnquoted, source_bytewise,
      position_bytewise, hLater, Except.bind, hFound, hContent,
      String.toList_ofList]
    cases position content with
    | ok key => rfl
    | error fault =>
        cases hMode : s.mode with
        | strict =>
            exact reject_strict (s := s.moveTo _ rest)
              hMode _ _ fault
        | loose =>
            exact reject_loose (s := s.moveTo _ rest)
              hMode hRaw fault
  · have hFound := ByteScanner.findIdx?_closing_none hClosing
    have hRaw :=
      hStands.slice (hRest.trans (List.append_nil _).symm)
    have hLast := hStands.length_bytes
    rw [hRest] at hLast
    rw [readBracket, hGroup, unquoted_open hClosing]
    simp only [ByteScanner.readUnquoted, source_bytewise,
      position_bytewise, hLater, Except.bind, hFound, hLast]
    cases hMode : s.mode with
    | strict =>
        exact reject_strict (s := s.moveTo _ []) hMode _ _ _
    | loose =>
        exact reject_loose (s := s.moveTo _ []) hMode hRaw _

/-
  Where no quote follows the opening bracket, no name between
  quotes is looked for.
-/
theorem quoted?_bytewise_none
    (hStands : s.StandsBehind front)
    (hRest : s.rest = '[' :: body)
    (hOther : ∀ c ∈ body.head?, c ≠ '\'' ∧ c ≠ '"') :
    s.bytewise.quoted? = .ok none := by
  have hByte := hStands.getElem?_bytes hRest
  simp only [ByteScanner.quoted?, source_bytewise,
    position_bytewise, hByte]
  cases body with
  | nil => rfl
  | cons c text =>
      rcases Utf8.exists_cons_encodeChar c with
        ⟨b, bs, hBytes, hFirst⟩
      have hNot := hOther c rfl
      rw [Utf8.encode_cons, hBytes]
      simp [hFirst '\'' (by decide), hFirst '"' (by decide),
        hNot]

/- A group is read by bytes as the grammar reads it. -/
theorem readBracket_bytewise
    (hStands : s.StandsBehind front)
    (hRest : s.rest = '[' :: body) :
    s.bytewise.readBracket =
      .ok (s.readBracket s.offset body).bytewise := by
  rw [ByteScanner.readBracket]
  by_cases hMark :
      ∃ quote ∈ body.head?, quote = '\'' ∨ quote = '"'
  · rcases hMark with ⟨quote, hHead, hQuote⟩
    rcases List.head?_eq_some_iff.mp hHead with ⟨text, rfl⟩
    have hGroup := readGroup_quote hQuote text
    rw [quoted?_bytewise hStands hRest hQuote]
    cases hClosing : closing? quote text with
    | none =>
        simp only [Grammar.quoted?, hClosing] at hGroup
        exact readUnquoted_bytewise hStands hRest hGroup
    | some split =>
        rcases split with ⟨name, rest⟩
        cases name with
        | nil =>
            simp only [Grammar.quoted?, hClosing] at hGroup
            exact readUnquoted_bytewise hStands hRest hGroup
        | cons c name =>
            simp only [Grammar.quoted?, hClosing,
              Option.getD_some] at hGroup
            have hLast :
                s.offset +
                    Utf8.size
                      ('[' :: quote :: c ::
                        (name ++ [quote, ']'])) =
                  s.offset + 2 + Utf8.size (c :: name) + 2 := by
              have hSize :=
                size_quoted hQuote (c :: name)
              rw [List.cons_append] at hSize
              omega
            rw [readBracket, hGroup, hLast]
            rfl
  · have hOther : ∀ c ∈ body.head?, c ≠ '\'' ∧ c ≠ '"' := by
      intro c hHead
      exact not_or.mp (fun hQuote => hMark ⟨c, hHead, hQuote⟩)
    have hGroup : readGroup body = unquoted body := by
      unfold readGroup
      split
      · exact absurd rfl (hOther '\'' rfl).1
      · exact absurd rfl (hOther '"' rfl).2
      · rfl
    rw [quoted?_bytewise_none hStands hRest hOther]
    exact readUnquoted_bytewise hStands hRest hGroup

------------------------------------------------------------
-- Calls
------------------------------------------------------------

/- A running scanner that no dot is in front of reads here. -/
theorem advance_bytewise_here
    (hStands : s.StandsBehind front)
    (hPhase : s.phase = .running)
    (hOther : s.rest.head? ≠ some '.') :
    s.bytewise.advance = s.bytewise.readHere := by
  have hSkip := ByteScanner.skipDots_stop hStands.split hOther
  have hSame : s.bytewise.moveTo s.offset = s.bytewise := by
    simp only [ByteScanner.moveTo, bytewise, hPhase]
  rw [← hStands.offset] at hSkip
  simp only [ByteScanner.advance, source_bytewise,
    position_bytewise, hSkip, Except.bind, hSame]

/- What is read here is told by the character in front. -/
theorem readHere_bytewise
    {c : Char}
    (hStands : s.StandsBehind front)
    (hRest : s.rest = c :: rest) :
    s.bytewise.readHere =
      if c = '[' then
        s.bytewise.readBracket
      else if c = ']' ∧ s.mode = .strict then
        .ok
          (s.bytewise.yieldFault s.offset .unexpectedBracket)
      else
        s.bytewise.readName := by
  have hSplit := hStands.split
  rw [hRest] at hSplit
  rcases Utf8.exists_byteAt hSplit with
    ⟨b, hByte, hInside, hFirst⟩
  have hOpening := hFirst '[' (by decide)
  have hClosing := hFirst ']' (by decide)
  rw [← hStands.offset] at hByte hInside
  rw [ByteScanner.readHere, source_bytewise,
    position_bytewise, if_pos hInside, hByte]
  simp only [Except.bind, hOpening, hClosing, mode_bytewise]

/- A name is read up to where its characters end. -/
theorem readName_bytewise
    {name : List Char}
    (hStands : s.StandsBehind front)
    (hName : IsName s.mode name rest)
    (hRest : s.rest = name ++ rest) :
    s.bytewise.readName =
      .ok
        (Turn.bytewise
          ((s.moveTo (s.offset + Utf8.size name)
            rest).yieldStep
            (.named (String.ofList name)) s.offset
            ((closingOffsets s.offset name).map
              (fun o => .strayBracket o s.source)))) := by
  have hSplit := hStands.split
  rw [hRest] at hSplit
  have hEnd :=
    ByteScanner.nameEnd_split hSplit hName.inside hName.stop
  rw [← hStands.offset] at hEnd
  simp only [ByteScanner.readName, source_bytewise,
    mode_bytewise, position_bytewise, hEnd, Except.bind,
    hStands.slice hRest, Except.map]
  rfl

/-
  One call of a running scanner, by bytes and by characters.
-/
theorem advance_bytewise
    (hPhase : s.phase = .running)
    (hStands : s.StandsBehind front) :
    s.bytewise.advance = .ok s.advance.bytewise := by
  induction s, hPhase using running_induction
    generalizing front with
  | nil s hPhase hRest =>
      have hLength := hStands.length_bytes
      have hEnd :
          ¬ s.offset < (Utf8.bytes s.source).length := by
        rw [hLength, hRest]
        exact Nat.lt_irrefl _
      have hOther : s.rest.head? ≠ some '.' := by simp [hRest]
      rw [advance_bytewise_here hStands hPhase hOther,
        advance_nil hRest, ByteScanner.readHere,
        source_bytewise, position_bytewise, if_neg hEnd]
      rfl
  | dot s hPhase rest hRest ih =>
      have hTaken : s.rest = ['.'] ++ rest := hRest
      have hBehind := hStands.moveTo hTaken
      have hSplit := hStands.split
      rw [hRest] at hSplit
      have hSkip := ByteScanner.skipDots_dot hSplit
      rw [← hStands.offset] at hSkip
      rw [advance_dot hRest, ← ih hBehind]
      simp only [ByteScanner.advance, source_bytewise,
        position_bytewise, hSkip]
      rfl
  | name s hPhase name rest hName hRest ih =>
      rcases List.exists_cons_of_ne_nil hName.nonempty with
        ⟨c, tail, rfl⟩
      have hInside := hName.inside c List.mem_cons_self
      have hDot : c ≠ '.' := by
        rintro rfl
        simp [endsName] at hInside
      have hOpening : c ≠ '[' := by
        rintro rfl
        simp [endsName] at hInside
      have hClosing : ¬ (c = ']' ∧ s.mode = .strict) := by
        rintro ⟨rfl, hMode⟩
        simp [endsName, hMode] at hInside
      have hOther : s.rest.head? ≠ some '.' := by
        simpa [hRest] using hDot
      rw [advance_bytewise_here hStands hPhase hOther,
        readHere_bytewise hStands hRest, if_neg hOpening,
        if_neg hClosing, advance_name hName hRest]
      exact readName_bytewise hStands hName hRest
  | group s hPhase body hRest ih =>
      have hOther : s.rest.head? ≠ some '.' := by simp [hRest]
      rw [advance_bytewise_here hStands hPhase hOther,
        readHere_bytewise hStands hRest, if_pos rfl,
        advance_bracket hRest]
      exact readBracket_bytewise hStands hRest
  | closing s hPhase rest hMode hRest =>
      have hOther : s.rest.head? ≠ some '.' := by simp [hRest]
      rw [advance_bytewise_here hStands hPhase hOther,
        readHere_bytewise hStands hRest, if_neg (by decide),
        if_pos ⟨rfl, hMode⟩, advance_closing hMode hRest]
      rfl

/-
  A scanner is in place if it stands behind a front of its
  text, and in front of the whole text until it is called.
-/
structure InPlace
    (s : Scanner) : Prop where
  behind : ∃ front, s.StandsBehind front
  start : s.phase = .start → s.rest = s.source.toList

/- A scanner in front of a whole text is in place. -/
theorem ofText_inPlace
    (mode : BracketMode)
    (source : String) :
    (ofText mode source).InPlace :=
  ⟨⟨[], rfl, rfl⟩, fun _ => rfl⟩

/-
  A scanner in place never misreads: one call of it by bytes
  yields what the call by characters does.
-/
theorem next_bytewise
    (hPlace : s.InPlace) :
    s.bytewise.next = .ok s.next.bytewise := by
  rcases hPlace.behind with ⟨front, hStands⟩
  -- The phase is of no account once the scanner advances.
  have hAdvance :
      s.bytewise.advance = .ok s.advance.bytewise :=
    advance_bytewise (s := s.moveTo s.offset s.rest) rfl
      ⟨hStands.split, hStands.offset⟩
  unfold ByteScanner.next next
  rw [phase_bytewise]
  cases hPhase : s.phase with
  | done => rfl
  | running => exact hAdvance
  | start =>
      have hEmpty : s.rest = [] ↔ s.bytewise.source = "" := by
        rw [hPlace.start hPhase, String.toList_eq_nil_iff]
        rfl
      by_cases hText : s.bytewise.source = ""
      · simp only [if_pos hText, if_pos (hEmpty.mpr hText)]
        rfl
      · simp only [if_neg hText, if_neg (mt hEmpty.mp hText)]
        exact hAdvance

-- Within a character there is no slice to take.
example :
    (ByteScanner.mk "é" .strict 1 .running).next =
      .error (.slice 1 2) := by
  cbv

end Scanner

end TreePath
