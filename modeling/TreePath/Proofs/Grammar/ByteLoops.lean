import TreePath.Proofs.Grammar.ByteScanner

/-
  What the loops over bytes find in a text, told by its
  characters.  They look for characters of one byte, which no
  other character has in it, and so they stop in front of
  characters only.

  Main statements:
    * `Utf8.exists_byteAt`
    * `ByteScanner.skipDots_stop`
    * `ByteScanner.nameEnd_split`
    * `ByteScanner.closingPair?_encode`
    * `ByteScanner.findIdx?_closing`
-/

------------------------------------------------------------
-- First Bytes
------------------------------------------------------------

namespace TreePath

namespace Utf8

variable {source : String} {front later : List Char} {c : Char}

/-
  A character begins with a byte that tells it from all
  characters of one byte.
-/
theorem exists_cons_encodeChar
    (c : Char) :
    ∃ b bs,
      String.utf8EncodeChar c = b :: bs ∧
        ∀ d : Char, d.toNat < 128 →
          (b = d.toUInt8 ↔ c = d) := by
  rcases List.exists_cons_of_ne_nil
      (String.utf8EncodeChar_ne_nil (c := c)) with
    ⟨b, bs, hBytes⟩
  refine ⟨b, bs, hBytes, ?_⟩
  intro d hSingle
  constructor
  · rintro rfl
    rw [← mem_encodeChar_iff hSingle, hBytes]
    exact List.mem_cons_self
  · rintro rfl
    rw [encodeChar_of_lt hSingle] at hBytes
    exact (List.cons.inj hBytes).1.symm

/- That byte is read where the character stands. -/
theorem exists_byteAt
    (hSplit : source.toList = front ++ c :: later) :
    ∃ b,
      byteAt source (size front) = .ok b ∧
        size front < (bytes source).length ∧
          ∀ d : Char, d.toNat < 128 →
            (b = d.toUInt8 ↔ c = d) := by
  rcases exists_cons_encodeChar c with ⟨b, bs, hBytes, hFirst⟩
  have hWhole :
      bytes source =
        encode front ++ b :: (bs ++ encode later) := by
    rw [bytes_split hSplit, encode_cons, hBytes]
    rfl
  refine ⟨b, ?_, ?_, hFirst⟩
  · rw [← length_encode]
    exact byteAt_split hWhole
  · rw [hWhole]
    simp

/- Behind the last character there is no byte. -/
theorem length_bytes
    (source : String) :
    (bytes source).length = size source.toList := by
  rw [bytes_eq_encode, length_encode]

end Utf8

------------------------------------------------------------
-- Loops
------------------------------------------------------------

namespace ByteScanner

open Grammar (closing? closingOffsets)

variable {source : String} {mode : BracketMode}
variable {front later : List Char} {c : Char}

/- A dot is passed over. -/
theorem skipDots_dot
    (hSplit : source.toList = front ++ '.' :: later) :
    skipDots source (Utf8.size front) =
      skipDots source (Utf8.size front + 1) := by
  rcases Utf8.exists_byteAt hSplit with
    ⟨b, hByte, hInside, hFirst⟩
  have hDot : b = '.'.toUInt8 :=
    (hFirst '.' (by decide)).mpr rfl
  rw [skipDots, dif_pos hInside, hByte]
  simp only [Except.bind, hDot, if_true]

/- Nothing else is. -/
theorem skipDots_stop
    (hSplit : source.toList = front ++ later)
    (hOther : later.head? ≠ some '.') :
    skipDots source (Utf8.size front) =
      .ok (Utf8.size front) := by
  rw [skipDots]
  cases later with
  | nil =>
      have hEnd :
          ¬ Utf8.size front < (Utf8.bytes source).length := by
        rw [Utf8.length_bytes, hSplit, List.append_nil]
        exact Nat.lt_irrefl _
      rw [dif_neg hEnd]
  | cons c later =>
      rcases Utf8.exists_byteAt hSplit with
        ⟨b, hByte, hInside, hFirst⟩
      have hDot : b ≠ '.'.toUInt8 := by
        rw [Ne, hFirst '.' (by decide)]
        rintro rfl
        exact hOther rfl
      rw [dif_pos hInside, hByte]
      simp only [Except.bind, hDot, if_false]

/- A byte ends a name where its character does. -/
theorem endsName_eq
    {b : UInt8}
    (hFirst :
      ∀ d : Char, d.toNat < 128 → (b = d.toUInt8 ↔ c = d)) :
    endsName mode b = Grammar.endsName mode c := by
  have hDot := hFirst '.' (by decide)
  have hOpening := hFirst '[' (by decide)
  have hClosing := hFirst ']' (by decide)
  rw [Bool.eq_iff_iff]
  simp only [endsName, Grammar.endsName, Bool.or_eq_true,
    Bool.and_eq_true, beq_iff_eq, hDot, hOpening, hClosing]

/- Bytes that are no marks are passed over in a name. -/
theorem nameEnd_pass
    {before inner after : List UInt8}
    (hSplit : Utf8.bytes source = before ++ (inner ++ after))
    (hInner :
      ∀ b ∈ inner,
        endsName mode b = false ∧ b ≠ ']'.toUInt8) :
    nameEnd source mode before.length =
      nameEnd source mode (before.length + inner.length) := by
  induction inner generalizing before with
  | nil => rfl
  | cons b inner ih =>
      have hHere :
          Utf8.bytes source = before ++ b :: (inner ++ after) :=
        hSplit
      have hInside :
          before.length < (Utf8.bytes source).length := by
        rw [hHere]
        simp
      have hLater :
          nameEnd source mode (before ++ [b]).length =
            nameEnd source mode
              ((before ++ [b]).length + inner.length) := by
        apply ih
        · rw [hHere]
          simp
        · intro d hMember
          exact hInner d (List.mem_cons_of_mem _ hMember)
      rcases hInner b List.mem_cons_self with ⟨hEnds, hOther⟩
      rw [List.length_append, List.length_singleton,
        Nat.add_assoc, Nat.add_comm 1] at hLater
      rw [nameEnd, dif_pos hInside, Utf8.byteAt_split hHere,
        List.length_cons, ← hLater]
      simp only [Except.bind, hEnds, Bool.false_eq_true,
        if_false, hOther]
      cases nameEnd source mode (before.length + 1) with
      | error misread => rfl
      | ok found => rfl

/- A name ends in front of a character that ends names. -/
theorem nameEnd_stop
    (hSplit : source.toList = front ++ later)
    (hStop :
      ∀ c ∈ later.head?, Grammar.endsName mode c = true) :
    nameEnd source mode (Utf8.size front) =
      .ok (Utf8.size front, []) := by
  rw [nameEnd]
  cases later with
  | nil =>
      have hEnd :
          ¬ Utf8.size front < (Utf8.bytes source).length := by
        rw [Utf8.length_bytes, hSplit, List.append_nil]
        exact Nat.lt_irrefl _
      rw [dif_neg hEnd]
  | cons c later =>
      rcases Utf8.exists_byteAt hSplit with
        ⟨b, hByte, hInside, hFirst⟩
      have hEnds : endsName mode b = true := by
        rw [endsName_eq hFirst]
        exact hStop c rfl
      rw [dif_pos hInside, hByte]
      simp only [Except.bind, hEnds, if_true]

/- A character of a name is passed over as a whole. -/
theorem nameEnd_char
    (hSplit : source.toList = front ++ c :: later)
    (hInside : Grammar.endsName mode c = false)
    (hOther : c ≠ ']') :
    nameEnd source mode (Utf8.size front) =
      nameEnd source mode (Utf8.size (front ++ [c])) := by
  have hBytes :
      Utf8.bytes source =
        Utf8.encode front ++
          (String.utf8EncodeChar c ++ Utf8.encode later) := by
    rw [Utf8.bytes_split hSplit, Utf8.encode_cons]
  have hNoMark :
      ∀ b ∈ String.utf8EncodeChar c,
        endsName mode b = false ∧ b ≠ ']'.toUInt8 := by
    intro b hMember
    have hMark (d : Char) (hSingle : d.toNat < 128)
        (hNot : c ≠ d) : b ≠ d.toUInt8 := by
      rintro rfl
      exact hNot ((Utf8.mem_encodeChar_iff hSingle).mp hMember)
    simp only [Grammar.endsName, Bool.or_eq_false_iff,
      beq_eq_false_iff_ne] at hInside
    have hDot := hMark '.' (by decide) hInside.1.1
    have hOpening := hMark '[' (by decide) hInside.1.2
    have hClosing := hMark ']' (by decide) hOther
    refine ⟨?_, hClosing⟩
    simp [endsName, hDot, hOpening, hClosing]
  have hPass := nameEnd_pass hBytes hNoMark
  simpa [Utf8.size_append] using hPass

/- A closing bracket in a name is passed over and noted. -/
theorem nameEnd_closing
    (hSplit : source.toList = front ++ ']' :: later)
    (hInside : Grammar.endsName mode ']' = false) :
    nameEnd source mode (Utf8.size front) =
      (nameEnd source mode (Utf8.size (front ++ [']']))).map
        (fun (last, stray) =>
          (last, Utf8.size front :: stray)) := by
  rcases Utf8.exists_byteAt hSplit with
    ⟨b, hByte, hBefore, hFirst⟩
  have hEnds : endsName mode b = false := by
    rw [endsName_eq hFirst]
    exact hInside
  have hClosing : b = ']'.toUInt8 :=
    (hFirst ']' (by decide)).mpr rfl
  have hSize :
      Utf8.size (front ++ [']']) = Utf8.size front + 1 :=
    Utf8.size_append front [']']
  subst hClosing
  rw [nameEnd, dif_pos hBefore, hByte, hSize]
  simp only [Except.bind, hEnds, Bool.false_eq_true, if_false,
    if_true]

/-
  A name ends where its characters do, and the closing
  brackets in it are at their offsets.
-/
theorem nameEnd_split
    {name rest : List Char}
    (hSplit : source.toList = front ++ (name ++ rest))
    (hInside : ∀ c ∈ name, Grammar.endsName mode c = false)
    (hStop :
      ∀ c ∈ rest.head?, Grammar.endsName mode c = true) :
    nameEnd source mode (Utf8.size front) =
      .ok
        (Utf8.size front + Utf8.size name,
          closingOffsets (Utf8.size front) name) := by
  induction name generalizing front with
  | nil => exact nameEnd_stop hSplit hStop
  | cons c name ih =>
      have hLater :
          source.toList = (front ++ [c]) ++ (name ++ rest) := by
        rw [hSplit]
        simp
      have hFirst := hInside c List.mem_cons_self
      have hEnd := ih hLater (fun d hMember =>
        hInside d (List.mem_cons_of_mem _ hMember))
      have hSize :
          Utf8.size (front ++ [c]) =
            Utf8.size front + c.utf8Size := by
        simp [Utf8.size_append]
      by_cases hClosing : c = ']'
      · subst hClosing
        rw [nameEnd_closing hSplit hFirst, hEnd, hSize]
        simp [Except.map, closingOffsets, Nat.add_assoc]
      · rw [nameEnd_char hSplit hFirst hClosing, hEnd, hSize]
        simp [closingOffsets, hClosing, Nat.add_assoc]

------------------------------------------------------------
-- Searches
------------------------------------------------------------

/- Bytes that are not the quote are passed over. -/
theorem closingPair?_pass
    {quote : UInt8}
    {inner after : List UInt8}
    (hInner : ∀ b ∈ inner, b ≠ quote) :
    closingPair? quote (inner ++ after) =
      (closingPair? quote after).map (· + inner.length) := by
  induction inner with
  | nil => simp
  | cons b inner ih =>
      have hOther := hInner b List.mem_cons_self
      have hLater := ih (fun d hMember =>
        hInner d (List.mem_cons_of_mem _ hMember))
      cases hTail : inner ++ after with
      | nil =>
          rcases List.append_eq_nil_iff.mp hTail with ⟨rfl, rfl⟩
          rfl
      | cons c tail =>
          rw [hTail] at hLater
          rw [List.cons_append, hTail, closingPair?,
            if_neg (fun hPair => hOther hPair.1), hLater]
          cases closingPair? quote after with
          | none => rfl
          | some n => simp [Nat.add_assoc]

/- A text closes at its front or behind its first character. -/
theorem closing?_cons
    (quote c : Char)
    (cs : List Char) :
    closing? quote (c :: cs) =
      if c = quote ∧ cs.head? = some ']' then
        some ([], cs.tail)
      else
        (closing? quote cs).map
          (fun split => (c :: split.1, split.2)) := by
  cases cs with
  | nil => simp [closing?]
  | cons d cs =>
      rw [closing?]
      simp only [List.head?_cons, Option.some.injEq,
        List.tail_cons]
      cases closing? quote (d :: cs) with
      | none => rfl
      | some split => rfl

/-
  The bytes of a text close where its characters do, with the
  bytes in front of the quote counted.
-/
theorem closingPair?_encode
    {quote : Char}
    (hQuote : quote.toNat < 128)
    (cs : List Char) :
    closingPair? quote.toUInt8 (Utf8.encode cs) =
      (closing? quote cs).map
        (fun split => Utf8.size split.1) := by
  have hSize := Utf8.utf8Size_of_lt hQuote
  induction cs with
  | nil => rfl
  | cons c cs ih =>
      rw [closing?_cons, Utf8.encode_cons]
      by_cases hHere : c = quote
      · subst hHere
        rw [Utf8.encodeChar_of_lt hQuote]
        cases cs with
        | nil => simp [closingPair?, closing?]
        | cons d cs =>
            rcases Utf8.exists_cons_encodeChar d with
              ⟨b, bs, hBytes, hFirst⟩
            have hClosing := hFirst ']' (by decide)
            rw [Utf8.encode_cons, hBytes] at ih ⊢
            simp only [List.cons_append, List.nil_append,
              closingPair?, true_and, hClosing,
              List.head?_cons, Option.some.injEq] at ih ⊢
            by_cases hPair : d = ']'
            · simp [hPair]
            · rw [if_neg hPair, if_neg hPair, ih]
              cases closing? c (d :: cs) with
              | none => rfl
              | some split => simp [hSize, Nat.add_comm]
      · have hPass :
            ∀ b ∈ String.utf8EncodeChar c,
              b ≠ quote.toUInt8 := by
          rintro b hMember rfl
          rw [Utf8.mem_encodeChar_iff hQuote] at hMember
          exact hHere hMember
        rw [closingPair?_pass hPass, ih,
          if_neg (fun hPair => hHere hPair.1)]
        cases closing? quote cs with
        | none => rfl
        | some split => simp [Nat.add_comm]

/- Without a closing bracket there is none in the bytes. -/
theorem findIdx?_closing_none
    {content : List Char}
    (hOpen : ']' ∉ content) :
    (Utf8.encode content).findIdx? (· == ']'.toUInt8) =
      none := by
  rw [List.findIdx?_eq_none_iff]
  intro b hMember
  rcases List.mem_flatMap.mp hMember with ⟨c, hChar, hByte⟩
  rw [beq_eq_false_iff_ne]
  rintro rfl
  rw [Utf8.mem_encodeChar_iff (by decide)] at hByte
  rw [hByte] at hChar
  exact hOpen hChar

/- The first one has the bytes of the content before it. -/
theorem findIdx?_closing
    {content : List Char}
    (hOpen : ']' ∉ content)
    (rest : List Char) :
    (Utf8.encode (content ++ ']' :: rest)).findIdx?
        (· == ']'.toUInt8) =
      some (Utf8.size content) := by
  rw [Utf8.encode_append, List.findIdx?_append,
    findIdx?_closing_none hOpen, Utf8.encode_cons,
    Utf8.encodeChar_of_lt (c := ']') (by decide)]
  simp [List.findIdx?_cons]

end ByteScanner

end TreePath
