import TreePath.Text.Utf8

/-
  Texts as rows of bytes, with reads that can go wrong: a byte
  may lie behind the end of a text, and a slice may not begin
  or end between two characters.

  Key definitions include:
    * `Utf8.bytes`
    * `Utf8.Misread`
    * `Utf8.IsBoundary`
    * `Utf8.byteAt`
    * `Utf8.bytesFrom`
    * `Utf8.slice`

  Main statements:
    * `Utf8.mem_encodeChar_iff`
    * `Utf8.isBoundary_iff`
    * `Utf8.slice_split`
-/

------------------------------------------------------------
-- Bytes of Characters
------------------------------------------------------------

namespace TreePath

namespace Utf8

/- The bytes of characters, one after the other. -/
def encode
    (cs : List Char) : List UInt8 :=
  cs.flatMap String.utf8EncodeChar

@[simp] theorem encode_nil : encode [] = [] :=
  rfl

@[simp] theorem encode_cons
    (c : Char)
    (cs : List Char) :
    encode (c :: cs) = String.utf8EncodeChar c ++ encode cs :=
  List.flatMap_cons

@[simp] theorem encode_append
    (cs ds : List Char) :
    encode (cs ++ ds) = encode cs ++ encode ds :=
  List.flatMap_append

@[simp] theorem length_encode
    (cs : List Char) :
    (encode cs).length = size cs := by
  induction cs with
  | nil => rfl
  | cons c cs ih => simp [ih]

/- The bytes of a text. -/
def bytes
    (source : String) : List UInt8 :=
  source.toByteArray.data.toList

/- They are the bytes of its characters. -/
theorem bytes_eq_encode
    (source : String) :
    bytes source = encode source.toList := by
  rw [bytes, ← String.utf8Encode_toList]
  simp [List.utf8Encode, encode]

/- The text of a character of one byte is that byte. -/
theorem encodeChar_of_lt
    {c : Char}
    (hSingle : c.toNat < 128) :
    String.utf8EncodeChar c = [c.toUInt8] := by
  have hSmall : c.val.toNat ≤ 127 := Nat.le_of_lt_succ hSingle
  simp only [String.utf8EncodeChar, hSmall, if_true]
  rfl

/- It takes no more than that byte. -/
theorem utf8Size_of_lt
    {c : Char}
    (hSingle : c.toNat < 128) :
    c.utf8Size = 1 := by
  rw [← String.length_utf8EncodeChar,
    encodeChar_of_lt hSingle, List.length_singleton]

/- The bytes of any other character are none of these. -/
theorem le_of_mem_encodeChar
    {c : Char}
    {b : UInt8}
    (hOther : 128 ≤ c.toNat)
    (hMember : b ∈ String.utf8EncodeChar c) :
    128 ≤ b.toNat := by
  have hLarge : ¬ c.val.toNat ≤ 127 := Nat.not_le_of_lt hOther
  simp only [String.utf8EncodeChar, hLarge, if_false] at hMember
  split at hMember
  · simp only [List.mem_cons, List.not_mem_nil, or_false]
      at hMember
    rcases hMember with rfl | rfl
    · simp only [UInt8.toNat_ofNat']
      omega
    · simp only [UInt8.toNat_ofNat']
      omega
  · split at hMember
    · simp only [List.mem_cons, List.not_mem_nil, or_false]
        at hMember
      rcases hMember with rfl | rfl | rfl <;>
        simp only [UInt8.toNat_ofNat'] <;> omega
    · simp only [List.mem_cons, List.not_mem_nil, or_false]
        at hMember
      rcases hMember with rfl | rfl | rfl | rfl <;>
        simp only [UInt8.toNat_ofNat'] <;> omega

/- The byte of a character has the number of the character. -/
theorem toNat_toUInt8
    {c : Char}
    (hSingle : c.toNat < 128) :
    c.toUInt8.toNat = c.toNat := by
  simp only [Char.toUInt8, UInt32.toNat_toUInt8, Char.toNat]
    at hSingle ⊢
  omega

/- The byte of a character is in no other character. -/
theorem mem_encodeChar_iff
    {c d : Char}
    (hSingle : d.toNat < 128) :
    d.toUInt8 ∈ String.utf8EncodeChar c ↔ c = d := by
  have hByte := toNat_toUInt8 hSingle
  constructor
  · intro hMember
    by_cases hOther : c.toNat < 128
    · rw [encodeChar_of_lt hOther, List.mem_singleton]
        at hMember
      rw [hMember, toNat_toUInt8 hOther] at hByte
      exact Char.toNat_inj.mp hByte
    · have hLarge :=
        le_of_mem_encodeChar (Nat.le_of_not_lt hOther) hMember
      omega
  · rintro rfl
    simp [encodeChar_of_lt hSingle]

------------------------------------------------------------
-- Reads That Can Go Wrong
------------------------------------------------------------

/-
  What was asked for where there is nothing to read: a byte
  behind the end of a text, or a slice that is none.
-/
inductive Misread where
| byte (position : Nat)
| slice (first last : Nat)
deriving DecidableEq, Repr

/- Whether a position in a text is between two characters. -/
def IsBoundary
    (source : String)
    (position : Nat) : Prop :=
  String.Pos.Raw.IsValid source ⟨position⟩

instance (source : String) (position : Nat) :
    Decidable (IsBoundary source position) :=
  inferInstanceAs (Decidable (String.Pos.Raw.IsValid _ _))

/- The byte at a position. -/
def byteAt
    (source : String)
    (position : Nat) : Except Misread UInt8 :=
  match (bytes source)[position]? with
  | some b => .ok b
  | none => .error (.byte position)

/- The bytes from a position on. -/
def bytesFrom
    (source : String)
    (position : Nat) : Except Misread (List UInt8) :=
  if position ≤ (bytes source).length then
    .ok ((bytes source).drop position)
  else
    .error (.slice position (bytes source).length)

/-
  The text between two positions, which have to be in order
  and not within a character.
-/
def slice
    (source : String)
    (first last : Nat) : Except Misread String :=
  if h :
      first ≤ last ∧ IsBoundary source first ∧
        IsBoundary source last then
    .ok (source.extract ⟨⟨first⟩, h.2.1⟩ ⟨⟨last⟩, h.2.2⟩)
  else
    .error (.slice first last)

------------------------------------------------------------
-- Positions by Characters
------------------------------------------------------------

variable {source : String} {front text later : List Char}

/- A text takes as many bytes as its characters. -/
theorem utf8ByteSize_eq
    (source : String) :
    source.utf8ByteSize = size source.toList := by
  rw [← length_encode, ← bytes_eq_encode]
  rfl

/- The boundaries are the ends of the fronts of a text. -/
theorem isBoundary_iff
    {position : Nat} :
    IsBoundary source position ↔
      ∃ front later,
        source.toList = front ++ later ∧
          position = size front := by
  unfold IsBoundary
  rw [String.Pos.Raw.isValid_iff_exists_append]
  constructor
  · rintro ⟨front, later, rfl, hEnd⟩
    refine
      ⟨front.toList, later.toList, String.toList_append, ?_⟩
    rw [← utf8ByteSize_eq]
    exact congrArg String.Pos.Raw.byteIdx hEnd
  · rintro ⟨front, later, hSplit, rfl⟩
    refine ⟨.ofList front, .ofList later, ?_, ?_⟩
    · rw [← String.ofList_append, ← hSplit,
        String.ofList_toList]
    · rw [String.Pos.Raw.ext_iff, String.byteIdx_rawEndPos,
        utf8ByteSize_eq, String.toList_ofList]

/- A boundary is not behind the end. -/
theorem IsBoundary.le
    {position : Nat}
    (hBoundary : IsBoundary source position) :
    position ≤ source.utf8ByteSize := by
  rcases isBoundary_iff.mp hBoundary with
    ⟨front, later, hSplit, rfl⟩
  rw [utf8ByteSize_eq, hSplit, size_append]
  omega

/- The bytes of a text that is split are split as well. -/
theorem bytes_split
    (hSplit : source.toList = front ++ later) :
    bytes source = encode front ++ encode later := by
  rw [bytes_eq_encode, hSplit, encode_append]

/- A text is known by its bytes. -/
theorem bytes_injective
    {other : String}
    (hSame : bytes source = bytes other) :
    source = other := by
  rw [← String.toByteArray_inj]
  exact ByteArray.ext (Array.toList_inj.mp hSame)

/- The bytes between two boundaries are those in between. -/
theorem bytes_extract
    (first last : source.Pos) :
    bytes (source.extract first last) =
      ((bytes source).drop first.offset.byteIdx).take
        (last.offset.byteIdx - first.offset.byteIdx) := by
  rw [bytes, String.toByteArray_extract,
    ByteArray.data_extract, Array.toList_extract,
    List.extract_eq_take_drop, ← bytes]

/- A byte that stands behind others is read behind them. -/
theorem byteAt_split
    {before after : List UInt8}
    {b : UInt8}
    (hSplit : bytes source = before ++ b :: after) :
    byteAt source before.length = .ok b := by
  simp [byteAt, hSplit]

/- Behind a front its own bytes follow. -/
theorem bytesFrom_split
    (hSplit : source.toList = front ++ later) :
    bytesFrom source (size front) = .ok (encode later) := by
  have hFront : size front = (encode front).length := by simp
  have hDrop :
      (bytes source).drop (size front) = encode later := by
    rw [bytes_split hSplit, hFront, List.drop_left]
  have hInside : size front ≤ (bytes source).length := by
    rw [bytes_split hSplit]
    simp
  rw [bytesFrom, if_pos hInside, hDrop]

/- A text that stands between two others is their slice. -/
theorem slice_split
    (hSplit : source.toList = front ++ (text ++ later)) :
    slice source (size front) (size front + size text) =
      .ok (String.ofList text) := by
  have hFirst : IsBoundary source (size front) :=
    isBoundary_iff.mpr ⟨front, text ++ later, hSplit, rfl⟩
  have hLast : IsBoundary source (size front + size text) := by
    refine isBoundary_iff.mpr ⟨front ++ text, later, ?_, ?_⟩
    · rw [hSplit, List.append_assoc]
    · rw [size_append]
  rw [slice, dif_pos ⟨Nat.le_add_right _ _, hFirst, hLast⟩]
  have hTaken :
      ((bytes source).drop (size front)).take (size text) =
        bytes (String.ofList text) := by
    rw [bytes_split hSplit, encode_append, bytes_eq_encode,
      String.toList_ofList, ← length_encode front,
      List.drop_left, ← length_encode text, List.take_left]
  congr 1
  apply bytes_injective
  rw [bytes_extract, ← hTaken, Nat.add_sub_cancel_left]

end Utf8

end TreePath
