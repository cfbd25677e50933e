import TreePath.Logged
import TreePath.Text.Utf8
import TreePath.Path.Step
import TreePath.Grammar.Error

/-
  This file defines the scanner of path texts.  A text is
  made of dots, names and bracket groups; a group holds a
  position or a quoted name.

  Key definitions include:
    * `Grammar.endsName`
    * `Grammar.closing?`
    * `Grammar.Group`
    * `Grammar.readGroup`
    * `Scanner`
    * `Scanner.next`
-/

namespace TreePath

namespace Grammar

------------------------------------------------------------
-- Names
------------------------------------------------------------

/-
  A dot or an opening bracket ends a name; a closing bracket
  does so in strict reading only.
-/
def endsName
    (mode : BracketMode)
    (c : Char) : Bool :=
  c == '.' || c == '[' || (mode == .strict && c == ']')

/- The byte offsets of the closing brackets in a text. -/
def closingOffsets : Nat → List Char → List Nat
| _, [] => []
| offset, c :: cs =>
    let later := closingOffsets (offset + c.utf8Size) cs
    if c = ']' then offset :: later else later

------------------------------------------------------------
-- Bracket Groups
------------------------------------------------------------

/-
  Split a text at the first place where the quote stands
  directly before a closing bracket.
-/
def closing?
    (quote : Char) : List Char →
      Option (List Char × List Char)
| c :: d :: cs =>
    if c = quote ∧ d = ']' then
      some ([], cs)
    else
      match closing? quote (d :: cs) with
      | none => none
      | some (front, rest) => some (c :: front, rest)
| _ => none

/- A bracket group as it was read. -/
structure Group where
  raw : List Char
  content : Except Fault Key
  rest : List Char

/- The reading of a text between quotes, if it is not empty. -/
def quoted?
    (quote : Char)
    (body : List Char) : Option Group :=
  match closing? quote body with
  | some (c :: text, rest) =>
      some
        { raw :=
            '[' :: quote :: c :: (text ++ [quote, ']'])
          content := .ok (.name (String.ofList (c :: text)))
          rest := rest }
  | _ => none

/- The reading of an unquoted bracket content. -/
def position
    (content : List Char) : Except Fault Key :=
  if content ≠ [] ∧ content.all Char.isDigit then
    let n := Nat.ofDigitChars 10 content 0
    if n < UInt64.size then
      .ok (.index n.toUInt64)
    else
      .error .indexOverflow
  else
    .error .invalidBracket

/- The reading of a group that is not a quoted name. -/
def unquoted
    (body : List Char) : Group :=
  let content := body.takeWhile (· != ']')
  match body.dropWhile (· != ']') with
  | [] =>
      { raw := '[' :: body
        content := .error .unclosedBracket
        rest := [] }
  | close :: rest =>
      { raw := '[' :: (content ++ [close])
        content := position content
        rest := rest }

/-
  Read a group from the text after its opening bracket.  The
  quoted reading wins wherever there is one.
-/
def readGroup
    (body : List Char) : Group :=
  match body with
  | '\'' :: text => (quoted? '\'' text).getD (unquoted body)
  | '"' :: text => (quoted? '"' text).getD (unquoted body)
  | _ => unquoted body

end Grammar

------------------------------------------------------------
-- Scanner
------------------------------------------------------------

/- How far a scanner has come. -/
inductive Scanner.Phase where
| start
| running
| done
deriving DecidableEq, Repr

/-
  A scanner stands at a byte offset of its source, in front
  of the characters that are still to be read.
-/
structure Scanner where
  source : String
  mode : BracketMode
  offset : Nat
  rest : List Char
  phase : Scanner.Phase
deriving DecidableEq, Repr

namespace Scanner

open Grammar

/- What one call yields, and the scanner after it. -/
abbrev Turn :=
  Logged Warning
    (Option (Except SyntaxError LocatedStep) × Scanner)

/- A scanner in front of a whole text. -/
def ofText
    (mode : BracketMode)
    (source : String) : Scanner :=
  ⟨source, mode, 0, source.toList, .start⟩

/- The scanner that has nothing more to say. -/
def finish
    (s : Scanner) : Scanner :=
  { s with phase := .done }

/- The scanner after it has read some of its text. -/
def moveTo
    (s : Scanner)
    (offset : Nat)
    (rest : List Char) : Scanner :=
  { s with offset := offset, rest := rest, phase := .running }

/- Yield a step. -/
def yieldStep
    (s : Scanner)
    (step : Step)
    (offset : Nat)
    (warnings : List Warning) : Turn :=
  ⟨(some (.ok ⟨step, some offset⟩), s), warnings⟩

/- Yield a fault and stop. -/
def yieldFault
    (s : Scanner)
    (offset : Nat)
    (fault : Fault) : Turn :=
  ⟨(some (.error ⟨offset, s.source, fault⟩), s.finish), []⟩

/- Read a name that begins at the offset. -/
def readName
    (s : Scanner)
    (offset : Nat)
    (cs : List Char) : Turn :=
  let name := cs.takeWhile (fun c => !endsName s.mode c)
  let rest := cs.dropWhile (fun c => !endsName s.mode c)
  (s.moveTo (offset + Utf8.size name) rest).yieldStep
    (.named (String.ofList name))
    offset
    ((closingOffsets offset name).map
      (fun o => .strayBracket o s.source))

/- Read a bracket group whose opening bracket is at the offset. -/
def readBracket
    (s : Scanner)
    (offset : Nat)
    (body : List Char) : Turn :=
  let group := readGroup body
  let after :=
    s.moveTo (offset + Utf8.size group.raw) group.rest
  match group.content, s.mode with
  | .ok key, _ => after.yieldStep (.keyed key) offset []
  | .error fault, .strict => after.yieldFault offset fault
  | .error fault, .loose =>
      let raw := String.ofList group.raw
      after.yieldStep (.named raw) offset
        [.demotedBracket raw offset s.source fault]

/- Skip dots and read one item. -/
def advance
    (s : Scanner) : Turn :=
  let dots := s.rest.takeWhile (· == '.')
  let offset := s.offset + Utf8.size dots
  match s.rest.dropWhile (· == '.') with
  | [] => ⟨(none, (s.moveTo offset []).finish), []⟩
  | '[' :: body => s.readBracket offset body
  | c :: cs =>
      if c = ']' ∧ s.mode = .strict then
        (s.moveTo offset (c :: cs)).yieldFault
          offset .unexpectedBracket
      else
        s.readName offset (c :: cs)

/-
  The next step of the text, the fault that ends it, or
  nothing at its end.
-/
def next
    (s : Scanner) : Turn :=
  match s.phase with
  | .done => ⟨(none, s), []⟩
  | .running => s.advance
  | .start =>
      if s.rest = [] then
        s.yieldFault 0 .empty
      else
        s.advance

------------------------------------------------------------
-- Progress
------------------------------------------------------------

/- Dropping characters shortens a text or leaves it alone. -/
theorem length_dropWhile_le
    (p : Char → Bool)
    (cs : List Char) :
    (cs.dropWhile p).length ≤ cs.length :=
  (List.dropWhile_suffix p).length_le

/- A quoted reading leaves less than it was given. -/
theorem length_closing?_lt
    {quote : Char}
    {cs front rest : List Char}
    (h : closing? quote cs = some (front, rest)) :
    rest.length < cs.length := by
  fun_induction closing? quote cs generalizing front with
  | case1 c d cs hc =>
      simp only [Option.some.injEq, Prod.mk.injEq] at h
      obtain ⟨_, rfl⟩ := h
      simp only [List.length_cons]
      omega
  | case2 c d cs hc hn ih => simp at h
  | case3 c d cs hc front' rest' hs ih =>
      simp only [Option.some.injEq, Prod.mk.injEq] at h
      obtain ⟨_, rfl⟩ := h
      have := ih hs
      simp only [List.length_cons] at this ⊢
      omega
  | case4 cs hc => simp at h

/- A quoted group leaves less than it was given. -/
theorem length_quoted?_lt
    {quote : Char}
    {body : List Char}
    {group : Group}
    (h : quoted? quote body = some group) :
    group.rest.length < body.length := by
  unfold quoted? at h
  split at h
  · rename_i hc
    simp only [Option.some.injEq] at h
    subst h
    exact length_closing?_lt hc
  · simp at h

/- An unquoted group leaves no more than it was given. -/
theorem length_unquoted_le
    (body : List Char) :
    (unquoted body).rest.length ≤ body.length := by
  unfold unquoted
  have h := length_dropWhile_le (· != ']') body
  split
  · simp
  · rename_i hd
    rw [hd] at h
    simp at h ⊢
    omega

/- A group leaves no more than it was given. -/
theorem length_readGroup_le
    (body : List Char) :
    (readGroup body).rest.length ≤ body.length := by
  have hu := length_unquoted_le body
  have hq :
      ∀ (quote c : Char) (text : List Char),
        (unquoted (c :: text)).rest.length ≤
          (c :: text).length →
        ((quoted? quote text).getD
          (unquoted (c :: text))).rest.length ≤
            (c :: text).length := by
    intro quote c text hle
    cases h : quoted? quote text with
    | none => simpa using hle
    | some group =>
        have := length_quoted?_lt h
        simp
        omega
  unfold readGroup
  split
  · exact hq _ _ _ hu
  · exact hq _ _ _ hu
  · exact hu

/- A name takes at least the character it begins with. -/
theorem length_readName_lt
    {s : Scanner}
    {c : Char}
    (h : endsName s.mode c = false)
    (offset : Nat)
    (cs : List Char) :
    (s.readName offset (c :: cs)).value.2.rest.length <
      (c :: cs).length := by
  have := length_dropWhile_le
    (fun c => !endsName s.mode c) cs
  simp [readName, yieldStep, moveTo, h]
  omega

/- A bracket group takes at least its opening bracket. -/
theorem length_readBracket_le
    (s : Scanner)
    (offset : Nat)
    (body : List Char) :
    (s.readBracket offset body).value.2.rest.length ≤
      body.length := by
  have := length_readGroup_le body
  unfold readBracket
  dsimp only
  split <;>
    simpa [yieldStep, yieldFault, moveTo, finish] using this

/- Yielding a step takes some of the text. -/
theorem length_advance_lt
    {s : Scanner}
    {step : LocatedStep}
    (h : s.advance.value.1 = some (.ok step)) :
    s.advance.value.2.rest.length < s.rest.length := by
  have hd := length_dropWhile_le (· == '.') s.rest
  have hdot :
      ∀ c cs, s.rest.dropWhile (· == '.') = c :: cs →
        (c == '.') = false := by
    intro c cs hcs
    have := List.head_dropWhile_not (p := (· == '.'))
      (l := s.rest) (by simp [hcs])
    simpa [hcs] using this
  unfold advance at h ⊢
  dsimp only at h ⊢
  split at h
  · simp at h
  · rename_i body hb
    rw [hb] at hd
    have := length_readBracket_le s
      (s.offset + Utf8.size (s.rest.takeWhile (· == '.')))
      body
    simp at hd
    omega
  · rename_i c cs hne hcs
    rw [hcs] at hd
    split at h
    · simp [yieldFault] at h
    · rename_i hstop
      have hc : endsName s.mode c = false := by
        have h1 := hdot c cs hcs
        have h2 : c ≠ '[' := fun hc => by
          exact hne hc
        cases hm : s.mode <;>
          simp_all [endsName]
      simp only [hstop, if_false]
      have := length_readName_lt hc
        (s.offset + Utf8.size (s.rest.takeWhile (· == '.')))
        cs
      omega

/- Yielding a step takes some of the text. -/
theorem length_next_lt
    {s : Scanner}
    {step : LocatedStep}
    (h : s.next.value.1 = some (.ok step)) :
    s.next.value.2.rest.length < s.rest.length := by
  unfold next at h ⊢
  split at h
  · simp at h
  · exact length_advance_lt h
  · split at h
    · simp [yieldFault] at h
    · rename_i hr
      simp only [hr, if_false]
      exact length_advance_lt h

end Scanner

end TreePath
