import TreePath.Grammar.Scanner
import TreePath.Proofs.Text.Bytes

/-
  The scanner of path texts as one that stands at a byte of
  its text and looks at bytes only.  It may misread: ask for a
  byte behind the end, or for a slice that is not between
  characters.

  Key definitions include:
    * `ByteScanner`
    * `ByteScanner.nameEnd`
    * `ByteScanner.closingPair?`
    * `ByteScanner.next`
    * `Scanner.bytewise`
-/

namespace TreePath

open Utf8 (Misread)

------------------------------------------------------------
-- States
------------------------------------------------------------

/- A scanner that knows its place in the text by bytes. -/
structure ByteScanner where
  source : String
  mode : BracketMode
  position : Nat
  phase : Scanner.Phase
deriving DecidableEq, Repr

namespace ByteScanner

/- What one call yields, and the scanner after it. -/
abbrev Turn :=
  Logged Warning
    (Option (Except SyntaxError LocatedStep) × ByteScanner)

/- A scanner in front of a whole text. -/
def ofText
    (mode : BracketMode)
    (source : String) : ByteScanner :=
  ⟨source, mode, 0, .start⟩

/- The scanner that has nothing more to say. -/
def finish
    (s : ByteScanner) : ByteScanner :=
  { s with phase := .done }

/- The scanner further on in its text. -/
def moveTo
    (s : ByteScanner)
    (position : Nat) : ByteScanner :=
  { s with position := position, phase := .running }

/- Yield a step. -/
def yieldStep
    (s : ByteScanner)
    (step : Step)
    (offset : Nat)
    (warnings : List Warning) : Turn :=
  ⟨(some (.ok ⟨step, some offset⟩), s), warnings⟩

/- Yield a fault and stop. -/
def yieldFault
    (s : ByteScanner)
    (offset : Nat)
    (fault : Fault) : Turn :=
  ⟨(some (.error ⟨offset, s.source, fault⟩), s.finish), []⟩

------------------------------------------------------------
-- Loops over Bytes
------------------------------------------------------------

/- Pass over dots. -/
def skipDots
    (source : String)
    (position : Nat) : Except Misread Nat :=
  if _h : position < (Utf8.bytes source).length then
    (Utf8.byteAt source position).bind (fun b =>
      if b = '.'.toUInt8 then
        skipDots source (position + 1)
      else
        .ok position)
  else
    .ok position
termination_by (Utf8.bytes source).length - position

/- The bytes that end a name. -/
def endsName
    (mode : BracketMode)
    (b : UInt8) : Bool :=
  b == '.'.toUInt8 || b == '['.toUInt8 ||
    (mode == .strict && b == ']'.toUInt8)

/- Where a name ends, and the closing brackets in it. -/
def nameEnd
    (source : String)
    (mode : BracketMode)
    (position : Nat) : Except Misread (Nat × List Nat) :=
  if _h : position < (Utf8.bytes source).length then
    (Utf8.byteAt source position).bind (fun b =>
      if endsName mode b then
        .ok (position, [])
      else
        (nameEnd source mode (position + 1)).map
          (fun (last, stray) =>
            if b = ']'.toUInt8 then
              (last, position :: stray)
            else
              (last, stray)))
  else
    .ok (position, [])
termination_by (Utf8.bytes source).length - position

/- How many bytes stand before a quote and a bracket. -/
def closingPair?
    (quote : UInt8) : List UInt8 → Option Nat
| b :: c :: bs =>
    if b = quote ∧ c = ']'.toUInt8 then
      some 0
    else
      (closingPair? quote (c :: bs)).map (· + 1)
| _ => none

------------------------------------------------------------
-- Names and Groups
------------------------------------------------------------

/- Read a name that begins where the scanner stands. -/
def readName
    (s : ByteScanner) : Except Misread Turn :=
  (nameEnd s.source s.mode s.position).bind
    (fun (last, stray) =>
      (Utf8.slice s.source s.position last).map (fun name =>
        (s.moveTo last).yieldStep (.named name) s.position
          (stray.map (fun o => .strayBracket o s.source))))

/- Refuse the text between two positions, or keep it. -/
def reject
    (s : ByteScanner)
    (first last : Nat)
    (fault : Fault) : Except Misread Turn :=
  match s.mode with
  | .strict => .ok (s.yieldFault first fault)
  | .loose =>
      (Utf8.slice s.source first last).map (fun raw =>
        s.yieldStep (.named raw) first
          [.demotedBracket raw first s.source fault])

/-
  The name between quotes behind an opening bracket, and the
  position behind its group, if there is such a name.
-/
def quoted?
    (s : ByteScanner) :
    Except Misread (Option (String × Nat)) :=
  match (Utf8.bytes s.source)[s.position + 1]? with
  | none => .ok none
  | some quote =>
      if quote = '\''.toUInt8 ∨ quote = '"'.toUInt8 then
        let first := s.position + 2
        (Utf8.bytesFrom s.source first).bind (fun later =>
          match closingPair? quote later with
          | some (n + 1) =>
              let last := first + (n + 1)
              (Utf8.slice s.source first last).map
                (fun name => some (name, last + 2))
          | _ => .ok none)
      else
        .ok none

/- Read a group up to its first closing bracket. -/
def readUnquoted
    (s : ByteScanner) : Except Misread Turn :=
  let first := s.position + 1
  (Utf8.bytesFrom s.source first).bind (fun later =>
    match later.findIdx? (· == ']'.toUInt8) with
    | none =>
        let last := (Utf8.bytes s.source).length
        (s.moveTo last).reject s.position last
          .unclosedBracket
    | some n =>
        let last := first + n
        (Utf8.slice s.source first last).bind (fun content =>
          let after := s.moveTo (last + 1)
          match Grammar.position content.toList with
          | .ok key =>
              .ok (after.yieldStep (.keyed key) s.position [])
          | .error fault =>
              after.reject s.position (last + 1) fault))

/- Read a group whose bracket is where the scanner stands. -/
def readBracket
    (s : ByteScanner) : Except Misread Turn :=
  s.quoted?.bind (fun found =>
    match found with
    | some (name, last) =>
        .ok ((s.moveTo last).yieldStep (.keyed (.name name))
          s.position [])
    | none => s.readUnquoted)

------------------------------------------------------------
-- Calls
------------------------------------------------------------

/- Read what stands where the scanner does. -/
def readHere
    (s : ByteScanner) : Except Misread Turn :=
  if s.position < (Utf8.bytes s.source).length then
    (Utf8.byteAt s.source s.position).bind (fun b =>
      if b = '['.toUInt8 then
        s.readBracket
      else if b = ']'.toUInt8 ∧ s.mode = .strict then
        .ok (s.yieldFault s.position .unexpectedBracket)
      else
        s.readName)
  else
    .ok ⟨(none, s.finish), []⟩

/- Skip dots and read one item. -/
def advance
    (s : ByteScanner) : Except Misread Turn :=
  (skipDots s.source s.position).bind (fun position =>
    (s.moveTo position).readHere)

/- The next step of the text, its fault, or nothing. -/
def next
    (s : ByteScanner) : Except Misread Turn :=
  match s.phase with
  | .done => .ok ⟨(none, s), []⟩
  | .running => s.advance
  | .start =>
      if s.source = "" then
        .ok (s.yieldFault 0 .empty)
      else
        s.advance

end ByteScanner

------------------------------------------------------------
-- Scanners by Bytes
------------------------------------------------------------

namespace Scanner

/- What a scanner is if its text is known by bytes alone. -/
def bytewise
    (s : Scanner) : ByteScanner :=
  ⟨s.source, s.mode, s.offset, s.phase⟩

/- What it yields, with the scanner after it bytewise. -/
def Turn.bytewise
    (turn : Turn) : ByteScanner.Turn :=
  turn.map (fun (outcome, after) => (outcome, after.bytewise))

@[simp] theorem source_bytewise
    (s : Scanner) :
    s.bytewise.source = s.source :=
  rfl

@[simp] theorem mode_bytewise
    (s : Scanner) :
    s.bytewise.mode = s.mode :=
  rfl

@[simp] theorem position_bytewise
    (s : Scanner) :
    s.bytewise.position = s.offset :=
  rfl

@[simp] theorem phase_bytewise
    (s : Scanner) :
    s.bytewise.phase = s.phase :=
  rfl

end Scanner

end TreePath
