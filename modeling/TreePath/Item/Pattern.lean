import TreePath.Item.Index
import TreePath.Item.Path

/-
  This file defines the reading of patterns.

  Key definitions include:
    * `Item.alternatives`
    * `Item.pattern`
-/

namespace TreePath

namespace Item

open Reader

------------------------------------------------------------
-- Alternatives
------------------------------------------------------------

/- Whether another alternative comes next. -/
def startsAlternative
    (ts : Tokens) : Bool :=
  Ahead.mark "|" ts && !Ahead.mark "||" ts &&
    !Ahead.mark "|=" ts

/- Read patterns of which one must fit, and whether there is
   only one and it is a range with one end. -/
def alternatives
    (p : Phrases) : Reader Bool := do
  let led ← markIf "|"
  let half ← p.pattern
  let more ←
    repeated startsAlternative (do
      mark "|"
      p.pattern)
  pure (half && !led && more.isEmpty)

------------------------------------------------------------
-- Ranges
------------------------------------------------------------

/- Whether what stands behind a range with one end comes
   next. -/
def endsRange
    (ts : Tokens) : Bool :=
  ts.isEmpty || Ahead.mark "|" ts || Ahead.mark "=" ts ||
    Ahead.colon ts || Ahead.mark "," ts || Ahead.mark ";" ts ||
    Ahead.word "if" ts

/- Read an end of a range, if it has one. -/
def rangeEnd
    (p : Phrases) : Reader Bool := do
  if ← sees endsRange then
    pure false
  else
    if ← sees Ahead.literal then
      literal
    else if ← wordIf "const" then
      attributedBlock p
    else
      let _ ← anyPath p true
    pure true

/- The sign of a range to which its end belongs. -/
def closedSign : Tokens :=
  [.mark '.' true, .mark '.' true, .mark '=' false]

/- Read the sign of a range, and whether its end belongs to
   it; three points are an old form of that sign. -/
def rangeSign : Reader Bool := do
  if ← markIf "..=" then
    pure true
  else if ← sees (Ahead.mark "...") then
    let _ ← captured (mark "...")
    write closedSign
    pure true
  else
    mark ".."
    pure false

/- Read a range behind its beginning, and whether it has no
   end; one to which its end belongs must have one. -/
def rangeRest
    (p : Phrases) : Reader Bool := do
  let closed ← rangeSign
  let ended ← rangeEnd p
  require (ended || !closed)
  pure (!ended)

/- Read a literal or a range that begins with one. -/
def literalPattern
    (p : Phrases) : Reader Bool := do
  require (← rangeEnd p)
  if ← sees (Ahead.mark "..") then
    rangeRest p
  else
    pure false

------------------------------------------------------------
-- Structs and Tuples
------------------------------------------------------------

/- The words in front of the name of a field. -/
def fieldWords : List String :=
  ["box", "ref", "mut"]

/- Read the name of a field with words in front of it. -/
def markedField : Reader Unit := do
  let _ ←
    verbatimWhen id (do
      let boxed ← wordIf "box"
      let _ ← wordIf "ref"
      let _ ← wordIf "mut"
      let _ ← name
      pure boxed)

/- Read the pattern of a field. -/
def fieldPattern
    (p : Phrases) : Reader Unit := do
  let _ ← attributes p
  if ← sees (Ahead.oneOf fieldWords) then
    markedField
  else
    let named ← member
    if !named || (← sees (Ahead.mark ":")) then
      mark ":"
      let _ ← alternatives p

/- Whether there are no more fields, or all others are left
   out. -/
def endsFields
    (ts : Tokens) : Bool :=
  ts.isEmpty || Ahead.mark ".." (beyondAttributes ts)

/- Read the patterns of fields, of which some may be left
   out. -/
def fieldPatterns
    (p : Phrases) : Reader Unit := do
  let read ← listed endsFields "," (fieldPattern p)
  if !(← sees List.isEmpty) then
    require (isOpenList read)
    let _ ← attributes p
    mark ".."

/- Read a pattern that begins with a path. -/
def pathPattern
    (p : Phrases) : Reader Bool := do
  let form ← anyPath p true
  if isExpandable form && (← sees Ahead.bang) then
    let _ ← expansionCall
    pure false
  else if ← sees (Ahead.group .brace) then
    group .brace (fieldPatterns p)
    pure false
  else if ← sees (Ahead.group .paren) then
    group .paren (commaList (alternatives p))
    pure false
  else if ← sees (Ahead.mark "..") then
    rangeRest p
  else
    pure false

/- Read a pattern in a list, where a range must have both
   ends. -/
def itemPattern
    (p : Phrases) : Reader Unit := do
  let half ← alternatives p
  require (!half)

------------------------------------------------------------
-- Patterns
------------------------------------------------------------

/- Whether what follows the name of a path comes next. -/
def goesOn
    (ts : Tokens) : Bool :=
  Ahead.mark "::" ts || Ahead.mark "!" ts ||
    Ahead.group .brace ts || Ahead.group .paren ts ||
    Ahead.mark ".." ts

/- Whether a pattern comes next that begins with a path. -/
def startsPathPattern
    (ts : Tokens) : Bool :=
  (Ahead.name ts && goesOn (Ahead.beyond ts)) ||
    (Ahead.word "self" ts &&
      Ahead.mark "::" (Ahead.beyond ts)) ||
    Ahead.mark "::" ts || Ahead.mark "<" ts ||
    Ahead.oneOf ["Self", "super", "crate"] ts

/- Whether a literal comes next, or a constant block. -/
def startsLiteralPattern
    (ts : Tokens) : Bool :=
  Ahead.mark "-" ts || Ahead.literal ts ||
    Ahead.word "const" ts

/- Read a name with what it must fit, if that is told. -/
def namePattern
    (p : Phrases) : Reader Unit := do
  let _ ← wordIf "ref"
  let _ ← wordIf "mut"
  require (← sees (fun ts =>
    Ahead.name ts || Ahead.word "self" ts))
  take 1
  if ← markIf "@" then
    let _ ← p.pattern

/- Read the sign for all others, or a range without a
   beginning, and whether it is a range. -/
def pointsPattern
    (p : Phrases) : Reader Bool := do
  require (!(← sees (Ahead.mark "...")))
  let closed ← rangeSign
  let ended ← rangeEnd p
  require (ended || !closed)
  pure ended

/- Read a pattern, and whether it is a range with only one
   end. -/
def pattern
    (p : Phrases) : Reader Bool := do
  if ← sees startsPathPattern then
    pathPattern p
  else if ← sees startsLiteralPattern then
    literalPattern p
  else if ← sees (Ahead.mark "..") then
    pointsPattern p
  else
    if ← wordIf "_" then
      pure ()
    else if ← sees (Ahead.word "box") then
      verbatim (do
        word "box"
        let _ ← p.pattern)
    else if ← markIf "&" then
      let _ ← wordIf "mut"
      let _ ← p.pattern
    else if ← sees (Ahead.group .paren) then
      group .paren (commaList (alternatives p))
    else if ← sees (Ahead.group .bracket) then
      group .bracket (commaList (itemPattern p))
    else
      namePattern p
    pure false

end Item

end TreePath
