import TreePath.Item.Parameters
import TreePath.Item.Pattern
import TreePath.Item.Type

/-
  This file defines the reading of the heads of functions.

  Key definitions include:
    * `Item.startsSignature`
    * `Item.signature`
-/

namespace TreePath

namespace Item

open Reader

------------------------------------------------------------
-- Beginnings
------------------------------------------------------------

/- The tokens behind a word, if it comes next. -/
def beyondWord
    (w : String)
    (ts : Tokens) : Tokens :=
  if Ahead.word w ts then ts.drop 1 else ts

/- The tokens behind a convention, if one comes next. -/
def beyondConvention
    (ts : Tokens) : Tokens :=
  let behind := ts.drop 1
  if !Ahead.word "extern" ts then ts
  else if Ahead.plainText behind then behind.drop 1
  else behind

/- Whether the head of a function comes next, which may be
   called safe or not. -/
def startsSignature
    (safe : Bool)
    (ts : Tokens) : Bool :=
  let behind := beyondWord "async" (beyondWord "const" ts)
  let marked :=
    if safe && Ahead.word "safe" behind then behind.drop 1
    else beyondWord "unsafe" behind
  Ahead.word "fn" (beyondConvention marked)

------------------------------------------------------------
-- Parameters
------------------------------------------------------------

/- The tokens behind the sign of a reference and its lifetime,
   if they come next. -/
def beyondReference
    (ts : Tokens) : Tokens :=
  let behind := ts.drop 1
  if !Ahead.mark "&" ts then ts
  else if Ahead.lifetime behind then Ahead.beyond behind
  else behind

/- Whether a receiver comes next. -/
def startsReceiver
    (ts : Tokens) : Bool :=
  let behind := beyondWord "mut" (beyondReference ts)
  Ahead.word "self" behind &&
    (Ahead.mark "&" ts || !Ahead.mark "::" (behind.drop 1))

/- Read a receiver; one that is no reference may have a
   type. -/
def receiver
    (p : Phrases) : Reader Unit := do
  let referred ← markIf "&"
  if referred then
    let _ ← lifetimeIf
  let _ ← wordIf "mut"
  word "self"
  if !referred then
    if ← markIf ":" then
      let _ ← p.type true

/- What stands in place of a name that is left out. -/
def blankName : Tokens :=
  [.name "_", .mark ':' false]

/- Whether a type without a name comes next. -/
def startsNameless
    (ts : Tokens) : Bool :=
  Ahead.name ts && Ahead.mark "<" (Ahead.beyond ts)

/- Read a parameter of a function, and whether another may
   follow it; only the first can be a receiver. -/
def signatureParameter
    (p : Phrases)
    (first : Bool) : Reader Bool := do
  let _ ← attributes p
  if ← markIf "..." then
    pure false
  else if ← sees startsReceiver then
    require first
    receiver p
    pure true
  else if ← sees startsNameless then
    write blankName
    let _ ← p.type true
    pure true
  else
    let _ ← p.pattern
    mark ":"
    if ← markIf "..." then
      pure false
    else
      let _ ← p.type true
      pure true

/-
  Read the parameters of a function, of which there are no
  more than the fuel allows.
-/
def signatureParametersUpTo
    (p : Phrases) : Nat → Bool → Reader Unit
| 0, _ => fail
| fuel + 1, first => do
    if !(← sees List.isEmpty) then
      let more ← signatureParameter p first
      if ← markIf "," then
        if more then
          signatureParametersUpTo p fuel false

/- Read the parameters of a function. -/
def signatureParameters
    (p : Phrases) : Reader Unit :=
  fun ts => signatureParametersUpTo p (ts.length + 1) true ts

------------------------------------------------------------
-- Heads
------------------------------------------------------------

/- Read the head of a function, which may be called safe or
   not. -/
def signature
    (p : Phrases)
    (safe : Bool) : Reader Unit := do
  let _ ← wordIf "const"
  let _ ← wordIf "async"
  if safe && (← sees (Ahead.word "safe")) then
    word "safe"
  else
    let _ ← wordIf "unsafe"
  convention
  word "fn"
  let _ ← name
  let _ ← parameters p
  group .paren (signatureParameters p)
  if ← markIf "->" then
    let _ ← p.type true
  let _ ← conditions p

end Item

end TreePath
