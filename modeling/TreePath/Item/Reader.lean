import TreePath.Item.Ahead

/-
  This file defines readers, which take tokens from the front
  of a sequence and write others in their place.  What they
  write is what they read, but for the order in which some
  lists are written.

  Key definitions include:
    * `Item.Read`
    * `Item.Reader`
    * `Item.Reader.group`
    * `Item.Reader.captured`
    * `Item.Reader.verbatim`
    * `Item.Reader.listed`
-/

namespace TreePath

namespace Item

------------------------------------------------------------
-- Readers
------------------------------------------------------------

/- What was read, how it is written, and what is left. -/
structure Read (α : Type) where
  value : α
  written : Tokens
  rest : Tokens

/- A way to read the front of a sequence of tokens. -/
def Reader (α : Type) : Type :=
  Tokens → Option (Read α)

namespace Reader

variable {α β : Type}

/- Read nothing. -/
def done
    (a : α) : Reader α :=
  fun ts => some ⟨a, [], ts⟩

/- Go on behind what was read. -/
def andThen
    (r : Reader α)
    (next : α → Reader β) : Reader β :=
  fun ts =>
    match r ts with
    | none => none
    | some a =>
        match next a.value a.rest with
        | none => none
        | some b => some ⟨b.value, a.written ++ b.written, b.rest⟩

instance : Monad Reader where
  pure := done
  bind := andThen

/- Nothing of the kind can be read. -/
def fail : Reader α :=
  fun _ => none

/- Go on only if a condition holds. -/
def require
    (condition : Bool) : Reader Unit :=
  if condition then done () else fail

/- Look at what comes next. -/
def sees
    (look : Tokens → α) : Reader α :=
  fun ts => some ⟨look ts, [], ts⟩

/- Write tokens without reading any. -/
def write
    (written : Tokens) : Reader Unit :=
  fun ts => some ⟨(), written, ts⟩

/- Keep what would be written. -/
def captured
    (r : Reader α) : Reader (α × Tokens) :=
  fun ts =>
    (r ts).map (fun a => ⟨(a.value, a.written), [], a.rest⟩)

/- Write what is read, and keep it. -/
def noted
    (r : Reader α) : Reader (α × Tokens) :=
  fun ts =>
    (r ts).map (fun a =>
      ⟨(a.value, a.written), a.written, a.rest⟩)

/- Write the very tokens that were read, if what was read is
   of a certain kind. -/
def verbatimWhen
    (kind : α → Bool)
    (r : Reader α) : Reader α :=
  fun ts =>
    (r ts).map (fun a =>
      if kind a.value then
        { a with written := ts.take (ts.length - a.rest.length) }
      else a)

/- Write the very tokens that were read. -/
def verbatim
    (r : Reader α) : Reader α :=
  verbatimWhen (fun _ => true) r

/- Tell whether anything was read. -/
def measured
    (r : Reader α) : Reader (α × Bool) :=
  fun ts =>
    (r ts).map (fun a =>
      ⟨(a.value, a.rest.length < ts.length), a.written, a.rest⟩)

/- Read only if a certain thing comes next; tell whether it
   did. -/
def onlyIf
    (look : Tokens → Bool)
    (r : Reader Unit) : Reader Bool := do
  if ← sees look then
    r
    pure true
  else
    pure false

------------------------------------------------------------
-- Single Tokens
------------------------------------------------------------

/- Read a number of tokens as they are. -/
def take
    (n : Nat) : Reader Unit :=
  fun ts => some ⟨(), ts.take n, ts.drop n⟩

/- Read a sign of one or more marks. -/
def mark
    (sign : String) : Reader Unit := do
  require (← sees (Ahead.mark sign))
  take sign.length

/- Read a sign if it comes next. -/
def markIf
    (sign : String) : Reader Bool :=
  onlyIf (Ahead.mark sign) (mark sign)

/- Read a certain word. -/
def word
    (w : String) : Reader Unit := do
  require (← sees (Ahead.word w))
  take 1

/- Read a certain word if it comes next. -/
def wordIf
    (w : String) : Reader Bool :=
  onlyIf (Ahead.word w) (word w)

/- Read a name or a reserved word. -/
def anyName : Reader String
| .name text :: ts => some ⟨text, [.name text], ts⟩
| _ => none

/- Read a name that is no reserved word. -/
def name : Reader String := do
  require (← sees Ahead.name)
  anyName

/- Read a lifetime. -/
def lifetime : Reader Unit := do
  require (← sees Ahead.lifetime)
  take 2

/- Read a lifetime if one comes next. -/
def lifetimeIf : Reader Bool :=
  onlyIf Ahead.lifetime lifetime

/- Read a literal; a sign in front of a number becomes part
   of it. -/
def literal : Reader Unit
| .literal l :: ts => some ⟨(), [.literal l], ts⟩
| .name text :: ts =>
    if text == "true" || text == "false" then
      some ⟨(), [.name text], ts⟩
    else none
| .mark '-' _ :: .literal l :: ts =>
    if l.isNumber then
      some ⟨(), [.literal ⟨"-" ++ l.written, none⟩], ts⟩
    else none
| _ => none

------------------------------------------------------------
-- Groups
------------------------------------------------------------

/- Read a group of a kind, all of whose tokens are read. -/
def group
    (d : Delimiter)
    (content : Reader α) : Reader α
| .group d' inside :: ts =>
    if d = d' then
      match content inside with
      | some ⟨a, written, []⟩ =>
          some ⟨a, [.group d written], ts⟩
      | _ => none
    else none
| _ => none

/- Read tokens to the end. -/
def everything : Reader Unit :=
  fun ts => some ⟨(), ts, []⟩

/- Read a group of any kind as it is. -/
def anyGroup : Reader (Delimiter × Tokens)
| .group d inside :: ts =>
    some ⟨(d, inside), [.group d inside], ts⟩
| _ => none

------------------------------------------------------------
-- Lists
------------------------------------------------------------

/-
  Read things one behind the other, as long as more of them
  may come.  There are no more of them than the fuel allows.
-/
def repeatedUpTo
    (more : Tokens → Bool)
    (r : Reader α) : Nat → Reader (List α)
| 0 => fail
| fuel + 1 => do
    if ← sees more then
      let a ← r
      let as ← repeatedUpTo more r fuel
      pure (a :: as)
    else
      pure []

/- Read things one behind the other, as long as more of them
   may come. -/
def repeated
    (more : Tokens → Bool)
    (r : Reader α) : Reader (List α) :=
  fun ts => repeatedUpTo more r (ts.length + 1) ts

/-
  Read things with a separator between them, up to an end or
  where no separator follows.  Every thing is told with
  whether a separator follows it.
-/
def listedUpTo
    (ends : Tokens → Bool)
    (separator : String)
    (r : Reader α) : Nat → Reader (List (α × Bool))
| 0 => fail
| fuel + 1 => do
    if ← sees ends then
      pure []
    else
      let a ← r
      if ← markIf separator then
        let as ← listedUpTo ends separator r fuel
        pure ((a, true) :: as)
      else
        pure [(a, false)]

/- Read things with a separator between them, up to an end or
   where no separator follows. -/
def listed
    (ends : Tokens → Bool)
    (separator : String)
    (r : Reader α) : Reader (List (α × Bool)) :=
  fun ts => listedUpTo ends separator r (ts.length + 1) ts

/- Whether a list that was read may have more behind it. -/
def isOpenList
    (read : List (α × Bool)) : Bool :=
  (read.getLast?.map Prod.snd).getD true

/- Read things with commas between them, to the end. -/
def commaList
    (r : Reader α) : Reader Unit := do
  let _ ← listed List.isEmpty "," r

/- Read things with pluses between them, up to an end or where
   no plus follows. -/
def sum
    (ends : Tokens → Bool)
    (r : Reader α) : Reader (List α) := do
  let read ← listed ends "+" r
  pure (read.map Prod.fst)

end Reader

end Item

end TreePath
