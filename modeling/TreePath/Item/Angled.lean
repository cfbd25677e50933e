import TreePath.Item.Reader

/-
  This file defines lists in angles.  However they are given,
  lifetimes are written before all others.

  Key definitions include:
    * `Item.Angled`
    * `Item.Angled.enclose`
    * `Item.Reader.angled`
-/

namespace TreePath

namespace Item

/- A comma. -/
def commaToken : TokenTree :=
  .mark ',' false

/- Something in angles; `comma` says whether a comma follows
   it. -/
structure Angled where
  isLifetime : Bool
  tokens : Tokens
  comma : Bool

namespace Angled

/- Something in angles with its comma. -/
def written
    (a : Angled) : Tokens :=
  a.tokens ++ (if a.comma then [commaToken] else [])

/-
  Write things in angles, lifetimes before all others.
  Commas stay where they are; one is added if the lifetimes
  end without.
-/
def enclose
    (all : List Angled) : Tokens :=
  let first := all.filter Angled.isLifetime
  let others := all.filter (fun a => !a.isLifetime)
  let ended := (first.getLast?.map Angled.comma).getD true
  .mark '<' false ::
    (first.flatMap written ++
      (if ended || others.isEmpty then [] else [commaToken]) ++
      others.flatMap written ++ [.mark '>' false])

end Angled

/- Read a list in angles; every reading tells whether it was
   that of a lifetime. -/
def Reader.angled
    (r : Reader Bool) : Reader Unit := do
  let (read, _) ←
    captured (do
      mark "<"
      let read ← listed (Ahead.mark ">") "," (captured r)
      mark ">"
      pure read)
  write
    (Angled.enclose
      (read.map (fun ((isLifetime, tokens), comma) =>
        ⟨isLifetime, tokens, comma⟩)))

end Item

end TreePath
