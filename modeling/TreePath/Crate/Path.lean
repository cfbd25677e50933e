import TreePath.Item.Grammar

/-
  This file defines the absolute paths of crates.

  Key definitions include:
    * `CratePath`
    * `CratePath.ofText?`
    * `CratePath.inside?`
    * `CratePath.render`
-/

namespace TreePath

------------------------------------------------------------
-- Paths
------------------------------------------------------------

/- A path from the list of all crates, as its segments. -/
structure CratePath where
  segments : List String
deriving DecidableEq, Repr

namespace CratePath

/- The text of a segment, without blanks. -/
def segmentText
    (segment : Item.Tokens) : String :=
  let text := String.join (Item.textsOf segment)
  String.ofList (text.toList.filter (· != ' '))

/- The path that a form stands for. -/
def ofForm
    (form : Item.PathForm) : CratePath :=
  ⟨form.segments.map segmentText⟩

/-
  The path that a text names.  It is read as the tokens behind
  two colons, so that blanks, comments and arguments may stand
  in it.
-/
def ofText?
    (text : String) : Option CratePath :=
  (Item.readWhole? (fun p => Item.path p false)
    ("::" ++ text)).map ofForm

/-
  The path that a text names inside a crate.  The text may
  also be the arguments of the crate's own name.
-/
def inside?
    (crate text : String) : Option CratePath :=
  ofText? (crate ++ "::" ++ text)

/- A path inside the crate of another. -/
def append
    (outer inner : CratePath) : CratePath :=
  ⟨outer.segments ++ inner.segments⟩

/- A path with colons in front of every segment. -/
def render
    (path : CratePath) : String :=
  String.join (path.segments.map ("::" ++ ·))

end CratePath

end TreePath
