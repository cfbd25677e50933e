import TreePath.Path.Plan
import TreePath.Tree.Lookup

/-
  This file defines why a step leads nowhere and how the
  error of a whole walk reports it.

  Key definitions include:
    * `MissReason`
    * `StepMiss`
    * `PathNotFound`
-/

namespace TreePath

------------------------------------------------------------
-- Misses
------------------------------------------------------------

/-
  A keyed value may lack the key, a value may answer no keys
  at all, and a name may be neither a field nor a key.
-/
inductive MissReason where
| noSuchKey
| notKeyed
| noSuchField
deriving DecidableEq, Repr

/- The reason, and the kind and type of the value at fault. -/
structure StepMiss where
  reason : MissReason
  kind : NodeKind
  typeName : String
deriving DecidableEq, Repr

namespace StepMiss

/- A miss on a value. -/
def on
    (reason : MissReason)
    (v : Value) : StepMiss :=
  ⟨reason, v.kind, v.typeName⟩

/- The wording of a miss. -/
def message
    (miss : StepMiss) : String :=
  let kind := miss.kind.word
  let typeName := miss.typeName
  let complaint :=
    match miss.reason with
    | .noSuchKey => "has no such key"
    | .notKeyed => "cannot be indexed"
    | .noSuchField => "has no such field or key"
  s!"the {kind} `{typeName}` {complaint}"

end StepMiss

------------------------------------------------------------
-- Paths That Lead Nowhere
------------------------------------------------------------

/-
  The step that missed, its number on the path, the type of
  the root, and the miss.
-/
structure PathNotFound where
  step : LocatedStep
  depth : Nat
  rootType : String
  miss : StepMiss
deriving DecidableEq, Repr

namespace PathNotFound

/- The wording of the error. -/
def message
    (e : PathNotFound) : String :=
  let label := e.step.step.label
  let offset :=
    match e.step.offset with
    | none => ""
    | some n => s!" (offset {n})"
  let depth := toString e.depth
  let rootType := e.rootType
  let miss := e.miss.message
  s!"Node `{label}` not found{offset} " ++
    s!"at depth {depth} of `{rootType}`: {miss}"

end PathNotFound

end TreePath
