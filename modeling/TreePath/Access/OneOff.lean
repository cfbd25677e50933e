import TreePath.Access.Accessor
import TreePath.Tree.Forwarding

/-
  This file defines accesses by a path text that is used only
  once.  Their texts are always read strictly.

  Key definitions include:
    * `Value.access`
    * `Value.accessPlace`
    * `Value.accessAs`
    * `Value.assignAt`
    * `Value.setPath`
    * `Value.getPath`
    * `Value.getPathOr`
-/

namespace TreePath

namespace Value

variable [RecordKeys]

------------------------------------------------------------
-- Reads
------------------------------------------------------------

/- The value at a path. -/
def access
    (root : Value)
    (source : String) : Read Value :=
  Read.andThen (Read.plan .strict source) (fun plan =>
    .ofWalk (plan.resolve root))

/- The place at a path. -/
def accessPlace
    (root : Value)
    (source : String) : Read Place :=
  Read.andThen (Read.plan .strict source) (fun plan =>
    .ofWalk (plan.resolvePlace root))

/- The value at a path, if it has the type asked for. -/
def accessAs
    (root : Value)
    (type : Shape)
    (source : String) : Read Value :=
  Read.andThen (root.access source) (fun v =>
    .ofValue (downcast type v))

/- The value at a path, or null if the path leads nowhere. -/
def getPath
    (root : Value)
    (source : String) : Read (Option Value) :=
  (root.access source).bind (fun outcome =>
    match outcome with
    | .ok v => .ofValue (.ok (some v))
    | .error (.notFound e) => Accessor.fallBack e none
    | .error e => .ofValue (.error e))

/- The value at a path, or a default if the path leads
   nowhere. -/
def getPathOr
    (root : Value)
    (source : String)
    (fallback : Value) : Read Value :=
  Read.andThen (root.getPath source) (fun found =>
    .ofValue (.ok (found.getD fallback)))

------------------------------------------------------------
-- Writes
------------------------------------------------------------

/- Write at a path. -/
def assignAt
    (root : Value)
    (source : String)
    (x : Value) : Write :=
  Read.thenWrite (Read.plan .strict source) root (fun plan =>
    plan.assign root x)

/- The same as a function of its own. -/
def setPath
    (root : Value)
    (source : String)
    (x : Value) : Write :=
  root.assignAt source x

end Value

end TreePath
