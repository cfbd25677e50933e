import TreePath.Access.Assign
import TreePath.Access.Options
import TreePath.Grammar.Reading

/-
  This file defines accessors: a path with a default for
  missing values and settings, and the reads and writes that
  go through it.

  Key definitions include:
    * `Default`
    * `Fallback`
    * `Plan.resolveAs`
    * `Accessor`
    * `Accessor.applyWith`
    * `Accessor.getWith`
    * `Accessor.setWith`
-/

namespace TreePath

variable [RecordKeys]

------------------------------------------------------------
-- Results
------------------------------------------------------------

/- What a read yields, with the log of the access. -/
abbrev Read (α : Type) :=
  Logged Event (Except AccessError α)

/- The value at the end of a walk, or the error of a read. -/
def Read.ofWalk
    {α : Type}
    (found : Logged Event (Except PathNotFound α)) :
    Read α :=
  ⟨found.value.mapError .notFound, found.log⟩

/- A plan read from a text, for use in a read or a write. -/
def Read.plan
    (mode : BracketMode)
    (source : String) : Read Plan :=
  let parsed := (Plan.parse mode source).mapLog Event.warned
  ⟨parsed.value.mapError .malformed, parsed.log⟩

/- Go on with what a read yields. -/
def Read.andThen
    {α β : Type}
    (r : Read α)
    (next : α → Read β) : Read β :=
  r.bind (fun outcome =>
    match outcome with
    | .error e => .ofValue (.error e)
    | .ok a => next a)

/- Go on with a write, if there is something to write by. -/
def Read.thenWrite
    {α : Type}
    (r : Read α)
    (root : Value)
    (next : α → Write) : Write :=
  r.bind (fun outcome =>
    match outcome with
    | .error e => .ofValue (.refuse root e)
    | .ok a => next a)

/- The value of a read, if it has the type asked for. -/
def downcast
    (type : Shape)
    (v : Value) : Except AccessError Value :=
  if v.type = type.nominal then
    .ok v
  else
    .error (.invalidDowncast type.typeName v.typeName)

/- The place of a read, if its value has the type. -/
def downcastPlace
    (type : Shape)
    (place : Place) : Except AccessError Place :=
  if place.node.type = type.nominal then
    .ok place
  else
    .error
      (.invalidDowncast type.typeName place.node.typeName)

/- The value that a plan leads to, if it has the type. -/
def Plan.resolveAs
    (plan : Plan)
    (type : Shape)
    (root : Value) : Read Value :=
  Read.andThen (.ofWalk (plan.resolve root)) (fun v =>
    .ofValue (downcast type v))

------------------------------------------------------------
-- Defaults
------------------------------------------------------------

/- The default of an accessor: none, null or a value. -/
inductive Default where
| missing
| null
| value (v : Value)

/- A default for one call; it may leave the accessor's own. -/
inductive Fallback where
| inherit
| null
| value (v : Value)

------------------------------------------------------------
-- Accessors
------------------------------------------------------------

/-
  An accessor may have a path, and the text that it was read
  from.  It has a default and settings.
-/
structure Accessor where
  source : Option String
  plan : Option Plan
  fallback : Default
  options : AccessOptions

namespace Accessor

/- The accessor without a path. -/
def bare : Accessor :=
  ⟨none, none, .missing, .standard⟩

/- Read an accessor from a text, under the given settings. -/
def parseWith
    (options : AccessOptions)
    (source : String) :
    Logged Warning (Except SyntaxError Accessor) :=
  let parsed := Plan.parse options.brackets source
  match parsed.value with
  | .error e => ⟨.error e, parsed.log⟩
  | .ok plan =>
      ⟨.ok ⟨some source, some plan, .missing, options⟩,
        parsed.log⟩

/- Read an accessor from a text. -/
def parse
    (source : String) :
    Logged Warning (Except SyntaxError Accessor) :=
  parseWith .standard source

/- The accessor of a plan. -/
def ofPlan
    (plan : Plan) : Accessor :=
  { bare with plan := some plan }

/- Answer missing values with a value. -/
def withDefault
    (a : Accessor)
    (v : Value) : Accessor :=
  { a with fallback := .value v }

/- Answer missing values with null. -/
def withNullDefault
    (a : Accessor) : Accessor :=
  { a with fallback := .null }

/- Fail on missing values, or do not. -/
def withStrict
    (a : Accessor)
    (strict : Bool) : Accessor :=
  { a with options := { a.options with strict := strict } }

/- An accessor as it was written, or as its plan is. -/
def render
    (a : Accessor) : String :=
  match a.source, a.plan with
  | some source, _ => source
  | none, some plan => plan.render
  | none, none => ""

/- The text of an accessor for inspection. -/
def inspect
    (a : Accessor) : String :=
  "Accessor('" ++ a.render ++ "')"

------------------------------------------------------------
-- Choice of a Path and a Default
------------------------------------------------------------

/- The accessor's own plan; without one its text is empty. -/
def ownPlan
    (a : Accessor) : Read Plan :=
  match a.plan with
  | some plan => .ofValue (.ok plan)
  | none => .ofValue (.error (.malformed ⟨0, "", .empty⟩))

/- The plan of a call: the one it brings along, or the
   accessor's own. -/
def planFor
    (a : Accessor) : Option String → Read Plan
| some source => Read.plan a.options.brackets source
| none => a.ownPlan

/-
  The answer to a missing value, if there is one.  A null
  default is an answer.
-/
def answer?
    (a : Accessor) : Fallback → Option (Option Value)
| .value v => some (some v)
| .null => some none
| .inherit =>
    match a.fallback with
    | .value v => some (some v)
    | .null => some none
    | .missing => none

/- Note that an answer stands in for a missing value. -/
def fallBack
    (e : PathNotFound)
    (answer : Option Value) : Read (Option Value) :=
  ⟨.ok answer, [.fellBack e answer]⟩

------------------------------------------------------------
-- Reads
------------------------------------------------------------

/- What one call to `applyWith` may bring along. -/
structure ApplyArgs where
  source : Option String
  fallback : Fallback
  strict : Option Bool

/-
  Read, and fall back to the default on a miss, or to null if
  there is none.  A strict read fails on a miss.
-/
def applyWith
    (a : Accessor)
    (args : ApplyArgs)
    (root : Value) : Read (Option Value) :=
  Read.andThen (a.planFor args.source) (fun plan =>
    (plan.resolve root).bind (fun found =>
      match found with
      | .ok v => .ofValue (.ok (some v))
      | .error e =>
          if args.strict.getD a.options.strict then
            .ofValue (.error (.notFound e))
          else
            fallBack e (a.answer? args.fallback).join))

/- Read through the accessor's own path and default. -/
def apply
    (a : Accessor)
    (root : Value) : Read (Option Value) :=
  a.applyWith ⟨none, .inherit, none⟩ root

/-
  Read, and fall back to the default on a miss; without a
  default a miss is an error.
-/
def getWith
    (a : Accessor)
    (source : Option String)
    (fallback : Fallback)
    (root : Value) : Read (Option Value) :=
  Read.andThen (a.planFor source) (fun plan =>
    (plan.resolve root).bind (fun found =>
      match found with
      | .ok v => .ofValue (.ok (some v))
      | .error e =>
          match a.answer? fallback with
          | some answer => fallBack e answer
          | none => .ofValue (.error (.notFound e))))

/- Read through the accessor's own path and default. -/
def get
    (a : Accessor)
    (root : Value) : Read (Option Value) :=
  a.getWith none .inherit root

/- Read a value of a type; defaults play no part. -/
def getAs
    (a : Accessor)
    (type : Shape)
    (root : Value) : Read Value :=
  Read.andThen a.ownPlan (fun plan =>
    plan.resolveAs type root)

/- The place that the path leads to. -/
def getPlace
    (a : Accessor)
    (root : Value) : Read Place :=
  Read.andThen a.ownPlan (fun plan =>
    .ofWalk (plan.resolvePlace root))

/- The place that the path leads to, if its value has the
   type. -/
def getPlaceAs
    (a : Accessor)
    (type : Shape)
    (root : Value) : Read Place :=
  Read.andThen (a.getPlace root) (fun place =>
    .ofValue (downcastPlace type place))

------------------------------------------------------------
-- Writes
------------------------------------------------------------

/- Write at the accessor's own path. -/
def set
    (a : Accessor)
    (root x : Value) : Write :=
  Read.thenWrite a.ownPlan root (fun plan =>
    plan.assign root x)

/- The same for a value that is in a box already. -/
def setBoxed
    (a : Accessor)
    (root x : Value) : Write :=
  a.set root x

/- Write at the path of a text. -/
def setWith
    (a : Accessor)
    (source : String)
    (root x : Value) : Write :=
  Read.thenWrite (Read.plan a.options.brackets source) root
    (fun plan => plan.assign root x)

end Accessor

end TreePath
