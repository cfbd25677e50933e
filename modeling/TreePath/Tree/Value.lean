import TreePath.Json.Basic
import TreePath.Tree.Attributes
import TreePath.Tree.Shape

/-
  This file defines the values of a tree, their types and
  their kinds.

  Key definitions include:
    * `Scalar`
    * `Value`
    * `Value.shape`
    * `Value.type`
    * `Value.typeName`
    * `Value.cast`
    * `NodeKind`
    * `Value.kind`
-/

namespace TreePath

------------------------------------------------------------
-- Scalars
------------------------------------------------------------

/-
  Leaves.  Floating-point numbers are given by their bits, so
  that equal values are the same value; a custom leaf is
  given by its type and its text, if it has one.
-/
inductive Scalar where
| bool (b : Bool)
| char (c : Char)
| unit
| integer (t : IntegerType) (n : Int)
| single (bits : UInt32)
| double (bits : UInt64)
| string (s : String)
| literal (s : String)
| custom (typeName : String) (text : Option String)
deriving DecidableEq, Repr

namespace Scalar

/- The type of a leaf. -/
def type : Scalar → ScalarType
| .bool _ => .bool
| .char _ => .char
| .unit => .unit
| .integer t _ => .integer t
| .single _ => .single
| .double _ => .double
| .string _ => .string
| .literal _ => .literal
| .custom typeName _ => .custom typeName

end Scalar

------------------------------------------------------------
-- Values
------------------------------------------------------------

/-
  A value is a leaf or a container.  Containers know the type
  of their items, also when they are empty.  An object holds
  attributes beside entries; a record holds one value for
  each declared field.
-/
inductive Value where
| scalar (s : Scalar)
| option (elem : Shape) (content : Option Value)
| sequence
    (kind : SequenceKind)
    (elem : Shape)
    (items : List Value)
| dictionary
    (kind : DictionaryKind)
    (elem : Shape)
    (entries : List (String × Value))
| json (j : Json)
| object
    (attributes : Attributes Value)
    (entries : List (String × Value))
| record
    (d : Declaration Shape)
    (fields : List Value)

namespace Value

/- The type of a value, with the declaration of a record. -/
def shape : Value → Shape
| .scalar s => .scalar s.type
| .option elem _ => .option elem
| .sequence kind elem _ => .sequence kind elem
| .dictionary kind elem _ => .dictionary kind elem
| .json _ => .json
| .object _ _ => .object
| .record d _ => .record d

/- The type of a value, as it is compared with others. -/
def type
    (v : Value) : Shape :=
  v.shape.nominal

/- The name of the type of a value. -/
def typeName
    (v : Value) : String :=
  v.shape.typeName

/- A value of the type asked for; others are handed back. -/
def cast
    (type : Shape)
    (v : Value) : Except Value Value :=
  if v.type = type.nominal then .ok v else .error v

end Value

------------------------------------------------------------
-- Kinds
------------------------------------------------------------

/- What a value looks like in an error. -/
inductive NodeKind where
| struct
| object
| map
| list
| array
| leaf
deriving DecidableEq, Repr

namespace NodeKind

/- The word for a kind. -/
def word : NodeKind → String
| .struct => "Struct"
| .object => "Object"
| .map => "Map"
| .list => "List"
| .array => "Array"
| .leaf => "Opaque"

end NodeKind

namespace Value

/-
  The kind of a value.  A document is of the kind of what it
  holds.
-/
def kind : Value → NodeKind
| .scalar _ => .leaf
| .option _ _ => .leaf
| .sequence (.array _) _ _ => .array
| .sequence _ _ _ => .list
| .dictionary _ _ _ => .map
| .json (.object _) => .map
| .json (.array _) => .list
| .json _ => .leaf
| .object _ _ => .object
| .record _ _ => .struct

end Value

end TreePath
