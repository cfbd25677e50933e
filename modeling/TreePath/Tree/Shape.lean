/-
  This file defines the types of the values in a tree.

  Key definitions include:
    * `IntegerType`
    * `ScalarType`
    * `SequenceKind`
    * `DictionaryKind`
    * `Declaration`
    * `Shape`
    * `Shape.typeName`
    * `Shape.nominal`
-/

namespace TreePath

------------------------------------------------------------
-- Scalar Types
------------------------------------------------------------

/- The widths of whole numbers; a word has 64 bits. -/
inductive IntegerWidth where
| w8
| w16
| w32
| w64
| w128
| word
deriving DecidableEq, Repr

/- The types of whole numbers. -/
structure IntegerType where
  signed : Bool
  width : IntegerWidth
deriving DecidableEq, Repr

namespace IntegerType

/- The name of a type of whole numbers. -/
def name
    (t : IntegerType) : String :=
  let size :=
    match t.width with
    | .w8 => "8"
    | .w16 => "16"
    | .w32 => "32"
    | .w64 => "64"
    | .w128 => "128"
    | .word => "size"
  (if t.signed then "i" else "u") ++ size

end IntegerType

/-
  The types of leaves.  A literal is a text that lives for
  ever; a custom type is known by its name alone.
-/
inductive ScalarType where
| bool
| char
| unit
| integer (t : IntegerType)
| single
| double
| string
| literal
| custom (name : String)
deriving DecidableEq, Repr

namespace ScalarType

/- The name of a scalar type. -/
def name : ScalarType → String
| .bool => "bool"
| .char => "char"
| .unit => "()"
| .integer t => t.name
| .single => "f32"
| .double => "f64"
| .string => "alloc::string::String"
| .literal => "&str"
| .custom name => name

end ScalarType

------------------------------------------------------------
-- Containers
------------------------------------------------------------

/- Sequences grow at one end or at both, or not at all. -/
inductive SequenceKind where
| vector
| deque
| array (size : Nat)
deriving DecidableEq, Repr

/- Dictionaries keep their names in order or hash them. -/
inductive DictionaryKind where
| ordered
| hashed
| fixedHash
deriving DecidableEq, Repr

namespace SequenceKind

/- The name of a sequence type over a named type. -/
def name
    (kind : SequenceKind)
    (elem : String) : String :=
  match kind with
  | .vector => "alloc::vec::Vec<" ++ elem ++ ">"
  | .deque =>
      "alloc::collections::vec_deque::VecDeque<" ++ elem
        ++ ">"
  | .array size => "[" ++ elem ++ "; " ++ toString size ++ "]"

end SequenceKind

namespace DictionaryKind

/- The name of a dictionary type over a named type. -/
def name
    (kind : DictionaryKind)
    (elem : String) : String :=
  let inner := ScalarType.string.name ++ ", " ++ elem
  match kind with
  | .ordered =>
      "alloc::collections::btree::map::BTreeMap<" ++ inner
        ++ ">"
  | .hashed =>
      "std::collections::hash::map::HashMap<" ++ inner ++ ">"
  | .fixedHash =>
      "hashbrown::map::HashMap<" ++ inner
        ++ ", vc_value::hash::FixedHashState>"

end DictionaryKind

------------------------------------------------------------
-- Records
------------------------------------------------------------

/-
  A declared field has a name and a type.  Hidden fields hold
  data but are not visible as fields.
-/
structure FieldDeclaration (σ : Type) where
  name : String
  hidden : Bool
  type : σ
deriving DecidableEq, Repr

/-
  The fields that a record passes keys on to, if its code for
  keys does so: one for positions and one for names.
-/
structure Delegation where
  positions : String
  names : String
deriving DecidableEq, Repr

/-
  A record type has a full name, a short label, and fields in
  order.  A delegation is told to the code for its keys.
-/
structure Declaration (σ : Type) where
  typeName : String
  label : String
  fields : List (FieldDeclaration σ)
  delegation : Option Delegation
deriving DecidableEq, Repr

namespace Declaration

variable {σ : Type}

/- The names of the visible fields, in order. -/
def visibleNames
    (d : Declaration σ) : List String :=
  (d.fields.filter (fun f => !f.hidden)).map
    FieldDeclaration.name

/- The place of a visible field. -/
def visible?
    (d : Declaration σ)
    (name : String) : Option Nat :=
  d.fields.findIdx? (fun f => !f.hidden && f.name == name)

/- The place of a field, visible or not. -/
def place?
    (d : Declaration σ)
    (name : String) : Option Nat :=
  d.fields.findIdx? (fun f => f.name == name)

end Declaration

------------------------------------------------------------
-- Shapes
------------------------------------------------------------

/-
  The type of a value.  A record type is spelled out by its
  declaration, or it is referred to by its name, so that it
  may occur in its own fields.
-/
inductive Shape where
| scalar (t : ScalarType)
| option (elem : Shape)
| sequence (kind : SequenceKind) (elem : Shape)
| dictionary (kind : DictionaryKind) (elem : Shape)
| json
| object
| record (d : Declaration Shape)
| named (typeName : String)

namespace Shape

/- The name of a type, as errors give it. -/
def typeName : Shape → String
| .scalar t => t.name
| .option elem =>
    "core::option::Option<" ++ elem.typeName ++ ">"
| .sequence kind elem => kind.name elem.typeName
| .dictionary kind elem => kind.name elem.typeName
| .json => "serde_json::value::Value"
| .object => "vc_value::dynamic::DynamicObject"
| .record d => d.typeName
| .named typeName => typeName

/-
  The type without declarations.  Record types are the same
  if their names are.
-/
def nominal : Shape → Shape
| .scalar t => .scalar t
| .option elem => .option elem.nominal
| .sequence kind elem => .sequence kind elem.nominal
| .dictionary kind elem => .dictionary kind elem.nominal
| .json => .json
| .object => .object
| .record d => .named d.typeName
| .named typeName => .named typeName

/- The name of a type does not depend on declarations. -/
@[simp] theorem typeName_nominal :
    (type : Shape) → type.nominal.typeName = type.typeName
| .scalar _ => rfl
| .option elem =>
    congrArg
      (fun name => "core::option::Option<" ++ name ++ ">")
      (typeName_nominal elem)
| .sequence kind elem =>
    congrArg kind.name (typeName_nominal elem)
| .dictionary kind elem =>
    congrArg kind.name (typeName_nominal elem)
| .json => rfl
| .object => rfl
| .record _ => rfl
| .named _ => rfl

------------------------------------------------------------
-- Equality
------------------------------------------------------------

mutual

/- Types are the same if all their parts are. -/
def same : Shape → Shape → Bool
| .scalar s, .scalar t => s == t
| .option s, .option t => same s t
| .sequence k s, .sequence l t => k == l && same s t
| .dictionary k s, .dictionary l t => k == l && same s t
| .json, .json => true
| .object, .object => true
| .record ⟨n, l, fs, d⟩, .record ⟨n', l', fs', d'⟩ =>
    n == n' && l == l' && d == d' && sameFields fs fs'
| .named n, .named n' => n == n'
| _, _ => false

/- Whether two lists declare the same fields. -/
def sameFields :
    List (FieldDeclaration Shape) →
      List (FieldDeclaration Shape) → Bool
| [], [] => true
| ⟨n, h, s⟩ :: fs, ⟨n', h', s'⟩ :: fs' =>
    n == n' && h == h' && same s s' && sameFields fs fs'
| _, _ => false

end

mutual

/- The comparison of parts decides equality. -/
theorem same_iff :
    (a b : Shape) → (same a b = true ↔ a = b)
| .scalar _, b => by cases b <;> simp [same]
| .option s, b => by
    cases b <;> simp [same]
    exact same_iff s _
| .sequence _ s, b => by
    cases b <;> simp [same]
    intro _
    exact same_iff s _
| .dictionary _ s, b => by
    cases b <;> simp [same]
    intro _
    exact same_iff s _
| .json, b => by cases b <;> simp [same]
| .object, b => by cases b <;> simp [same]
| .record ⟨_, _, fs, _⟩, b => by
    cases b <;> simp [same]
    rename_i d
    obtain ⟨_, _, fs', _⟩ := d
    simp [sameFields_iff fs fs']
    grind
| .named _, b => by cases b <;> simp [same]

/- The same for lists of fields. -/
theorem sameFields_iff :
    (a b : List (FieldDeclaration Shape)) →
      (sameFields a b = true ↔ a = b)
| [], b => by cases b <;> simp [sameFields]
| ⟨_, _, s⟩ :: fs, b => by
    cases b with
    | nil => simp [sameFields]
    | cons f fs' =>
        obtain ⟨_, _, s'⟩ := f
        simp [sameFields, same_iff s s',
          sameFields_iff fs fs', and_assoc]

end

instance : DecidableEq Shape :=
  fun a b => decidable_of_iff (same a b) (same_iff a b)

end Shape

end TreePath
