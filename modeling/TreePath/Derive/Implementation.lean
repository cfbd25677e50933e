import TreePath.Crate.Manifest
import TreePath.Derive.NodeStruct

/-
  This file defines the implementations that are derived for
  a struct, and their text.

  Key definitions include:
    * `Method`
    * `Implementation`
    * `Implementation.texts`
    * `NodeStruct.bounded`
    * `NodeStruct.implementations`
    * `NodeStruct.code`
    * `NodeStruct.codeBy`
-/

namespace TreePath

open Item

------------------------------------------------------------
-- Implementations
------------------------------------------------------------

/- A method with its head and its body. -/
structure Method where
  inlined : Bool
  head : List String
  body : List String
deriving DecidableEq, Repr

/-
  An implementation of a trait for an item.  The parameters
  are those of the item, the conditions may be more.
-/
structure Implementation where
  trait : String
  item : String
  generics : Generics
  methods : List Method

/- Texts in braces. -/
def inBraces
    (texts : List String) : List String :=
  "\x7b" :: (texts ++ ["\x7d"])

/- The texts of a method. -/
def Method.texts
    (m : Method) : List String :=
  (if m.inlined then ["#[inline]"] else []) ++
    "fn" :: m.head ++ inBraces m.body

/- The texts of an implementation. -/
def Implementation.texts
    (i : Implementation) : List String :=
  "impl" :: textsOf i.generics.declared ++
    [i.trait, "for", i.item] ++
    textsOf i.generics.applied ++
    textsOf i.generics.conditionTokens ++
    inBraces (i.methods.flatMap Method.texts)

------------------------------------------------------------
-- Names
------------------------------------------------------------

namespace CratePath

/- The text of something inside a crate. -/
def inside
    (path : CratePath)
    (names : List String) : String :=
  (path.append ⟨names⟩).render

/- A path as tokens. -/
def tokens
    (path : CratePath) : Tokens :=
  path.segments.flatMap
    (fun s => [.mark ':' true, .mark ':' false, .name s])

/- The text of the trait of all nodes. -/
def node
    (path : CratePath) : String :=
  path.inside ["Node"]

/- The text of the trait of nodes with fields. -/
def fieldsTrait
    (path : CratePath) : String :=
  path.inside ["ops", "Fields"]

/- The text of the trait of nodes with entries by key. -/
def keyedTrait
    (path : CratePath) : String :=
  path.inside ["ops", "Keyed"]

end CratePath

------------------------------------------------------------
-- Conditions
------------------------------------------------------------

namespace NodeStruct

/- The condition that a type is a node. -/
def nodeCondition
    (path : CratePath)
    (name : Tokens) : Tokens :=
  name ++ .mark ':' false :: (path.append ⟨["Node"]⟩).tokens

/- The parameters of a struct, all types among them nodes. -/
def bounded
    (s : NodeStruct)
    (path : CratePath) : Generics :=
  s.generics.require
    (s.generics.typeNames.map (nodeCondition path))

------------------------------------------------------------
-- Methods of Nodes
------------------------------------------------------------

/- The head of a method that yields a node as another trait. -/
def asTrait
    (name trait : String) : Method :=
  { inlined := true
    head :=
      [name, "(&self)->::core::option::Option<&dyn", trait,
        ">"]
    body := ["::core::option::Option::Some(self)"] }

/- The same for a node that may be changed. -/
def asTraitMut
    (name trait : String) : Method :=
  { inlined := true
    head :=
      [name,
        "(&mut self)->::core::option::Option<&mut dyn", trait,
        ">"]
    body := ["::core::option::Option::Some(self)"] }

/- The method that tells the kind. -/
def kindMethod
    (path : CratePath) : Method :=
  let kind := path.inside ["NodeKind"]
  { inlined := true
    head := ["node_kind(&self)->", kind]
    body := [kind, "::Struct"] }

/- The method that writes a whole struct. -/
def assignMethod
    (path : CratePath) : Method :=
  let box := path.inside ["__macro_exports", "Box"]
  { inlined := false
    head :=
      ["assign(&mut self,value:", box, "<dyn", path.node,
        ">,)->::core::result::Result<(),", box, "<dyn",
        path.node, ">>"]
    body :=
      ["*self=<dyn", path.node,
        ">::take::<Self>(value)?;" ++
          "::core::result::Result::Ok(())"] }

/- The method that inspects a struct. -/
def inspectMethod
    (s : NodeStruct)
    (path : CratePath) : Method :=
  let shown (f : ShownField) : List String :=
    [".field(", (Literal.ofText f.name).written, ",&(&self.",
      f.member, "as&dyn", path.node, "))"]
  { inlined := false
    head :=
      ["node_debug(&self,f:&mut::core::fmt::Formatter<'_>)" ++
        "->::core::fmt::Result"]
    body :=
      ["f.debug_struct(", (Literal.ofText s.name).written,
        ")"] ++ s.fields.flatMap shown ++ [".finish()"] }

/- The methods of the trait of all nodes. -/
def nodeMethods
    (s : NodeStruct)
    (path : CratePath) : List Method :=
  [kindMethod path,
    asTrait "as_fields" path.fieldsTrait,
    asTraitMut "as_fields_mut" path.fieldsTrait] ++
  (if s.keyed then
    [asTrait "as_keyed" path.keyedTrait,
      asTraitMut "as_keyed_mut" path.keyedTrait]
  else []) ++
  [assignMethod path, s.inspectMethod path]

------------------------------------------------------------
-- Methods of Fields
------------------------------------------------------------

/- The arms that choose a field by its name. -/
def arms
    (s : NodeStruct)
    (found : ShownField → List String) : List String :=
  ["match name"] ++
    inBraces
      (s.fields.flatMap
        (fun f =>
          [(Literal.ofText f.name).written,
            "=>::core::option::Option::Some("] ++ found f ++
            ["),"]) ++
        ["_=>::core::option::Option::None,"])

/- The method that reads a field. -/
def fieldMethod
    (s : NodeStruct)
    (path : CratePath) : Method :=
  { inlined := false
    head :=
      ["field(&self,name:&str)->::core::option::Option<&dyn",
        path.node, ">"]
    body :=
      s.arms
        (fun f => ["&self.", f.member, "as&dyn", path.node]) }

/- The method that finds a field to change it. -/
def fieldMutMethod
    (s : NodeStruct)
    (path : CratePath) : Method :=
  { inlined := false
    head :=
      ["field_mut(&mut self,name:&str)" ++
        "->::core::option::Option<&mut dyn", path.node, ">"]
    body :=
      s.arms
        (fun f =>
          ["&mut self.", f.member, "as&mut dyn", path.node]) }

/- The method that lists the names of the fields. -/
def fieldNamesMethod
    (s : NodeStruct)
    (path : CratePath) : Method :=
  let list := path.inside ["__macro_exports", "Vec"]
  let names :=
    s.fields.map (fun f => (Literal.ofText f.name).written)
  { inlined := false
    head := ["field_names(&self)->", list, "<&str>"]
    body :=
      [list, "::from(["] ++ names.intersperse "," ++ ["])"] }

------------------------------------------------------------
-- Derived Implementations
------------------------------------------------------------

/- The implementation of a trait for a struct. -/
def implementation
    (s : NodeStruct)
    (path : CratePath)
    (trait : String)
    (methods : List Method) : Implementation :=
  ⟨trait, s.name, s.bounded path, methods⟩

/- What is derived for a struct. -/
def implementations
    (s : NodeStruct)
    (path : CratePath) : List Implementation :=
  [s.implementation path path.node (s.nodeMethods path),
    s.implementation path path.fieldsTrait
      [s.fieldMethod path, s.fieldMutMethod path,
        s.fieldNamesMethod path]]

/- The text of what is derived; the path is that of the crate
   of nodes. -/
def code
    (s : NodeStruct)
    (path : CratePath) : String :=
  glueAll
    ((s.implementations path).flatMap Implementation.texts)

/- The crate of nodes. -/
def nodeCrate : String :=
  "vc_value"

/- The text of what is derived in a crate with a manifest. -/
def codeBy
    (s : NodeStruct)
    (m : Manifest) : Except InvalidCrateName String :=
  (m.cratePath nodeCrate).map s.code

end NodeStruct

end TreePath
