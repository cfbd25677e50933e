import TreePath.Item.Angled

/-
  This file defines the parameters of an item and the
  conditions on them, and how they are written in an
  implementation.

  Key definitions include:
    * `Item.ParameterKind`
    * `Item.Parameter`
    * `Item.Generics`
    * `Item.Generics.require`
    * `Item.Generics.declared`
    * `Item.Generics.applied`
    * `Item.Generics.conditionTokens`
-/

namespace TreePath

namespace Item

------------------------------------------------------------
-- Parameters
------------------------------------------------------------

/-
  A parameter is a lifetime or a type, with bounds, or a
  constant, with its type.  Types and constants may have a
  default.
-/
inductive ParameterKind where
| lifetime (bounds : Tokens)
| type (bounds default : Tokens)
| constant (type default : Tokens)

/-
  A parameter with its attributes and its name; `comma` says
  whether a comma follows it.
-/
structure Parameter where
  attributes : Tokens
  name : Tokens
  kind : ParameterKind
  comma : Bool

namespace Parameter

/- Whether a parameter is a lifetime. -/
def isLifetime
    (p : Parameter) : Bool :=
  match p.kind with
  | .lifetime _ => true
  | _ => false

/- Whether a parameter is a type. -/
def isType
    (p : Parameter) : Bool :=
  match p.kind with
  | .type _ _ => true
  | _ => false

/- Tokens behind a sign, if there are any. -/
def behind
    (sign : Char)
    (tokens : Tokens) : Tokens :=
  if tokens.isEmpty then [] else .mark sign false :: tokens

/- A parameter as an implementation declares it: without its
   default. -/
def declared
    (p : Parameter) : Tokens :=
  p.attributes ++
    match p.kind with
    | .lifetime bounds => p.name ++ behind ':' bounds
    | .type bounds _ => p.name ++ behind ':' bounds
    | .constant type _ =>
        .name "const" :: p.name ++ .mark ':' false :: type

/- A parameter with its default. -/
def written
    (p : Parameter) : Tokens :=
  p.declared ++
    match p.kind with
    | .lifetime _ => []
    | .type _ default => behind '=' default
    | .constant _ default => behind '=' default

end Parameter

/-
  Conditions in the order of the source.  Every condition but
  the last has a comma behind it.
-/
structure Generics where
  parameters : List Parameter
  conditions : List Tokens
  lastComma : Bool

namespace Generics

/- The names of the parameters that are types, in order. -/
def typeNames
    (g : Generics) : List Tokens :=
  (g.parameters.filter Parameter.isType).map Parameter.name

/- Add conditions behind all others. -/
def require
    (g : Generics)
    (conditions : List Tokens) : Generics :=
  match conditions with
  | [] => g
  | _ =>
      { g with
        conditions := g.conditions ++ conditions
        lastComma := false }

------------------------------------------------------------
-- Writing
------------------------------------------------------------

/- The parameters in angles, if there are any; lifetimes are
   written before all others. -/
def angled
    (g : Generics)
    (write : Parameter → Tokens) : Tokens :=
  if g.parameters.isEmpty then []
  else
    Angled.enclose
      (g.parameters.map (fun p =>
        ⟨p.isLifetime, write p, p.comma⟩))

/- The parameters as an implementation declares them. -/
def declared
    (g : Generics) : Tokens :=
  g.angled Parameter.declared

/- The parameters as arguments of the type. -/
def applied
    (g : Generics) : Tokens :=
  g.angled Parameter.name

/- Conditions with commas between them. -/
def separatedConditions : List Tokens → Bool → Tokens
| [], _ => []
| [c], lastComma =>
    c ++ (if lastComma then [commaToken] else [])
| c :: cs, lastComma =>
    c ++ commaToken :: separatedConditions cs lastComma

/- The parameters as an item itself declares them. -/
def written
    (g : Generics) : Tokens :=
  g.angled Parameter.written

/- The conditions, if there are any. -/
def conditionTokens
    (g : Generics) : Tokens :=
  if g.conditions.isEmpty then []
  else
    .name "where" ::
      separatedConditions g.conditions g.lastComma

end Generics

end Item

end TreePath
