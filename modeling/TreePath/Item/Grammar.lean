import TreePath.Item.Contained
import TreePath.Item.Lexer
import TreePath.Item.Statement

/-
  This file ties the readers of all phrases together, and
  defines the reading of whole texts.

  Key definitions include:
    * `Item.grammar`
    * `Item.readWhole?`
    * `Declared.ofText?`
-/

namespace TreePath

namespace Item

/-
  The readers of all phrases.  A phrase inside another takes
  one from the fuel.
-/
def grammar : Nat → Phrases
| 0 => Phrases.none
| fuel + 1 =>
    { type := fun plus ts => type (grammar fuel) plus ts
      bound := fun captures constant ts =>
        bound (grammar fuel) captures constant ts
      parameter := fun ts => boundParameter (grammar fuel) ts
      expression := fun structs ts =>
        expression (grammar fuel) structs ts
      operand := fun structs ts =>
        operand (grammar fuel) structs ts
      operations := fun structs least left ts =>
        operations (grammar fuel) structs least left ts
      leading := fun ts => leading (grammar fuel) ts
      pattern := fun ts => pattern (grammar fuel) ts
      statements := fun ts => statements (grammar fuel) ts
      fields := fun ts =>
        (do let _ ← namedFields (grammar fuel)) ts
      item := fun ts => item (grammar fuel) ts
      imports := fun rooted ts =>
        imports (grammar fuel) rooted ts }

/- Enough fuel for every text of a size, since every phrase but
   a few around it takes a token. -/
def fuelFor
    (size : Nat) : Nat :=
  16 * size + 64

/- Read a whole text. -/
def readWhole?
    {α : Type}
    (r : Phrases → Reader α)
    (source : String) : Option α :=
  match tokensOf? source with
  | none => none
  | some ts =>
      match r (grammar (fuelFor source.length)) ts with
      | some ⟨a, _, []⟩ => some a
      | _ => none

end Item

/- Read a text that is one item. -/
def Declared.ofText?
    (source : String) : Option Declared :=
  Item.readWhole? Declared.read source

end TreePath
