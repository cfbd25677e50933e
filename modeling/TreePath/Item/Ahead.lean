import TreePath.Item.Token

/-
  This file defines what can be told from the tokens that
  come next, without reading them.

  Key definitions include:
    * `Ahead.mark`
    * `Ahead.word`
    * `Ahead.name`
    * `Ahead.lifetime`
    * `Ahead.group`
    * `Ahead.literal`
    * `Ahead.beyond`
    * `Ahead.parameters`
-/

namespace TreePath

namespace Item

namespace Ahead

------------------------------------------------------------
-- Marks and Words
------------------------------------------------------------

/- Whether marks come next, with nothing between them. -/
def marks : List Char → Tokens → Bool
| [], _ => true
| [c], .mark d _ :: _ => c == d
| c :: cs, .mark d true :: ts => c == d && marks cs ts
| _, _ => false

/- Whether a sign of one or more marks comes next. -/
def mark
    (sign : String)
    (ts : Tokens) : Bool :=
  marks sign.toList ts

/- Whether a certain word comes next. -/
def word
    (w : String) : Tokens → Bool
| .name text :: _ => text == w
| _ => false

/- Whether one of some words comes next. -/
def oneOf
    (words : List String) : Tokens → Bool
| .name text :: _ => words.contains text
| _ => false

/- Whether a name is no reserved word. -/
def isFree
    (text : String) : Bool :=
  !Identifier.keywords.contains text

/- Whether a name comes next that is no reserved word. -/
def name : Tokens → Bool
| .name text :: _ => isFree text
| _ => false

/- Whether a name or a reserved word comes next. -/
def anyName : Tokens → Bool
| .name _ :: _ => true
| _ => false

------------------------------------------------------------
-- Other Tokens
------------------------------------------------------------

/- Whether a lifetime comes next. -/
def lifetime : Tokens → Bool
| .mark '\'' _ :: .name _ :: _ => true
| _ => false

/- Whether a group of a kind comes next. -/
def group
    (d : Delimiter) : Tokens → Bool
| .group d' _ :: _ => d == d'
| _ => false

/- Whether a group of any kind comes next. -/
def anyGroup : Tokens → Bool
| .group _ _ :: _ => true
| _ => false

/- Whether a literal comes next; a number may be negative. -/
def literal : Tokens → Bool
| .literal _ :: _ => true
| .name text :: _ => text == "true" || text == "false"
| .mark '-' _ :: .literal l :: _ => l.isNumber
| _ => false

/- Whether a text that is a plain literal comes next. -/
def plainText : Tokens → Bool
| .literal l :: _ => l.value.isSome
| _ => false

------------------------------------------------------------
-- Beyond the Next Token
------------------------------------------------------------

/- The tokens behind the next one; a lifetime counts as one
   token. -/
def beyond : Tokens → Tokens
| .mark '\'' _ :: .name _ :: ts => ts
| _ :: ts => ts
| [] => []

/- Whether a mark comes next that does not begin a longer
   sign. -/
def markOnly
    (sign longer : String)
    (ts : Tokens) : Bool :=
  mark sign ts && !mark longer ts

/- Whether a single colon comes next. -/
def colon
    (ts : Tokens) : Bool :=
  markOnly ":" "::" ts

/- Whether an exclamation mark comes next that is no part of
   an inequality. -/
def bang
    (ts : Tokens) : Bool :=
  markOnly "!" "!=" ts

------------------------------------------------------------
-- Beginnings
------------------------------------------------------------

/- The words for places relative to the one at hand. -/
def placeWords : List String :=
  ["self", "Self", "super", "crate"]

/- Whether a segment of a path comes next. -/
def segment
    (ts : Tokens) : Bool :=
  name ts || oneOf placeWords ts

/- Whether the type of a function comes next. -/
def function
    (ts : Tokens) : Bool :=
  oneOf ["fn", "unsafe", "extern"] ts

/- Whether attributes come next. -/
def outerAttribute
    (ts : Tokens) : Bool :=
  mark "#" ts

/- Whether attributes of what encloses them come next. -/
def innerAttribute
    (ts : Tokens) : Bool :=
  mark "#" ts && mark "!" (beyond ts)

/- Whether a sign with which some compiler help is called
   comes next. -/
def builtin
    (ts : Tokens) : Bool :=
  word "builtin" ts && mark "#" (beyond ts)

/- Whether what ends the name of a parameter comes next. -/
def parameterEnd
    (ts : Tokens) : Bool :=
  mark ">" ts || mark "," ts || colon ts || mark "=" ts

/- Whether an angle opens parameters rather than a type. -/
def parameters
    (ts : Tokens) : Bool :=
  let inside := beyond ts
  mark "<" ts &&
    (mark ">" inside || mark "#" inside ||
      ((lifetime inside || name inside) &&
        parameterEnd (beyond inside)) ||
      word "const" inside)

end Ahead

end Item

end TreePath
