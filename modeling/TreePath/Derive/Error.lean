/-
  This file defines why no implementation can be derived for
  an item.

  Key definitions include:
    * `DeriveError`
    * `DeriveError.message`
-/

namespace TreePath

/-
  A derivation fails at the kind of the item, at the form of
  an attribute, at an entry of one, or at the name under
  which a field would be shown.
-/
inductive DeriveError where
| noNamedFields
| noList
| valueForList
| missingEntry
| literalForEntry
| strangeEntry
| missingSegment
| strangeSegment
| missingComma
| missingEquals
| missingText
| strangeText
| unknownItemEntry
| unknownFieldEntry
| emptyName
| renamedTwice
| renamedThoughSkipped
| nameTaken (name : String)
deriving DecidableEq, Repr

namespace DeriveError

/- What a failed derivation says. -/
def message : DeriveError → String
| .noNamedFields =>
    "`Node` can only be derived for structs with named " ++
      "fields"
| .noList =>
    "expected attribute arguments in parentheses: " ++
      "#[node(...)]"
| .valueForList => "expected parentheses: #[node(...)]"
| .missingEntry =>
    "unexpected end of input, expected nested attribute"
| .literalForEntry =>
    "unexpected literal in nested attribute, expected ident"
| .strangeEntry =>
    "unexpected token in nested attribute, expected ident"
| .missingSegment => "unexpected end of input, expected ident"
| .strangeSegment => "expected ident"
| .missingComma => "expected `,`"
| .missingEquals => "expected `=`"
| .missingText =>
    "unexpected end of input, expected string literal"
| .strangeText => "expected string literal"
| .unknownItemEntry =>
    "unsupported container attribute, expected " ++
      "`keyed`"
| .unknownFieldEntry =>
    "unsupported field attribute, expected `skip` or " ++
      "`rename`"
| .emptyName => "field name cannot be empty"
| .renamedTwice => "duplicate `rename` attribute"
| .renamedThoughSkipped =>
    "`skip` and `rename` cannot be combined"
| .nameTaken name =>
    "duplicate field name `" ++ name ++ "`"

end DeriveError

end TreePath
