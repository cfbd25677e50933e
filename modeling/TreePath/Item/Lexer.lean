import TreePath.Item.Spelling
import TreePath.Item.Token
import TreePath.Text.Blank

/-
  This file defines the reading of program texts as matched
  tokens.

  Key definitions include:
    * `Item.gap?`
    * `Item.readToken?`
    * `Item.readTokens?`
    * `Item.nest?`
    * `Item.tokensOf?`
-/

namespace TreePath

namespace Item

------------------------------------------------------------
-- Blanks and Comments
------------------------------------------------------------

/- Take a line; the break stays behind. -/
def takeLine : List Char → List Char × List Char
| [] => ([], [])
| '\n' :: cs => ([], '\n' :: cs)
| '\r' :: '\n' :: cs => ([], '\n' :: cs)
| c :: cs =>
    let (text, rest) := takeLine cs
    (c :: text, rest)

/-
  Take a comment up to its end; comments nest.  The number
  counts the comments that are open.
-/
def takeBlock? : Nat → List Char →
    Option (List Char × List Char)
| depth, '/' :: '*' :: cs =>
    (takeBlock? (depth + 1) cs).map
      (fun (text, r) => ('/' :: '*' :: text, r))
| 0, '*' :: '/' :: cs => some ([], cs)
| depth + 1, '*' :: '/' :: cs =>
    (takeBlock? depth cs).map
      (fun (text, r) => ('*' :: '/' :: text, r))
| depth, c :: cs =>
    (takeBlock? depth cs).map (fun (text, r) => (c :: text, r))
| _, [] => none

/- A comment that documents what follows, or what it is in. -/
inductive Doc where
| outer (text : List Char)
| inner (text : List Char)

/- What stands in front of the next token. -/
inductive Gap where
| none
| blank (rest : List Char)
| doc (d : Doc) (rest : List Char)

/- Read a comment after two slashes. -/
def lineComment
    (cs : List Char) : Gap :=
  let (text, rest) := takeLine cs
  match text with
  | '/' :: '/' :: _ => .blank rest
  | '/' :: text => .doc (.outer text) rest
  | '!' :: text => .doc (.inner text) rest
  | _ => .blank rest

/- Whether all returns in a text are part of breaks. -/
def hasWholeBreaks : List Char → Bool
| '\r' :: '\n' :: cs => hasWholeBreaks cs
| '\r' :: _ => false
| _ :: cs => hasWholeBreaks cs
| [] => true

/- Read a comment after a slash and a star. -/
def blockComment?
    (cs : List Char) : Option Gap :=
  match takeBlock? 0 cs with
  | none => none
  | some (text, rest) =>
      match text with
      | [] => some (.blank rest)
      | '*' :: '*' :: _ => some (.blank rest)
      | ['*'] => some (.blank rest)
      | '*' :: text => some (.doc (.outer text) rest)
      | '!' :: text => some (.doc (.inner text) rest)
      | _ => some (.blank rest)

/- Look at what stands in front of the next token. -/
def gap? : List Char → Option Gap
| '/' :: '/' :: cs => some (lineComment cs)
| '/' :: '*' :: cs => blockComment? cs
| c :: cs =>
    if Blank.isBlank c then
      some (.blank (cs.dropWhile Blank.isBlank))
    else some .none
| [] => some .none

------------------------------------------------------------
-- Tokens
------------------------------------------------------------

/- The marks. -/
def marks : List Char :=
  "~!@#$%^&*-=+|;:,<.>/?'".toList

/- Whether a mark, and not a comment, comes next. -/
def startsMark : List Char → Bool
| '/' :: '/' :: _ => false
| '/' :: '*' :: _ => false
| c :: _ => marks.contains c
| [] => false

/- The first characters of a text, up to what is left of it. -/
def upTo
    (cs rest : List Char) : String :=
  String.ofList (cs.take (cs.length - rest.length))

/- A literal that is no plain text. -/
def otherLiteral
    (cs rest : List Char) : Token × List Char :=
  let rest := skipSuffix rest
  (.literal ⟨upTo cs rest, none⟩, rest)

/- A plain text literal. -/
def textLiteral
    (cs : List Char)
    (read : Option (List Char × List Char)) :
    Option (Token × List Char) :=
  read.map (fun (text, rest) =>
    let rest := skipSuffix rest
    (.literal ⟨upTo cs rest, some (String.ofList text)⟩, rest))

/- Read a name or a reserved word. -/
def readPlainName? : List Char → Option (String × List Char)
| [] => none
| c :: cs =>
    if Identifier.isStart c then
      let text := c :: cs.takeWhile Identifier.isContinue
      some (String.ofList text,
        cs.dropWhile Identifier.isContinue)
    else none

/- Read a name, a reserved word or a marked name. -/
def readName? : List Char → Option (Token × List Char)
| 'r' :: '#' :: cs =>
    match readPlainName? cs with
    | none => none
    | some (text, rest) =>
        if Identifier.unescapable.contains text then none
        else some (.name ("r#" ++ text), rest)
| cs =>
    (readPlainName? cs).map
      (fun (text, rest) => (.name text, rest))

/- Whether the letters in front of a literal come next, with
   something wrong behind them. -/
def startsBroken : List Char → Bool
| 'r' :: '"' :: _ => true
| 'r' :: '#' :: '"' :: _ => true
| 'r' :: '#' :: '#' :: _ => true
| 'b' :: '"' :: _ => true
| 'b' :: '\'' :: _ => true
| 'b' :: 'r' :: '"' :: _ => true
| 'b' :: 'r' :: '#' :: _ => true
| 'c' :: '"' :: _ => true
| 'c' :: 'r' :: '"' :: _ => true
| 'c' :: 'r' :: '#' :: _ => true
| _ => false

/- Whether the name of a lifetime that is not marked has a
   number sign right behind it. -/
def runsIntoSign : List Char → List Char → Bool
| 'r' :: '#' :: _, _ => false
| _, '#' :: _ => true
| _, _ => false

/- Read a mark; an apostrophe must begin a lifetime. -/
def readMark?
    (cs : List Char) : Option (Token × List Char) :=
  match cs with
  | '\'' :: rest =>
      match readName? rest with
      | some (_, '\'' :: _) => none
      | some (_, behind) =>
          if runsIntoSign rest behind then none
          else some (.mark '\'' true, rest)
      | none => none
  | c :: rest =>
      if startsMark cs then some (.mark c (startsMark rest), rest)
      else none
  | [] => none

/- Read the literal that stands for a broken one. -/
def readBroken?
    (cs : List Char) : Option (Token × List Char) :=
  let text := Literal.broken.written.toList
  if text.isPrefixOf cs then
    some (.literal Literal.broken, cs.drop text.length)
  else none

/- Read a bracket. -/
def readBracket?
    (cs : List Char) : Option (Token × List Char) :=
  match cs with
  | '(' :: rest => some (.opening .paren, rest)
  | '[' :: rest => some (.opening .bracket, rest)
  | '\x7b' :: rest => some (.opening .brace, rest)
  | ')' :: rest => some (.closing .paren, rest)
  | ']' :: rest => some (.closing .bracket, rest)
  | '\x7d' :: rest => some (.closing .brace, rest)
  | _ => none

/- Read a literal. -/
def readLiteral?
    (cs : List Char) : Option (Token × List Char) :=
  let text (k : TextKind) (rest : List Char) :=
    readText? k rest.length rest
  let other (rest : Option (List Char)) :=
    rest.map (otherLiteral cs)
  match cs with
  | '"' :: rest => textLiteral cs (text .characters rest)
  | 'r' :: rest => textLiteral cs (rawText? .characters rest)
  | 'b' :: '"' :: rest =>
      other ((text .bytes rest).map Prod.snd)
  | 'c' :: '"' :: rest =>
      other ((text .terminated rest).map Prod.snd)
  | 'b' :: 'r' :: rest =>
      other ((rawText? .bytes rest).map Prod.snd)
  | 'c' :: 'r' :: rest =>
      other ((rawText? .terminated rest).map Prod.snd)
  | 'b' :: '\'' :: rest => other (quotedChar? .bytes rest)
  | '\'' :: rest => other (quotedChar? .characters rest)
  | cs => other (number? cs)

/- Read one token. -/
def readToken?
    (cs : List Char) : Option (Token × List Char) :=
  (readBroken? cs).or
    ((readBracket? cs).or
      ((readLiteral? cs).or
        ((readMark? cs).or
          (if startsBroken cs then none else readName? cs))))

/- The tokens that a documenting comment stands for. -/
def docTokens?
    (d : Doc) : Option (List Token) :=
  let (text, sign) : List Char × List Token :=
    match d with
    | .outer text => (text, [])
    | .inner text => (text, [.mark '!' false])
  if hasWholeBreaks text then
    let documented : List Token :=
      [.opening .bracket, .name "doc", .mark '=' false,
        .literal (.ofText (String.ofList text)),
        .closing .bracket]
    some (.mark '#' false :: (sign ++ documented))
  else none

/-
  Read all tokens of a text.  Every token takes a character,
  so fuel of the length of the text never runs out.
-/
def readTokens? : Nat → List Char → Option (List Token)
| _, [] => some []
| 0, _ => none
| fuel + 1, cs =>
    match gap? cs with
    | none => none
    | some (.blank rest) => readTokens? fuel rest
    | some (.doc d rest) =>
        match docTokens? d with
        | none => none
        | some tokens =>
            (readTokens? fuel rest).map (tokens ++ ·)
    | some .none =>
        match readToken? cs with
        | none => none
        | some (token, rest) =>
            (readTokens? fuel rest).map (token :: ·)

------------------------------------------------------------
-- Matching Brackets
------------------------------------------------------------

/- A group that is still open, and the tokens before it at
   its level, in reverse. -/
structure OpenGroup where
  delimiter : Delimiter
  earlier : Tokens

/-
  Match brackets.  The tokens at the innermost level are kept
  in reverse, with the groups that are open around them.
-/
def nest? : List OpenGroup → Tokens → List Token →
    Option Tokens
| [], level, [] => some level.reverse
| _ :: _, _, [] => none
| groups, level, .name text :: ts =>
    nest? groups (.name text :: level) ts
| groups, level, .mark c joint :: ts =>
    nest? groups (.mark c joint :: level) ts
| groups, level, .literal l :: ts =>
    nest? groups (.literal l :: level) ts
| groups, level, .opening d :: ts =>
    nest? (⟨d, level⟩ :: groups) [] ts
| [], _, .closing _ :: _ => none
| g :: groups, level, .closing d :: ts =>
    if g.delimiter = d then
      nest? groups (.group d level.reverse :: g.earlier) ts
    else
      none

/- A text without the mark that may begin its file. -/
def withoutMark : List Char → List Char
| '\uFEFF' :: cs => cs
| cs => cs

/- The matched tokens of a text. -/
def tokensOf?
    (source : String) : Option Tokens :=
  let cs := withoutMark source.toList
  (readTokens? cs.length cs).bind (nest? [] [])

end Item

end TreePath
