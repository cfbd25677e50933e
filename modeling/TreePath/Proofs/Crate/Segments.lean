import TreePath.Crate.Manifest
import TreePath.Proofs.Item.Words

/-
  Words as segments of paths.  A segment is a path of its own,
  and one inside the facade.  A word that may not stand
  between the colons of a path does not become a path by being
  read.

  Key definitions include:
    * `Item.BeginsNoSegment`

  Main statements:
    * `CratePath.ofText?_segment`
    * `CratePath.inside?_segment`
    * `CratePath.ofText?_word`
    * `CratePath.inside?_word`
-/

------------------------------------------------------------
-- Segments
------------------------------------------------------------

namespace TreePath

namespace Item

open Identifier Reader

/- A reading that fails at once fails as a whole. -/
theorem Reader.bind_of_none
    {α β : Type}
    {r : Reader α}
    {ts : Tokens}
    {next : α → Reader β}
    (hFails : r ts = none) :
    (r >>= next) ts = none := by
  simp only [bind, andThen, hFails]

/- A reading goes on behind what was read. -/
theorem Reader.bind_of_some
    {α β : Type}
    {r : Reader α}
    {ts : Tokens}
    {next : α → Reader β}
    {a : Read α}
    (hReads : r ts = some a) :
    (r >>= next) ts =
      (next a.value a.rest).map (fun b =>
        ⟨b.value, a.written ++ b.written, b.rest⟩) := by
  simp only [bind, andThen, hReads]
  cases next a.value a.rest with
  | none => rfl
  | some b => rfl

/-
  Tokens with which no segment of a path begins: none at all,
  a single reserved word that is no segment, or a literal.
-/
inductive BeginsNoSegment : Tokens → Prop
| nil : BeginsNoSegment []
| reserved
    {word : String}
    (hReserved : word ∈ keywords)
    (hOutside : word ∉ pathKeywords) :
    BeginsNoSegment [.name word]
| literal
    {l : Literal}
    {ts : Tokens} :
    BeginsNoSegment (.literal l :: ts)

variable {p : Phrases} {values : Bool}
variable {ts : Tokens} {name : String}

theorem segment_of_beginsNoSegment
    (hNone : BeginsNoSegment ts) :
    segment p values ts = none := by
  have hBare : Ahead.oneOf bareWords ts = false := by
    cases hNone with
    | nil => rfl
    | reserved hReserved hOutside =>
        simp [pathKeywords] at hOutside
        simp [Ahead.oneOf, bareWords, hOutside]
    | literal => rfl
  have hName :
      (Ahead.name ts || Ahead.word "Self" ts) = false := by
    cases hNone with
    | nil => rfl
    | reserved hReserved hOutside =>
        simp [pathKeywords] at hOutside
        simp [Ahead.name, Ahead.isFree, Ahead.word, hReserved,
          hOutside]
    | literal => rfl
  unfold segment
  apply bind_of_none
  simp [noted, bind, andThen, sees, require, fail, hBare,
    hName]

theorem bareWords_subset :
    bareWords ⊆ keywords := by
  decide

/- A free name without arguments is a segment. -/
theorem segment_name
    (hFree : name ∉ keywords)
    (hPlain : startsArguments values ts = false) :
    segment p values (.name name :: ts) =
      some ⟨[.name name], [.name name], ts⟩ := by
  have hBare : name ∉ bareWords :=
    fun hMember => hFree (bareWords_subset hMember)
  simp [segment, noted, bind, andThen, sees, require, done,
    take, pure, Ahead.oneOf, Ahead.name, Ahead.isFree, hBare,
    hFree, hPlain]

/- A path needs a segment behind its first colons. -/
theorem path_colons
    (hNone : BeginsNoSegment ts) :
    path p values (PathForm.colons ++ ts) = none := by
  have hRoot :
      markIf "::" (PathForm.colons ++ ts) =
        some ⟨true, PathForm.colons, ts⟩ :=
    rfl
  unfold path
  rw [bind_of_some hRoot,
    bind_of_none (segment_of_beginsNoSegment hNone)]
  rfl

/- No keyword is a marked name. -/
theorem isRawName_of_keyword :
    ∀ {word}, word ∈ keywords → isRawName word = false := by
  have hAll : ∀ word ∈ keywords, isRawName word = false := by
    decide
  exact fun {word} hReserved => hAll word hReserved

/- What may stand between colons is a segment. -/
theorem segment_of_isSegment
    (hSegment : isSegment name = true)
    (hPlain : startsArguments values ts = false) :
    segment p values (.name name :: ts) =
      some ⟨[.name name], [.name name], ts⟩ := by
  by_cases hFree : name ∈ keywords
  · have hListed : name ∈ pathKeywords := by
      simpa [isSegment, isName, hFree,
        isRawName_of_keyword hFree] using hSegment
    simp only [pathKeywords, List.mem_cons, List.not_mem_nil,
      or_false] at hListed
    rcases hListed with rfl | rfl | rfl | rfl | rfl
    case inr.inl =>
      -- This word alone may have arguments.
      simp [segment, noted, bind, andThen, sees, require, done,
        take, pure, Ahead.oneOf, bareWords, Ahead.word, hPlain]
    all_goals rfl
  · exact segment_name hFree hPlain

/- Behind the first colons and a segment, a path goes on. -/
theorem path_behind_segment
    (hSegment : isSegment name = true)
    (hPlain : startsArguments values ts = false) :
    path p values (PathForm.colons ++ .name name :: ts) =
      (repeated startsSegment
          (do mark "::"; segment p values) ts).map
        (fun more =>
          ⟨⟨true, [.name name] :: more.value⟩,
            PathForm.colons ++ .name name :: more.written,
            more.rest⟩) := by
  have hRoot :
      markIf "::" (PathForm.colons ++ .name name :: ts) =
        some ⟨true, PathForm.colons, .name name :: ts⟩ :=
    rfl
  have hFirst :=
    segment_of_isSegment (p := p) hSegment hPlain
  unfold path
  rw [bind_of_some hRoot, bind_of_some hFirst]
  cases hMore :
      repeated startsSegment
        (do mark "::"; segment p values) ts with
  | none =>
      rw [bind_of_none hMore]
      rfl
  | some more =>
      rw [bind_of_some hMore]
      simp [pure, done]

/- A path may end behind a segment. -/
theorem path_segment
    (hSegment : isSegment name = true) :
    path p values (PathForm.colons ++ [.name name]) =
      some
        ⟨⟨true, [[.name name]]⟩,
          PathForm.colons ++ [.name name], []⟩ := by
  have hPlain : startsArguments values [] = false := by
    cases values with
    | false => rfl
    | true => rfl
  rw [path_behind_segment hSegment hPlain]
  rfl

/- It may go on with another one. -/
theorem path_segment_segment
    {word : String}
    (hSegment : isSegment name = true)
    (hMore : isSegment word = true) :
    path p false
        (PathForm.colons ++
          .name name :: (PathForm.colons ++ [.name word])) =
      some
        ⟨⟨true, [[.name name], [.name word]]⟩,
          PathForm.colons ++
            .name name :: (PathForm.colons ++ [.name word]),
          []⟩ := by
  have hColons :
      mark "::" (PathForm.colons ++ [.name word]) =
        some ⟨(), PathForm.colons, [.name word]⟩ :=
    rfl
  have hNext :
      (do mark "::"; segment p false : Reader Tokens)
          (PathForm.colons ++ [.name word]) =
        some
          ⟨[.name word], PathForm.colons ++ [.name word],
            []⟩ := by
    rw [bind_of_some hColons, segment_of_isSegment hMore rfl]
    rfl
  have hSees :
      sees startsSegment (PathForm.colons ++ [.name word]) =
        some ⟨true, [], PathForm.colons ++ [.name word]⟩ :=
    rfl
  rw [path_behind_segment hSegment rfl]
  simp only [repeated, repeatedUpTo]
  rw [bind_of_some hSees]
  simp only [if_true, bind_of_some hNext]
  rfl

/- A path needs a segment behind all colons. -/
theorem path_segment_colons
    (hSegment : isSegment name = true)
    (hNone : BeginsNoSegment ts) :
    path p false
        (PathForm.colons ++
          .name name :: (PathForm.colons ++ ts)) =
      none := by
  have hMore :
      startsArguments false (PathForm.colons ++ ts) = false ∧
        startsSegment (PathForm.colons ++ ts) = true := by
    cases hNone with
    | nil => exact ⟨rfl, rfl⟩
    | reserved hReserved hOutside => exact ⟨rfl, rfl⟩
    | literal => exact ⟨rfl, rfl⟩
  have hSees :
      sees startsSegment (PathForm.colons ++ ts) =
        some ⟨true, [], PathForm.colons ++ ts⟩ := by
    simp only [sees, hMore.2]
  have hColons :
      mark "::" (PathForm.colons ++ ts) =
        some ⟨(), PathForm.colons, ts⟩ :=
    rfl
  have hAnother :
      (do mark "::"; segment p false : Reader Tokens)
          (PathForm.colons ++ ts) =
        none := by
    rw [bind_of_some hColons, segment_of_beginsNoSegment hNone]
    rfl
  rw [path_behind_segment hSegment hMore.1]
  simp only [repeated, repeatedUpTo]
  rw [bind_of_some hSees]
  simp only [if_true, bind_of_none hAnother, Option.map_none]

------------------------------------------------------------
-- Words behind Colons
------------------------------------------------------------

/- A word that is a name and no segment is reserved. -/
theorem reserved_of_isIdentifier
    {word : String}
    (hIdentifier : isIdentifier word.toList = true)
    (hSegment : isSegment word = false) :
    word ∈ keywords ∧ word ∉ pathKeywords := by
  simpa [isSegment, isName, hIdentifier] using
    (Bool.or_eq_false_iff.mp hSegment).1

/-
  Behind other tokens, a word that is no segment leaves
  nothing with which a segment begins.
-/
theorem exists_rest_of_word
    {word : String}
    {fuel : Nat}
    {tokens : List Token}
    {level trees : Tokens}
    (hWord : isWord word = true)
    (hSegment : isSegment word = false)
    (hRead : readTokens? fuel word.toList = some tokens)
    (hNest : nest? [] level tokens = some trees) :
    ∃ rest, trees = level.reverse ++ rest ∧
      BeginsNoSegment rest := by
  rcases
      readTokens?_of_word (List.all_eq_true.mp hWord) hRead
    with rfl | ⟨hIdentifier, rfl⟩ | ⟨l, later, rfl⟩
  · rw [nest?] at hNest
    refine ⟨[], ?_, .nil⟩
    rw [List.append_nil, ← Option.some.inj hNest]
  · rw [String.ofList_toList] at hNest
    rw [nest?, nest?] at hNest
    rcases reserved_of_isIdentifier hIdentifier hSegment with
      ⟨hReserved, hOutside⟩
    refine ⟨[.name word], ?_, .reserved hReserved hOutside⟩
    rw [← Option.some.inj hNest, List.reverse_cons]
  · rw [nest?] at hNest
    rcases outermost_of_nest? hNest with ⟨rest, rfl⟩
    refine ⟨.literal l :: rest, ?_, .literal⟩
    simp [outermost]

/- A text fails if no phrase begins with its tokens. -/
theorem readWhole?_of_none
    {α : Type}
    {r : Phrases → Reader α}
    {source : String}
    (hFails :
      ∀ trees, tokensOf? source = some trees →
        ∀ p, r p trees = none) :
    readWhole? r source = none := by
  unfold readWhole?
  cases hTokens : tokensOf? source with
  | none => rfl
  | some trees => simp only [hFails trees hTokens]

/- A word begins with no mark. -/
theorem startsMark_of_isWord
    {word : String}
    (hWord : isWord word = true) :
    startsMark word.toList = false := by
  cases hText : word.toList with
  | nil => rfl
  | cons c cs =>
      apply startsMark_of_isContinue
      exact List.all_eq_true.mp hWord c (by simp [hText])

/- Reading begins with two colons. -/
theorem tokensOf?_of_colons
    {source : String}
    {cs : List Char}
    (hText : source.toList = ':' :: ':' :: cs) :
    tokensOf? source =
      (readTokens? cs.length cs).bind (fun tokens =>
        nest? []
          [.mark ':' (startsMark cs), .mark ':' true]
          tokens) := by
  have hMark : startsMark (':' :: cs) = true := rfl
  have hFile : withoutMark (':' :: ':' :: cs) = ':' :: ':' :: cs :=
    rfl
  simp only [tokensOf?, hText, hFile, List.length_cons,
    readTokens?_colon, hMark]
  cases readTokens? cs.length cs with
  | none => rfl
  | some tokens => rfl

/- The tokens of a word behind two colons. -/
theorem tokensOf?_colons
    {word : String}
    {trees : Tokens}
    (hWord : isWord word = true)
    (hSegment : isSegment word = false)
    (hTokens : tokensOf? ("::" ++ word) = some trees) :
    ∃ rest, trees = PathForm.colons ++ rest ∧
      BeginsNoSegment rest := by
  have hText :
      ("::" ++ word).toList = ':' :: ':' :: word.toList := by
    simp
  rw [tokensOf?_of_colons hText, startsMark_of_isWord hWord,
    Option.bind_eq_some_iff] at hTokens
  rcases hTokens with ⟨tokens, hRead, hNest⟩
  exact exists_rest_of_word hWord hSegment hRead hNest

/- The facade in front of colons is a name. -/
theorem readToken?_facade
    (cs : List Char) :
    readToken? ('v' :: ("c_notation".toList ++ ':' :: cs)) =
      some (.name Manifest.facade, ':' :: cs) := by
  have hFirst : isContinue 'v' = true := by decide
  have hWord :
      ∀ c ∈ "c_notation".toList, isContinue c = true :=
    List.all_eq_true.mp (by decide)
  have hColon : isContinue ':' = false :=
    isContinue_of_outside (by decide)
  have hNumber :
      number? ('v' :: ("c_notation".toList ++ ':' :: cs)) =
        none :=
    number?_of_isDigit (by decide)
  have hName :
      readPlainName?
          ('v' :: ("c_notation".toList ++ ':' :: cs)) =
        some (Manifest.facade, ':' :: cs) := by
    have hStart : isStart 'v' = true := by decide
    simp only [readPlainName?, hStart, if_true]
    rw [List.takeWhile_append_of_pos hWord,
      List.dropWhile_append_of_pos hWord]
    simp [hColon, Manifest.facade]
  generalize "c_notation".toList ++ ':' :: cs = text at *
  simp [readToken?, readBroken?_of_isContinue hFirst,
    readBracket?_of_isContinue hFirst,
    readMark?_of_isContinue hFirst, readLiteral?, hNumber,
    startsBroken, readName?, hName]

/- Reading goes on behind the facade and its colons. -/
theorem tokensOf?_behind_facade
    (word : String) :
    tokensOf? ("::" ++ (Manifest.facade ++ "::" ++ word)) =
      (readTokens? (word.toList.length + 10)
          word.toList).bind (fun tokens =>
        nest? []
          [.mark ':' (startsMark word.toList), .mark ':' true,
            .name Manifest.facade, .mark ':' false,
            .mark ':' true]
          tokens) := by
  have hText :
      ("::" ++ (Manifest.facade ++ "::" ++ word)).toList =
        ':' :: ':' ::
          'v' ::
            ("c_notation".toList ++
              ':' :: ':' :: word.toList) := by
    simp [Manifest.facade]
  have hSize :
      ('v' ::
          ("c_notation".toList ++
            ':' :: ':' :: word.toList)).length =
        word.toList.length + 10 + 1 + 1 + 1 := by
    simp
  have hRead :=
    readTokens?_of_readToken? (gap?_of_isContinue (by decide))
      (readToken?_facade (':' :: word.toList))
  rw [tokensOf?_of_colons hText, hSize, hRead,
    readTokens?_colon, readTokens?_colon]
  simp only [Option.map_map, Option.bind_map]
  rfl

/- The tokens of a word behind the facade. -/
theorem tokensOf?_facade
    {word : String}
    {trees : Tokens}
    (hWord : isWord word = true)
    (hSegment : isSegment word = false)
    (hTokens :
      tokensOf? ("::" ++ (Manifest.facade ++ "::" ++ word)) =
        some trees) :
    ∃ rest,
      trees =
          PathForm.colons ++
            .name Manifest.facade :: (PathForm.colons ++ rest) ∧
        BeginsNoSegment rest := by
  rw [tokensOf?_behind_facade, startsMark_of_isWord hWord,
    Option.bind_eq_some_iff] at hTokens
  rcases hTokens with ⟨tokens, hRead, hNest⟩
  exact exists_rest_of_word hWord hSegment hRead hNest

------------------------------------------------------------
-- Segments behind Colons
------------------------------------------------------------

variable {word : String}

/- A segment begins with no mark. -/
theorem startsMark_of_isSegment
    (hSegment : isSegment word = true) :
    startsMark word.toList = false := by
  rcases exists_cons_of_isSegment hSegment with
    ⟨c, cs, hText, hc⟩
  rw [hText]
  exact startsMark_of_isContinue hc

/- The tokens of a segment behind two colons. -/
theorem tokensOf?_segment
    (hSegment : isSegment word = true) :
    tokensOf? ("::" ++ word) =
      some (PathForm.colons ++ [.name word]) := by
  have hText :
      ("::" ++ word).toList = ':' :: ':' :: word.toList := by
    simp
  have hSize : 0 < word.toList.length := by
    rcases exists_cons_of_isSegment hSegment with
      ⟨c, cs, hCons, _⟩
    simp [hCons]
  rw [tokensOf?_of_colons hText,
    startsMark_of_isSegment hSegment,
    readTokens?_segment hSegment hSize]
  rfl

/- The same for the facade in front of it. -/
theorem tokensOf?_facade_segment
    (hSegment : isSegment word = true) :
    tokensOf? ("::" ++ (Manifest.facade ++ "::" ++ word)) =
      some
        (PathForm.colons ++
          .name Manifest.facade ::
            (PathForm.colons ++ [.name word])) := by
  rw [tokensOf?_behind_facade,
    startsMark_of_isSegment hSegment,
    readTokens?_segment hSegment (Nat.succ_pos _)]
  rfl

end Item

namespace CratePath

open Item Identifier

variable {word : String}

/- A word that is no segment is no path. -/
theorem ofText?_word
    (hWord : isWord word = true)
    (hSegment : isSegment word = false) :
    ofText? word = none := by
  rw [ofText?, readWhole?_of_none, Option.map_none]
  intro trees hTokens p
  rcases tokensOf?_colons hWord hSegment hTokens with
    ⟨rest, rfl, hNone⟩
  exact path_colons hNone

/- The same for the facade in front of the word. -/
theorem inside?_word
    (hWord : isWord word = true)
    (hSegment : isSegment word = false) :
    inside? Manifest.facade word = none := by
  rw [inside?, ofText?, readWhole?_of_none, Option.map_none]
  intro trees hTokens p
  rcases tokensOf?_facade hWord hSegment hTokens with
    ⟨rest, rfl, hNone⟩
  exact path_segment_colons (by decide) hNone

/- The text of a segment is its own. -/
theorem segmentText_segment
    (hSegment : isSegment word = true) :
    segmentText [.name word] = word := by
  have hText :
      String.join (textsOf [.name word]) = word := by
    simp [textsOf, TokenTree.texts]
  have hBlank := blank_notMem_of_isSegment hSegment
  have hKept : word.toList.filter (· != ' ') = word.toList := by
    rw [List.filter_eq_self]
    intro c hc
    simp only [bne_iff_ne]
    rintro rfl
    exact hBlank hc
  simp only [segmentText, hText, hKept, String.ofList_toList]

/- A segment is a path of its own. -/
theorem ofText?_segment
    (hSegment : isSegment word = true) :
    ofText? word = some ⟨[word]⟩ := by
  have hText := segmentText_segment hSegment
  simp only [ofText?, readWhole?, tokensOf?_segment hSegment,
    path_segment hSegment, Option.map_some, ofForm,
    List.map_cons, List.map_nil, hText]

/- So it is inside the facade. -/
theorem inside?_segment
    (hSegment : isSegment word = true) :
    inside? Manifest.facade word =
      some ⟨[Manifest.facade, word]⟩ := by
  have hFacade : isSegment Manifest.facade = true := by decide
  have hFirst := segmentText_segment hFacade
  have hText := segmentText_segment hSegment
  simp only [inside?, ofText?, readWhole?,
    tokensOf?_facade_segment hSegment,
    path_segment_segment hFacade hSegment, Option.map_some,
    ofForm, List.map_cons, List.map_nil, hFirst, hText]

/- The text of a path of one segment. -/
theorem render_single
    (name : String) :
    (CratePath.mk [name]).render = "::" ++ name := by
  simp [render]

/- The text of a path into the facade. -/
theorem render_facade
    (part : String) :
    (CratePath.mk [Manifest.facade, part]).render =
      "::vc_notation::" ++ part := by
  rw [← String.toList_inj]
  simp [render, Manifest.facade]

end CratePath

end TreePath
