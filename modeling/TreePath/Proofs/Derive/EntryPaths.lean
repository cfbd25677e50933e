import TreePath.Derive.Entry

/-
  The paths with which entries of attributes begin, and what
  can be wrong with them.  They are described as they stand in
  a whole list; reading them from the first piece of it makes
  no difference.

  Key definitions include:
    * `Item.firstPiece`
    * `Item.laterPieces`
    * `Item.PathStands`
    * `Item.PathFault`

  Main statements:
    * `Item.piecesOf_cons`
    * `Item.entryPath_of_stands`
    * `Item.entryPath_of_fault`
    * `Item.path_or_fault`
-/

------------------------------------------------------------
-- Pieces
------------------------------------------------------------

namespace TreePath

namespace Item

/- Whether a token is a comma. -/
def isComma : TokenTree → Bool
| .mark ',' _ => true
| _ => false

/- The tokens up to the first comma, with the comma. -/
def firstPiece : Tokens → Tokens
| [] => []
| t :: ts => t :: if isComma t then [] else firstPiece ts

/- The tokens behind the first comma. -/
def laterPieces : Tokens → Tokens
| [] => []
| t :: ts => if isComma t then ts else laterPieces ts

/- A comma ends a piece. -/
theorem piecesOf_comma
    {t : TokenTree}
    (hComma : isComma t = true)
    (ts : Tokens) :
    piecesOf (t :: ts) = [t] :: piecesOf ts := by
  unfold isComma at hComma
  split at hComma
  case h_1 => rfl
  case h_2 => cases hComma

/- Any other token is put in front of a piece. -/
theorem piecesOf_other
    {t : TokenTree}
    (hOther : isComma t = false)
    (ts : Tokens) :
    piecesOf (t :: ts) =
      match piecesOf ts with
      | [] => [[t]]
      | piece :: pieces => (t :: piece) :: pieces := by
  have hNoComma : ∀ joint, t = .mark ',' joint → False := by
    rintro joint rfl
    cases hOther
  exact piecesOf.eq_3 t ts hNoComma

/- Pieces are cut off one by one. -/
theorem piecesOf_cons
    (t : TokenTree)
    (ts : Tokens) :
    piecesOf (t :: ts) =
      firstPiece (t :: ts) ::
        piecesOf (laterPieces (t :: ts)) := by
  induction ts generalizing t with
  | nil =>
      cases hComma : isComma t with
      | true =>
          simp [piecesOf_comma hComma, firstPiece,
            laterPieces, hComma]
      | false =>
          simp [piecesOf_other hComma, firstPiece,
            laterPieces, piecesOf]
  | cons u ts ih =>
      cases hComma : isComma t with
      | true =>
          simp [piecesOf_comma hComma, firstPiece,
            laterPieces, hComma]
      | false =>
          rw [piecesOf_other hComma, ih u]
          simp [firstPiece, laterPieces, hComma]

/- A single mark comes next, whatever follows it. -/
theorem mark_singleton_iff
    {c : Char}
    {ts : Tokens} :
    Ahead.marks [c] ts = true ↔
      ∃ joint rest, ts = .mark c joint :: rest := by
  constructor
  · intro hMark
    rcases ts with _ | ⟨t, ts⟩
    · cases hMark
    · cases t with
      | mark d joint =>
          have hSame : c = d := by
            simpa [Ahead.marks] using hMark
          exact ⟨joint, ts, by rw [hSame]⟩
      | name text => cases hMark
      | literal l => cases hMark
      | group d content => cases hMark
  · rintro ⟨joint, rest, rfl⟩
    simp [Ahead.marks]

/- Colons are two marks with nothing between them. -/
theorem mark_colons_iff
    {ts : Tokens} :
    Ahead.mark "::" ts = true ↔
      ∃ joint rest,
        ts = .mark ':' true :: .mark ':' joint :: rest := by
  constructor
  · intro hMark
    have hMarks : Ahead.marks [':', ':'] ts = true := hMark
    rcases ts with _ | ⟨t, ts⟩
    · cases hMarks
    · cases t with
      | mark d first =>
          cases first with
          | false => cases hMarks
          | true =>
              simp only [Ahead.marks, Bool.and_eq_true,
                beq_iff_eq, mark_singleton_iff] at hMarks
              rcases hMarks with ⟨rfl, joint, rest, rfl⟩
              exact ⟨joint, rest, rfl⟩
      | name text => cases hMarks
      | literal l => cases hMarks
      | group d content => cases hMarks
  · rintro ⟨joint, rest, rfl⟩
    rfl

/- Nothing is lost between the pieces. -/
theorem firstPiece_append_laterPieces
    (ts : Tokens) :
    firstPiece ts ++ laterPieces ts = ts := by
  induction ts with
  | nil => rfl
  | cons t ts ih =>
      cases hComma : isComma t with
      | true => simp [firstPiece, laterPieces, hComma]
      | false => simp [firstPiece, laterPieces, hComma, ih]

/- Colons are in one piece. -/
theorem mark_colons_firstPiece
    (ts : Tokens) :
    Ahead.mark "::" (firstPiece ts) = Ahead.mark "::" ts := by
  rw [Bool.eq_iff_iff, mark_colons_iff, mark_colons_iff]
  constructor
  · rintro ⟨joint, rest, hPiece⟩
    have hParts := firstPiece_append_laterPieces ts
    rw [hPiece] at hParts
    exact ⟨joint, rest ++ laterPieces ts, hParts.symm⟩
  · rintro ⟨joint, rest, rfl⟩
    exact ⟨joint, firstPiece rest, rfl⟩

/- A mark begins a literal if it is the sign of a number. -/
theorem literal_mark_iff
    {c : Char}
    {joint : Bool}
    {ts : Tokens} :
    Ahead.literal (.mark c joint :: ts) = true ↔
      c = '-' ∧
        ∃ l rest, ts = .literal l :: rest ∧ l.isNumber := by
  constructor
  · intro hLiteral
    unfold Ahead.literal at hLiteral
    split at hLiteral
    case h_1 hTokens => cases hTokens
    case h_2 hTokens => cases hTokens
    case h_3 sign l rest hTokens =>
      cases hTokens
      exact ⟨rfl, l, rest, rfl, hLiteral⟩
    case h_4 => cases hLiteral
  · rintro ⟨rfl, l, rest, rfl, hNumber⟩
    exact hNumber

/- A literal and its sign are in one piece. -/
theorem literal_firstPiece
    (ts : Tokens) :
    Ahead.literal (firstPiece ts) = Ahead.literal ts := by
  rcases ts with _ | ⟨t, ts⟩
  · rfl
  · cases t with
    | name text => rfl
    | literal l => rfl
    | group d content => rfl
    | mark c joint =>
        rw [firstPiece, Bool.eq_iff_iff, literal_mark_iff,
          literal_mark_iff]
        refine and_congr_right ?_
        rintro rfl
        constructor
        · rintro ⟨l, rest, hPiece, hNumber⟩
          have hParts := firstPiece_append_laterPieces ts
          rw [show firstPiece ts = .literal l :: rest from
            hPiece] at hParts
          exact
            ⟨l, rest ++ laterPieces ts, hParts.symm, hNumber⟩
        · rintro ⟨l, rest, rfl, hNumber⟩
          exact ⟨l, firstPiece rest, rfl, hNumber⟩

------------------------------------------------------------
-- Paths
------------------------------------------------------------

/-
  The segments of a path behind its first one, and the tokens
  behind them all.
-/
inductive MoreSegments :
    Tokens → List String → Tokens → Prop
| none
    {rest : Tokens}
    (hEnd : Ahead.mark "::" rest = false) :
    MoreSegments rest [] rest
| next
    {joint : Bool}
    {text : String}
    {texts : List String}
    {ts rest : Tokens}
    (hMore : MoreSegments ts texts rest) :
    MoreSegments
      (.mark ':' true :: .mark ':' joint :: .name text :: ts)
      (text :: texts) rest

/- What is wrong behind the first segment of a path: nothing
   or no name follows colons. -/
inductive SegmentsFault : Tokens → DeriveError → Prop
| missing
    {joint : Bool} :
    SegmentsFault [.mark ':' true, .mark ':' joint]
      .missingSegment
| strange
    {joint : Bool}
    {t : TokenTree}
    {ts : Tokens}
    (hNoName : ∀ text, t ≠ .name text) :
    SegmentsFault
      (.mark ':' true :: .mark ':' joint :: t :: ts)
      .strangeSegment
| later
    {joint : Bool}
    {text : String}
    {ts : Tokens}
    {e : DeriveError}
    (hFault : SegmentsFault ts e) :
    SegmentsFault
      (.mark ':' true :: .mark ':' joint :: .name text :: ts)
      e

/- A path, which may begin with colons, and the tokens behind
   it. -/
inductive PathStands : Tokens → List String → Tokens → Prop
| plain
    {text : String}
    {texts : List String}
    {ts rest : Tokens}
    (hMore : MoreSegments ts texts rest) :
    PathStands (.name text :: ts) (text :: texts) rest
| rooted
    {joint : Bool}
    {text : String}
    {texts : List String}
    {ts rest : Tokens}
    (hMore : MoreSegments ts texts rest) :
    PathStands
      (.mark ':' true :: .mark ':' joint :: .name text :: ts)
      ("" :: text :: texts) rest

/- The tokens behind the colons at the front. -/
def beyondColons
    (ts : Tokens) : Tokens :=
  if Ahead.mark "::" ts then ts.drop 2 else ts

/- What is wrong with a path: its first segment is missing or
   is no name, or something is wrong behind it. -/
inductive PathFault (ts : Tokens) : DeriveError → Prop
| missing
    (hNothing : beyondColons ts = []) :
    PathFault ts .missingEntry
| literal
    (hNoName : Ahead.anyName (beyondColons ts) = false)
    (hLiteral : Ahead.literal (beyondColons ts) = true) :
    PathFault ts .literalForEntry
| strange
    (hSomething : beyondColons ts ≠ [])
    (hNoName : Ahead.anyName (beyondColons ts) = false)
    (hNoLiteral : Ahead.literal (beyondColons ts) = false) :
    PathFault ts .strangeEntry
| segments
    {text : String}
    {us : Tokens}
    {e : DeriveError}
    (hName : beyondColons ts = .name text :: us)
    (hFault : SegmentsFault us e) :
    PathFault ts e

/- Segments end where no colons follow. -/
theorem laterSegments_of_end
    {ts : Tokens}
    (hEnd : Ahead.mark "::" ts = false) :
    laterSegments ts = .ok ([], ts) := by
  unfold laterSegments
  split
  case h_1 => cases hEnd
  case h_2 => cases hEnd
  case h_3 => cases hEnd
  case h_4 => rfl

/- Segments are read within their piece. -/
theorem laterSegments_of_more
    {ts rest : Tokens}
    {texts : List String}
    (hMore : MoreSegments ts texts rest) :
    laterSegments (firstPiece ts) =
        .ok (texts, firstPiece rest) ∧
      laterPieces rest = laterPieces ts := by
  induction hMore with
  | none hEnd =>
      refine ⟨laterSegments_of_end ?_, rfl⟩
      rw [mark_colons_firstPiece, hEnd]
  | next hMore ih =>
      rcases ih with ⟨hRead, hLater⟩
      refine ⟨?_, hLater⟩
      simp [firstPiece, isComma, laterSegments, hRead,
        Except.map]

/- What is wrong with them shows in their piece. -/
theorem laterSegments_of_fault
    {ts : Tokens}
    {e : DeriveError}
    (hFault : SegmentsFault ts e) :
    laterSegments (firstPiece ts) = .error e := by
  induction hFault with
  | missing => rfl
  | @strange joint t ts hNoName =>
      -- Whatever stands there stands in the same piece.
      have hPiece :
          firstPiece
              (.mark ':' true :: .mark ':' joint :: t :: ts) =
            .mark ':' true :: .mark ':' joint ::
              firstPiece (t :: ts) :=
        rfl
      rw [hPiece, firstPiece]
      cases t with
      | name text => exact absurd rfl (hNoName text)
      | mark c joint => rfl
      | literal l => rfl
      | group d content => rfl
  | later hFault ih =>
      simp [firstPiece, isComma, laterSegments, ih,
        Except.map]

/- Behind any tokens there are segments, or something is
   wrong. -/
theorem more_or_fault
    (ts : Tokens) :
    (∃ texts rest, MoreSegments ts texts rest) ∨
      ∃ e, SegmentsFault ts e := by
  induction hLength : ts.length using Nat.strongRecOn
    generalizing ts with
  | ind length ih =>
      cases hMark : Ahead.mark "::" ts with
      | false => exact .inl ⟨[], ts, .none hMark⟩
      | true =>
          rcases mark_colons_iff.mp hMark with
            ⟨joint, us, rfl⟩
          rcases us with _ | ⟨t, us⟩
          · exact .inr ⟨_, .missing⟩
          · cases t with
            | name text =>
                have hShorter : us.length < length := by
                  rw [← hLength]
                  simp only [List.length_cons]
                  omega
                rcases ih us.length hShorter us rfl with
                  ⟨texts, rest, hMore⟩ | ⟨e, hFault⟩
                · exact .inl ⟨_, _, .next hMore⟩
                · exact .inr ⟨e, .later hFault⟩
            | mark c joint =>
                exact .inr ⟨_, .strange (by simp)⟩
            | literal l =>
                exact .inr ⟨_, .strange (by simp)⟩
            | group d content =>
                exact .inr ⟨_, .strange (by simp)⟩

/- The colons at the front are those of the piece. -/
theorem beyondColons_firstPiece
    (ts : Tokens) :
    beyondColons (firstPiece ts) =
      firstPiece (beyondColons ts) := by
  unfold beyondColons
  rw [mark_colons_firstPiece]
  cases hMark : Ahead.mark "::" ts with
  | false => rfl
  | true =>
      rcases mark_colons_iff.mp hMark with ⟨joint, us, rfl⟩
      rfl

/- A path whose first segment is there goes on with its later
   ones. -/
theorem entryPath_of_name
    {ts us : Tokens}
    {text : String}
    (hName : beyondColons ts = .name text :: us) :
    entryPath ts =
      (laterSegments us).map (fun (texts, rest) =>
        ((if Ahead.mark "::" ts then [""] else []) ++
          text :: texts, rest)) := by
  unfold beyondColons at hName
  unfold entryPath
  simp only [hName]

/- A path without its first segment is none. -/
theorem entryPath_of_noName
    {ts : Tokens}
    (hNoName : Ahead.anyName (beyondColons ts) = false) :
    entryPath ts =
      .error
        (if (beyondColons ts).isEmpty then .missingEntry
        else if Ahead.literal (beyondColons ts) then
          .literalForEntry
        else .strangeEntry) := by
  unfold beyondColons at hNoName ⊢
  unfold entryPath
  dsimp only
  split
  case h_1 hName =>
    rw [hName] at hNoName
    cases hNoName
  case h_2 hNothing =>
    rw [hNothing]
    rfl
  case h_3 _ hSome =>
    rw [List.isEmpty_eq_false_iff.mpr hSome,
      if_neg Bool.false_ne_true, apply_ite Except.error]

/- Whether a name comes first shows in the first piece. -/
theorem anyName_firstPiece
    (ts : Tokens) :
    Ahead.anyName (firstPiece ts) = Ahead.anyName ts := by
  cases ts with
  | nil => rfl
  | cons t ts =>
      cases t with
      | name text => rfl
      | mark c joint => rfl
      | literal l => rfl
      | group d content => rfl

/- A path is read within its piece. -/
theorem entryPath_of_stands
    {ts rest : Tokens}
    {path : List String}
    (hPath : PathStands ts path rest) :
    entryPath (firstPiece ts) =
        .ok (path, firstPiece rest) ∧
      laterPieces rest = laterPieces ts := by
  cases hPath with
  | @plain text texts us rest hMore =>
      rcases laterSegments_of_more hMore with ⟨hRead, hLater⟩
      have hName :
          beyondColons (firstPiece (.name text :: us)) =
            .name text :: firstPiece us :=
        rfl
      refine ⟨?_, hLater⟩
      rw [entryPath_of_name hName, hRead]
      rfl
  | @rooted joint text texts us rest hMore =>
      rcases laterSegments_of_more hMore with ⟨hRead, hLater⟩
      have hName :
          beyondColons
              (firstPiece
                (.mark ':' true :: .mark ':' joint ::
                  .name text :: us)) =
            .name text :: firstPiece us :=
        rfl
      refine ⟨?_, hLater⟩
      rw [entryPath_of_name hName, hRead]
      rfl

/- Segments leave no more than there was. -/
theorem length_le_of_more
    {ts rest : Tokens}
    {texts : List String}
    (hMore : MoreSegments ts texts rest) :
    rest.length ≤ ts.length := by
  induction hMore with
  | none hEnd => exact Nat.le_refl _
  | next hMore ih =>
      simp only [List.length_cons]
      omega

/- A path takes at least the name in it. -/
theorem length_lt_of_path
    {ts rest : Tokens}
    {path : List String}
    (hPath : PathStands ts path rest) :
    rest.length < ts.length := by
  cases hPath with
  | plain hMore =>
      have hLength := length_le_of_more hMore
      simp only [List.length_cons]
      omega
  | rooted hMore =>
      have hLength := length_le_of_more hMore
      simp only [List.length_cons]
      omega

/- What is wrong with it shows in its piece. -/
theorem entryPath_of_fault
    {ts : Tokens}
    {e : DeriveError}
    (hFault : PathFault ts e) :
    entryPath (firstPiece ts) = .error e := by
  have hBeyond := beyondColons_firstPiece ts
  have hRead
      (hNoName : Ahead.anyName (beyondColons ts) = false) :=
    entryPath_of_noName
      (hBeyond ▸ (anyName_firstPiece _).trans hNoName)
  have hEmpty :
      (firstPiece (beyondColons ts)).isEmpty =
        (beyondColons ts).isEmpty := by
    cases beyondColons ts with
    | nil => rfl
    | cons t us => rfl
  simp only [hBeyond, hEmpty, literal_firstPiece] at hRead
  cases hFault with
  | missing hNothing =>
      rw [hRead (by rw [hNothing]; rfl), hNothing]
      rfl
  | literal hNoName hLiteral =>
      have hSomething : (beyondColons ts).isEmpty = false := by
        cases hTokens : beyondColons ts with
        | nil => rw [hTokens] at hLiteral; cases hLiteral
        | cons t us => rfl
      rw [hRead hNoName, hSomething, hLiteral]
      rfl
  | strange hSomething hNoName hNoLiteral =>
      rw [hRead hNoName,
        List.isEmpty_eq_false_iff.mpr hSomething, hNoLiteral]
      rfl
  | @segments text us e hName hFault =>
      have hPiece :
          beyondColons (firstPiece ts) =
            .name text :: firstPiece us := by
        rw [hBeyond, hName]
        rfl
      rw [entryPath_of_name hPiece,
        laterSegments_of_fault hFault]
      rfl

/- A name that comes first is a name. -/
theorem exists_name_of_anyName
    {ts : Tokens}
    (hName : Ahead.anyName ts = true) :
    ∃ text rest, ts = .name text :: rest := by
  unfold Ahead.anyName at hName
  split at hName
  case h_1 text rest => exact ⟨text, rest, rfl⟩
  case h_2 => cases hName

/- Any tokens begin with a path, or something is wrong. -/
theorem path_or_fault
    (ts : Tokens) :
    (∃ path rest, PathStands ts path rest) ∨
      ∃ e, PathFault ts e := by
  cases hNoName : Ahead.anyName (beyondColons ts) with
  | false =>
      refine .inr ?_
      by_cases hNothing : beyondColons ts = []
      · exact ⟨_, .missing hNothing⟩
      · cases hLiteral : Ahead.literal (beyondColons ts) with
        | true => exact ⟨_, .literal hNoName hLiteral⟩
        | false =>
            exact ⟨_, .strange hNothing hNoName hLiteral⟩
  | true =>
      rcases exists_name_of_anyName hNoName with
        ⟨text, us, hName⟩
      rcases more_or_fault us with
        ⟨texts, rest, hMore⟩ | ⟨e, hFault⟩
      · refine .inl ?_
        cases hMark : Ahead.mark "::" ts with
        | false =>
            simp only [beyondColons, hMark, Bool.false_eq_true,
              if_false] at hName
            rw [hName]
            exact ⟨_, _, .plain hMore⟩
        | true =>
            rcases mark_colons_iff.mp hMark with
              ⟨joint, vs, rfl⟩
            rw [show vs = .name text :: us from hName]
            exact ⟨_, _, .rooted hMore⟩
      · exact .inr ⟨e, .segments hName hFault⟩

end Item

end TreePath
