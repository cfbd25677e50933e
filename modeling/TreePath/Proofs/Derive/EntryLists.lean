import TreePath.Proofs.Derive.EntryPaths

/-
  What stands in the attributes that steer a derivation: lists
  of entries with commas between them, up to the first thing
  that is wrong.  Every attribute is of this form, and what it
  says is what is read from it.

  Key definitions include:
    * `ItemEntry.Names`
    * `FieldEntry.Names`
    * `Item.Stands`
    * `Item.ListHolds`
    * `Item.AttributesHold`
    * `Item.Yields`

  Main statements:
    * `Item.EntryReading.yields_of_attributesHold`
    * `Item.EntryReading.exists_attributesHold`
-/

------------------------------------------------------------
-- Entries
------------------------------------------------------------

namespace TreePath

open Item

/- An entry of an item is a word by itself. -/
inductive ItemEntry.Names :
    ItemEntry → List String → Tokens → Tokens → Prop
| keyed
    {rest : Tokens} :
    Names .keyed ["keyed"] rest rest

/- There is no other entry of an item. -/
inductive ItemEntry.Refuses :
    List String → Tokens → DeriveError → Prop
| unknown
    {path : List String}
    {rest : Tokens}
    (hOther : path ≠ ["keyed"]) :
    Refuses path rest .unknownItemEntry

/-
  An entry of a field is a word by itself, or one with a text
  behind an equals sign.  The text must not be empty.
-/
inductive FieldEntry.Names :
    FieldEntry → List String → Tokens → Tokens → Prop
| skip
    {rest : Tokens} :
    Names .skip ["skip"] rest rest
| rename
    {joint : Bool}
    {l : Literal}
    {name : String}
    {rest : Tokens}
    (hText : l.value = some name)
    (hName : name ≠ "") :
    Names (.rename name) ["rename"]
      (.mark '=' joint :: .literal l :: rest) rest

/- There is no other entry of a field, and none without its
   text. -/
inductive FieldEntry.Refuses :
    List String → Tokens → DeriveError → Prop
| unknown
    {path : List String}
    {rest : Tokens}
    (hSkip : path ≠ ["skip"])
    (hRename : path ≠ ["rename"]) :
    Refuses path rest .unknownFieldEntry
| missingEquals
    {rest : Tokens}
    (hNone : Ahead.mark "=" rest = false) :
    Refuses ["rename"] rest .missingEquals
| missingText
    {joint : Bool} :
    Refuses ["rename"] [.mark '=' joint] .missingText
| strangeText
    {joint : Bool}
    {t : TokenTree}
    {rest : Tokens}
    (hStrange : ∀ l, t = .literal l → l.value = none) :
    Refuses ["rename"] (.mark '=' joint :: t :: rest)
      .strangeText
| emptyName
    {joint : Bool}
    {l : Literal}
    {rest : Tokens}
    (hEmpty : l.value = some "") :
    Refuses ["rename"]
      (.mark '=' joint :: .literal l :: rest) .emptyName

namespace Item

/-
  How entries are read behind their paths, in one piece, and
  how they stand there.  What is read stands there, and any
  path has an entry or is refused.
-/
structure EntryReading
    {α : Type}
    (read : List String → Tokens →
      Except DeriveError (α × Tokens))
    (names : α → List String → Tokens → Tokens → Prop)
    (refuses : List String → Tokens → DeriveError → Prop) :
    Prop where
  named :
    ∀ a path mid rest,
      names a path mid rest →
        read path (firstPiece mid) =
            .ok (a, firstPiece rest) ∧
          laterPieces rest = laterPieces mid
  shorter :
    ∀ a path mid rest,
      names a path mid rest → rest.length ≤ mid.length
  refused :
    ∀ path mid e,
      refuses path mid e →
        read path (firstPiece mid) = .error e
  total :
    ∀ path mid,
      (∃ a rest, names a path mid rest) ∨
        ∃ e, refuses path mid e

end Item

/- Entries of items are read as they stand. -/
theorem ItemEntry.reading :
    EntryReading ItemEntry.read ItemEntry.Names
      ItemEntry.Refuses where
  named := by
    rintro _ _ _ rest ⟨⟩
    exact ⟨rfl, rfl⟩
  shorter := by
    rintro _ _ _ rest ⟨⟩
    exact Nat.le_refl _
  refused := by
    rintro path mid _ ⟨hOther⟩
    simp [ItemEntry.read, hOther]
  total := by
    intro path mid
    by_cases hPath : path = ["keyed"]
    · subst hPath
      exact .inl ⟨.keyed, mid, .keyed⟩
    · exact .inr ⟨_, .unknown hPath⟩

namespace FieldEntry

/- A name is read behind its equals sign. -/
theorem read_rename
    (joint : Bool)
    (ts : Tokens) :
    read ["rename"] (.mark '=' joint :: ts) =
      (readName ts).map (fun (name, rest) =>
        (.rename name, rest)) :=
  rfl

/- Without the sign there is no name. -/
theorem read_rename_of_noEquals
    {ts : Tokens}
    (hNone : Ahead.mark "=" ts = false) :
    read ["rename"] ts = .error .missingEquals := by
  simp [read, hNone]

/- An equals sign is in one piece. -/
theorem mark_equals_firstPiece
    (ts : Tokens) :
    Ahead.mark "=" (firstPiece ts) = Ahead.mark "=" ts := by
  cases ts with
  | nil => rfl
  | cons t ts =>
      cases t with
      | mark c joint => rfl
      | name text => rfl
      | literal l => rfl
      | group d content => rfl

/- Behind an equals sign there is a name, or it is refused. -/
theorem rename_or_refused
    (joint : Bool)
    (t : TokenTree)
    (ts : Tokens) :
    (∃ name, Names (.rename name) ["rename"]
        (.mark '=' joint :: t :: ts) ts) ∨
      ∃ e, Refuses ["rename"] (.mark '=' joint :: t :: ts) e := by
  cases t with
  | literal l =>
      cases hText : l.value with
      | none =>
          refine .inr ⟨_, .strangeText ?_⟩
          intro other hOther
          rcases TokenTree.literal.inj hOther with rfl
          exact hText
      | some name =>
          by_cases hName : name = ""
          · subst hName
            exact .inr ⟨_, .emptyName hText⟩
          · exact .inl ⟨name, .rename hText hName⟩
  | name text => exact .inr ⟨_, .strangeText (by simp)⟩
  | mark c joint => exact .inr ⟨_, .strangeText (by simp)⟩
  | group d content =>
      exact .inr ⟨_, .strangeText (by simp)⟩

/- Entries of fields are read as they stand. -/
theorem reading :
    EntryReading read Names Refuses where
  named := by
    intro a path mid rest hNames
    cases hNames with
    | skip => exact ⟨rfl, rfl⟩
    | @rename joint l name rest hText hName =>
        refine ⟨?_, rfl⟩
        have hRead :
            readName (.literal l :: firstPiece rest) =
              .ok (name, firstPiece rest) := by
          simp [readName, hText, hName]
        exact (read_rename joint _).trans
          (congrArg (Except.map _) hRead)
  shorter := by
    intro a path mid rest hNames
    cases hNames with
    | skip => exact Nat.le_refl _
    | rename hText hName =>
        simp only [List.length_cons]
        omega
  refused := by
    intro path mid e hRefused
    cases hRefused with
    | unknown hSkip hRename => simp [read, hSkip, hRename]
    | missingEquals hNone =>
        apply read_rename_of_noEquals
        rw [mark_equals_firstPiece, hNone]
    | missingText => rfl
    | @strangeText joint t rest hStrange =>
        have hRead (us : Tokens) :
            readName (t :: us) = .error .strangeText := by
          cases t with
          | literal l => simp [readName, hStrange l rfl]
          | name text => rfl
          | mark c joint => rfl
          | group d content => rfl
        exact (read_rename joint _).trans
          (congrArg (Except.map _) (hRead _))
    | @emptyName joint l rest hEmpty =>
        have hRead (us : Tokens) :
            readName (.literal l :: us) = .error .emptyName := by
          simp [readName, hEmpty]
        exact (read_rename joint _).trans
          (congrArg (Except.map _) (hRead _))
  total := by
    intro path mid
    by_cases hSkip : path = ["skip"]
    · subst hSkip
      exact .inl ⟨.skip, mid, .skip⟩
    by_cases hRename : path = ["rename"]
    · subst hRename
      cases hMark : Ahead.mark "=" mid with
      | false => exact .inr ⟨_, .missingEquals hMark⟩
      | true =>
          rcases mark_singleton_iff.mp hMark with
            ⟨joint, us, rfl⟩
          rcases us with _ | ⟨t, us⟩
          · exact .inr ⟨_, .missingText⟩
          · rcases rename_or_refused joint t us with
              ⟨name, hNames⟩ | hRefused
            · exact .inl ⟨.rename name, us, hNames⟩
            · exact .inr hRefused
    · exact .inr ⟨_, .unknown hSkip hRename⟩

end FieldEntry

------------------------------------------------------------
-- Lists
------------------------------------------------------------

namespace Item

section

variable
  {α : Type}
  {read : List String → Tokens →
    Except DeriveError (α × Tokens)}
  {names : α → List String → Tokens → Tokens → Prop}
  {refuses : List String → Tokens → DeriveError → Prop}

/- An entry stands at the front of tokens, before a rest. -/
def Stands
    (names : α → List String → Tokens → Tokens → Prop)
    (a : α)
    (ts rest : Tokens) : Prop :=
  ∃ path mid, PathStands ts path mid ∧ names a path mid rest

/- No entry stands at the front of tokens. -/
inductive Faulty
    (refuses : List String → Tokens → DeriveError → Prop)
    (ts : Tokens) : DeriveError → Prop
| path
    {e : DeriveError}
    (hFault : PathFault ts e) :
    Faulty refuses ts e
| entry
    {path : List String}
    {mid : Tokens}
    {e : DeriveError}
    (hPath : PathStands ts path mid)
    (hRefused : refuses path mid e) :
    Faulty refuses ts e

/-
  A list holds entries with commas between them, and perhaps
  one behind the last, up to the first thing that is wrong.
  An entry with no comma behind it is one of them.
-/
inductive ListHolds
    (names : α → List String → Tokens → Tokens → Prop)
    (refuses : List String → Tokens → DeriveError → Prop) :
    Tokens → List α → Option DeriveError → Prop
| nil :
    ListHolds names refuses [] [] none
| last
    {a : α}
    {ts : Tokens}
    (hEntry : Stands names a ts []) :
    ListHolds names refuses ts [a] none
| next
    {a : α}
    {as : List α}
    {ts rest : Tokens}
    {joint : Bool}
    {fault : Option DeriveError}
    (hEntry : Stands names a ts (.mark ',' joint :: rest))
    (hRest : ListHolds names refuses rest as fault) :
    ListHolds names refuses ts (a :: as) fault
| noComma
    {a : α}
    {t : TokenTree}
    {ts rest : Tokens}
    (hEntry : Stands names a ts (t :: rest))
    (hOther : ∀ joint, t ≠ .mark ',' joint) :
    ListHolds names refuses ts [a] (some .missingComma)
| faulty
    {ts : Tokens}
    {e : DeriveError}
    (hSomething : ts ≠ [])
    (hFault : Faulty refuses ts e) :
    ListHolds names refuses ts [] (some e)

/- The entries that were read, and then perhaps the first thing
   that is wrong; what is read behind it does not matter. -/
def Yields
    (read : List (Except DeriveError α))
    (as : List α) : Option DeriveError → Prop
| none => read = as.map .ok
| some e => ∃ more, read = as.map .ok ++ .error e :: more

/- What is yielded in front goes before all else. -/
theorem Yields.append
    {l : List (Except DeriveError α)}
    {as : List α}
    {fault : Option DeriveError}
    (hYields : Yields l as fault)
    (front : List α) :
    Yields (front.map .ok ++ l) (front ++ as) fault := by
  cases fault with
  | none =>
      rw [Yields] at hYields ⊢
      rw [hYields, List.map_append]
  | some e =>
      rcases hYields with ⟨more, hMore⟩
      refine ⟨more, ?_⟩
      rw [hMore, List.map_append, List.append_assoc]

namespace EntryReading

variable (hReading : EntryReading read names refuses)

include hReading

/- An entry is read from its piece. -/
theorem entriesOfPiece_of_stands
    {a : α}
    {ts rest : Tokens}
    (hEntry : Stands names a ts rest) :
    entriesOfPiece read (firstPiece ts) =
        .ok a :: behindEntry (firstPiece rest) ∧
      laterPieces rest = laterPieces ts := by
  rcases hEntry with ⟨path, mid, hPath, hNames⟩
  rcases entryPath_of_stands hPath with ⟨hPathRead, hFirst⟩
  rcases hReading.named a path mid rest hNames with
    ⟨hRead, hLast⟩
  refine ⟨?_, hLast.trans hFirst⟩
  simp [entriesOfPiece, hPathRead, hRead]

/- So is what is wrong. -/
theorem entriesOfPiece_of_faulty
    {ts : Tokens}
    {e : DeriveError}
    (hFault : Faulty refuses ts e) :
    entriesOfPiece read (firstPiece ts) = [.error e] := by
  cases hFault with
  | path hFault =>
      simp [entriesOfPiece, entryPath_of_fault hFault]
  | entry hPath hRefused =>
      simp [entriesOfPiece, (entryPath_of_stands hPath).1,
        hReading.refused _ _ _ hRefused]

/- An entry takes at least one token. -/
theorem length_lt_of_stands
    {a : α}
    {ts rest : Tokens}
    (hEntry : Stands names a ts rest) :
    rest.length < ts.length := by
  rcases hEntry with ⟨path, mid, hPath, hNames⟩
  exact Nat.lt_of_le_of_lt
    (hReading.shorter a path mid rest hNames)
    (length_lt_of_path hPath)

/- An entry is read first, and then what is behind it. -/
theorem flatMap_piecesOf
    {a : α}
    {ts rest : Tokens}
    (hEntry : Stands names a ts rest) :
    (piecesOf ts).flatMap (entriesOfPiece read) =
      .ok a :: (behindEntry (firstPiece rest) ++
        (piecesOf (laterPieces rest)).flatMap
          (entriesOfPiece read)) := by
  rcases hReading.entriesOfPiece_of_stands hEntry with
    ⟨hRead, hLater⟩
  cases ts with
  | nil =>
      exact absurd (hReading.length_lt_of_stands hEntry)
        (Nat.not_lt_zero _)
  | cons t ts =>
      rw [piecesOf_cons, List.flatMap_cons, hRead, hLater,
        List.cons_append]

/- What a list holds is read from it. -/
theorem yields_of_listHolds
    {ts : Tokens}
    {as : List α}
    {fault : Option DeriveError}
    (hHolds : ListHolds names refuses ts as fault) :
    Yields ((piecesOf ts).flatMap (entriesOfPiece read)) as
      fault := by
  induction hHolds with
  | nil => rfl
  | last hEntry =>
      rw [hReading.flatMap_piecesOf hEntry]
      rfl
  | @next a as ts rest joint fault hEntry hRest ih =>
      rw [hReading.flatMap_piecesOf hEntry]
      exact ih.append [a]
  | @noComma a t ts rest hEntry hOther =>
      rw [hReading.flatMap_piecesOf hEntry]
      have hNone :
          Ahead.mark "," (firstPiece (t :: rest)) = false := by
        rw [Bool.eq_false_iff]
        intro hMark
        rcases mark_singleton_iff.mp hMark with
          ⟨joint, us, hPiece⟩
        exact hOther joint (List.cons.inj hPiece).1
      have hBehind :
          behindEntry (firstPiece (t :: rest)) =
            [(.error .missingComma : Except DeriveError α)] := by
        unfold behindEntry
        rw [hNone]
        rfl
      rw [hBehind]
      exact ⟨_, rfl⟩
  | @faulty ts e hSomething hFault =>
      rcases List.exists_cons_of_ne_nil hSomething with
        ⟨t, us, rfl⟩
      rw [piecesOf_cons, List.flatMap_cons,
        hReading.entriesOfPiece_of_faulty hFault]
      exact ⟨_, rfl⟩

/- Tokens begin with an entry, or there is none at their
   front. -/
theorem stands_or_faulty
    (ts : Tokens) :
    (∃ a rest, Stands names a ts rest) ∨
      ∃ e, Faulty refuses ts e := by
  rcases path_or_fault ts with
    ⟨path, mid, hPath⟩ | ⟨e, hFault⟩
  · rcases hReading.total path mid with
      ⟨a, rest, hNames⟩ | ⟨e, hRefused⟩
    · exact .inl ⟨a, rest, path, mid, hPath, hNames⟩
    · exact .inr ⟨e, .entry hPath hRefused⟩
  · exact .inr ⟨e, .path hFault⟩

/- Every list holds something, up to its end or to a fault. -/
theorem exists_listHolds
    (ts : Tokens) :
    ∃ as fault, ListHolds names refuses ts as fault := by
  induction hLength : ts.length using Nat.strongRecOn
    generalizing ts with
  | ind length ih =>
      by_cases hNothing : ts = []
      · subst hNothing
        exact ⟨[], none, .nil⟩
      rcases hReading.stands_or_faulty ts with
        ⟨a, rest, hEntry⟩ | ⟨e, hFault⟩
      · rcases rest with _ | ⟨t, rest⟩
        · exact ⟨[a], none, .last hEntry⟩
        by_cases hComma : ∃ joint, t = .mark ',' joint
        · rcases hComma with ⟨joint, rfl⟩
          have hShorter := hReading.length_lt_of_stands hEntry
          rw [hLength, List.length_cons] at hShorter
          rcases ih rest.length (Nat.lt_of_succ_lt hShorter)
              rest rfl with ⟨as, fault, hRest⟩
          exact ⟨a :: as, fault, .next hEntry hRest⟩
        · exact
            ⟨[a], some .missingComma,
              .noComma hEntry (not_exists.mp hComma)⟩
      · exact ⟨[], some e, .faulty hNothing hFault⟩

end EntryReading

------------------------------------------------------------
-- Attributes
------------------------------------------------------------

/-
  Attributes hold the entries of those named `node`, one
  after the other, up to the first thing that is wrong.  Such
  an attribute must have a list; others are left alone.
-/
inductive AttributesHold
    (names : α → List String → Tokens → Tokens → Prop)
    (refuses : List String → Tokens → DeriveError → Prop) :
    List Attribute → List α → Option DeriveError → Prop
| nil :
    AttributesHold names refuses [] [] none
| other
    {a : Attribute}
    {attributes : List Attribute}
    {as : List α}
    {fault : Option DeriveError}
    (hPath : a.path ≠ ["node"])
    (hRest : AttributesHold names refuses attributes as fault) :
    AttributesHold names refuses (a :: attributes) as fault
| list
    {content : Tokens}
    {attributes : List Attribute}
    {as bs : List α}
    {fault : Option DeriveError}
    (hList : ListHolds names refuses content as none)
    (hRest : AttributesHold names refuses attributes bs fault) :
    AttributesHold names refuses
      (⟨["node"], .list content⟩ :: attributes) (as ++ bs)
      fault
| faulty
    {content : Tokens}
    {attributes : List Attribute}
    {as : List α}
    {e : DeriveError}
    (hList : ListHolds names refuses content as (some e)) :
    AttributesHold names refuses
      (⟨["node"], .list content⟩ :: attributes) as (some e)
| noList
    {attributes : List Attribute} :
    AttributesHold names refuses
      (⟨["node"], .none⟩ :: attributes) [] (some .noList)
| value
    {content : Tokens}
    {attributes : List Attribute} :
    AttributesHold names refuses
      (⟨["node"], .value content⟩ :: attributes) []
      (some .valueForList)

/- What a list holds is named in it. -/
theorem ListHolds.exists_names
    {ts : Tokens}
    {as : List α}
    {fault : Option DeriveError}
    (hHolds : ListHolds names refuses ts as fault) :
    ∀ a ∈ as, ∃ path mid rest, names a path mid rest := by
  induction hHolds with
  | nil => simp
  | faulty hSomething hFault => simp
  | last hEntry =>
      rcases hEntry with ⟨path, mid, _, hNames⟩
      intro a hMember
      rcases List.mem_singleton.mp hMember with rfl
      exact ⟨path, mid, [], hNames⟩
  | noComma hEntry hOther =>
      rcases hEntry with ⟨path, mid, _, hNames⟩
      intro a hMember
      rcases List.mem_singleton.mp hMember with rfl
      exact ⟨path, mid, _, hNames⟩
  | next hEntry hRest ih =>
      rcases hEntry with ⟨path, mid, _, hNames⟩
      intro a hMember
      rcases List.mem_cons.mp hMember with rfl | hLater
      · exact ⟨path, mid, _, hNames⟩
      · exact ih a hLater

/- So is what attributes hold. -/
theorem AttributesHold.exists_names
    {attributes : List Attribute}
    {as : List α}
    {fault : Option DeriveError}
    (hHolds :
      AttributesHold names refuses attributes as fault) :
    ∀ a ∈ as, ∃ path mid rest, names a path mid rest := by
  induction hHolds with
  | nil => simp
  | noList => simp
  | value => simp
  | other hPath hRest ih => exact ih
  | faulty hList => exact hList.exists_names
  | list hList hRest ih =>
      intro a hMember
      rcases List.mem_append.mp hMember with hFirst | hLater
      · exact hList.exists_names a hFirst
      · exact ih a hLater

namespace EntryReading

variable (hReading : EntryReading read names refuses)

include hReading

/- What attributes hold is read from them. -/
theorem yields_of_attributesHold
    {attributes : List Attribute}
    {as : List α}
    {fault : Option DeriveError}
    (hHolds :
      AttributesHold names refuses attributes as fault) :
    Yields (attributes.flatMap (entriesOf read)) as fault := by
  induction hHolds with
  | nil => rfl
  | @other a attributes as fault hPath hRest ih =>
      rw [List.flatMap_cons, entriesOf, if_neg hPath]
      exact ih
  | @list content attributes as bs fault hList hRest ih =>
      have hRead : entriesOf read ⟨["node"], .list content⟩ =
          as.map .ok :=
        hReading.yields_of_listHolds hList
      rw [List.flatMap_cons, hRead]
      exact ih.append as
  | @faulty content attributes as e hList =>
      rcases hReading.yields_of_listHolds hList with
        ⟨more, hMore⟩
      have hRead : entriesOf read ⟨["node"], .list content⟩ =
          as.map .ok ++ .error e :: more :=
        hMore
      rw [List.flatMap_cons, hRead]
      refine ⟨more ++ attributes.flatMap (entriesOf read), ?_⟩
      rw [List.append_assoc, List.cons_append]
  | noList => exact ⟨_, rfl⟩
  | value => exact ⟨_, rfl⟩

/- All attributes hold something. -/
theorem exists_attributesHold
    (attributes : List Attribute) :
    ∃ as fault,
      AttributesHold names refuses attributes as fault := by
  induction attributes with
  | nil => exact ⟨[], none, .nil⟩
  | cons a attributes ih =>
      rcases ih with ⟨bs, fault, hRest⟩
      rcases a with ⟨path, arguments⟩
      by_cases hPath : path = ["node"]
      · subst hPath
        cases arguments with
        | none => exact ⟨[], _, .noList⟩
        | value content => exact ⟨[], _, .value⟩
        | list content =>
            rcases hReading.exists_listHolds content with
              ⟨as, stop, hList⟩
            cases stop with
            | none => exact ⟨as ++ bs, fault, .list hList hRest⟩
            | some e => exact ⟨as, some e, .faulty hList⟩
      · exact ⟨bs, fault, .other hPath hRest⟩

end EntryReading

end

end Item

end TreePath
