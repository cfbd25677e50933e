import TreePath.Proofs.Crate.Segments

/-
  Which path a crate has by a manifest: that of its own name,
  or that of a module of the facade, by two lists that are
  asked in turn.  A member whose part is no segment is found
  by neither list, and a word that is no segment is found
  nowhere.

  Key definitions include:
    * `Manifest.IsMember`
    * `Manifest.Gives`
    * `Manifest.Resolves`

  Main statements:
    * `Manifest.find?_eq_some_iff`
    * `Manifest.cratePath_precedence`
-/

------------------------------------------------------------
-- One List
------------------------------------------------------------

namespace TreePath

namespace Manifest

open Identifier CratePath

/-
  A member has the name of one of the modules of the facade,
  behind a prefix; the module can be named in a path.
-/
def IsMember
    (name part : String) : Prop :=
  name = "vc_" ++ part ∧ isSegment part = true

/-
  The paths that one list of dependencies gives: of a crate
  that is listed by its own name, and otherwise of a member,
  if the facade is listed.
-/
inductive Gives
    (listed : List String)
    (name : String) : CratePath → Prop
| own
    (hListed : name ∈ listed) :
    Gives listed name ⟨[name]⟩
| member
    {part : String}
    (hUnlisted : name ∉ listed)
    (hFacade : facade ∈ listed)
    (hMember : IsMember name part) :
    Gives listed name ⟨[facade, part]⟩

variable {listed : List String} {name part : String}
variable {path : CratePath}

theorem module?_eq_some_iff :
    module? name = some part ↔ name = "vc_" ++ part := by
  unfold module?
  constructor
  · intro hPart
    split at hPart
    case h_1 cs hText =>
      rw [← Option.some.inj hPart, ← String.toList_inj, hText]
      simp
    case h_2 => cases hPart
  · rintro rfl
    simp

theorem pathKeywords_subset :
    pathKeywords ⊆ keywords := by
  decide

/- No reserved word begins with the prefix of members. -/
theorem module?_of_keyword :
    ∀ {word}, word ∈ keywords → module? word = none := by
  have hAll : ∀ word ∈ keywords, module? word = none := by
    decide
  exact fun {word} hReserved => hAll word hReserved

/- What follows the prefix of a segment is a word. -/
theorem isWord_of_isSegment
    (hSegment : isSegment ("vc_" ++ part) = true) :
    isWord part = true := by
  have hReserved : "vc_" ++ part ∉ pathKeywords := by
    intro hMember
    have hNone :=
      module?_of_keyword (pathKeywords_subset hMember)
    rw [module?_eq_some_iff.mpr rfl] at hNone
    cases hNone
  simp [isSegment, isName, isRawName, isIdentifier,
    hReserved] at hSegment
  simpa [isWord] using hSegment.1.2.2.2

/-
  A list gives a segment its path and nothing else; a member
  whose part is no segment is not found by the facade.
-/
theorem find?_eq_some_iff
    (hName : isSegment name = true) :
    find? listed name = some path ↔ Gives listed name path := by
  constructor
  · intro hFound
    unfold find? at hFound
    split at hFound
    case isTrue hListed =>
      rw [ofText?_segment hName] at hFound
      rw [← Option.some.inj hFound]
      exact .own (by simpa using hListed)
    case isFalse hUnlisted =>
      split at hFound
      case h_1 => cases hFound
      case h_2 part hPart =>
        rw [module?_eq_some_iff] at hPart
        subst hPart
        split at hFound
        case isTrue hFacade =>
          cases hSegment : isSegment part with
          | false =>
              rw [inside?_word (isWord_of_isSegment hName)
                hSegment] at hFound
              cases hFound
          | true =>
              rw [inside?_segment hSegment] at hFound
              rcases Option.some.inj hFound with rfl
              exact
                .member (by simpa using hUnlisted)
                  (by simpa using hFacade) ⟨rfl, hSegment⟩
        case isFalse => cases hFound
  · rintro (hListed | ⟨hUnlisted, hFacade, rfl, hSegment⟩)
    · simp [find?, hListed, ofText?_segment hName]
    · simp [find?, hUnlisted, hFacade,
        module?_eq_some_iff.mpr, inside?_segment hSegment]

/- A list gives at most one path. -/
theorem Gives.unique
    {other : CratePath}
    (hName : isSegment name = true)
    (hGives : Gives listed name path)
    (hOther : Gives listed name other) :
    path = other := by
  rw [← find?_eq_some_iff hName] at hGives hOther
  rw [hGives] at hOther
  exact Option.some.inj hOther

/- What a list gives is settled by two of its names. -/
theorem Gives.of_same
    {others : List String}
    (hSame : name ∈ listed ↔ name ∈ others)
    (hFacade : facade ∈ listed ↔ facade ∈ others)
    (hGives : Gives listed name path) :
    Gives others name path := by
  cases hGives with
  | own hListed => exact .own (hSame.mp hListed)
  | member hUnlisted hListed hMember =>
      exact
        .member (fun hOther => hUnlisted (hSame.mpr hOther))
          (hFacade.mp hListed) hMember

------------------------------------------------------------
-- Both Lists
------------------------------------------------------------

/-
  The path of a crate: the one that the dependencies give, or
  else those of development, or else that of its own name.
-/
inductive Resolves
    (m : Manifest)
    (name : String) : CratePath → Prop
| dependency
    {path : CratePath}
    (hGives : Gives m.dependencies name path) :
    Resolves m name path
| development
    {path : CratePath}
    (hNone : ∀ other, ¬Gives m.dependencies name other)
    (hGives : Gives m.devDependencies name path) :
    Resolves m name path
| bare
    (hNone : ∀ other, ¬Gives m.dependencies name other)
    (hDev : ∀ other, ¬Gives m.devDependencies name other) :
    Resolves m name ⟨[name]⟩

variable {m : Manifest}

/- A list that finds nothing gives nothing. -/
theorem find?_eq_none_iff
    (hName : isSegment name = true) :
    find? listed name = none ↔
      ∀ other, ¬Gives listed name other := by
  rw [Option.eq_none_iff_forall_not_mem]
  simp only [Option.mem_def, find?_eq_some_iff hName]

/- A segment has a path by every manifest. -/
theorem exists_resolves
    (m : Manifest)
    (hName : isSegment name = true) :
    ∃ path,
      m.cratePath name = .ok path ∧ Resolves m name path := by
  unfold cratePath
  cases hFound : find? m.dependencies name with
  | some path =>
      rw [find?_eq_some_iff hName] at hFound
      exact ⟨path, rfl, .dependency hFound⟩
  | none =>
      rw [find?_eq_none_iff hName] at hFound
      cases hDev : find? m.devDependencies name with
      | some path =>
          rw [find?_eq_some_iff hName] at hDev
          exact ⟨path, rfl, .development hFound hDev⟩
      | none =>
          rw [find?_eq_none_iff hName] at hDev
          simp only [ofText?_segment hName]
          exact ⟨_, rfl, .bare hFound hDev⟩

/- There is only one such path. -/
theorem Resolves.unique
    {other : CratePath}
    (hName : isSegment name = true)
    (hPath : Resolves m name path)
    (hOther : Resolves m name other) :
    path = other := by
  cases hPath with
  | dependency hGives =>
      cases hOther with
      | dependency hGives' => exact hGives.unique hName hGives'
      | development hNone _ => exact absurd hGives (hNone _)
      | bare hNone _ => exact absurd hGives (hNone _)
  | development hNone hGives =>
      cases hOther with
      | dependency hGives' => exact absurd hGives' (hNone _)
      | development _ hGives' =>
          exact hGives.unique hName hGives'
      | bare _ hDev => exact absurd hGives (hDev _)
  | bare hNone hDev =>
      cases hOther with
      | dependency hGives => exact absurd hGives (hNone _)
      | development _ hGives => exact absurd hGives (hDev _)
      | bare _ _ => rfl

theorem cratePath_eq_ok_iff
    (hName : isSegment name = true) :
    m.cratePath name = .ok path ↔ Resolves m name path := by
  rcases exists_resolves m hName with
    ⟨found, hFound, hResolves⟩
  rw [hFound]
  constructor
  · intro hSame
    rwa [← Except.ok.inj hSame]
  · intro hPath
    rw [hResolves.unique hName hPath]

/- A crate that is no member goes by its own name. -/
theorem Resolves.of_not_member
    (hMember :
      ∀ part, IsMember name part → facade = name)
    (hPath : Resolves m name path) :
    path = ⟨[name]⟩ := by
  have hOwn :
      ∀ listed, Gives listed name path → path = ⟨[name]⟩ := by
    intro listed hGives
    cases hGives with
    | own _ => rfl
    | member hUnlisted hFacade hPart =>
        rw [hMember _ hPart] at hFacade
        exact absurd hFacade hUnlisted
  cases hPath with
  | dependency hGives => exact hOwn _ hGives
  | development _ hGives => exact hOwn _ hGives
  | bare _ _ => rfl

/- A text that makes no path by any rule is an error. -/
theorem cratePath_eq_error
    (hText : ofText? name = none)
    (hPrefix : ∀ part, name ≠ "vc_" ++ part) :
    m.cratePath name = .error ⟨name⟩ := by
  have hModule : module? name = none := by
    apply Option.eq_none_iff_forall_not_mem.mpr
    intro part hPart
    exact hPrefix part (module?_eq_some_iff.mp hPart)
  have hNone : ∀ listed, find? listed name = none := by
    intro listed
    unfold find?
    split
    case isTrue => exact hText
    case isFalse => rw [hModule]
  simp only [cratePath, hNone, hText]

/- A word that begins with the prefix of members is a
   segment. -/
theorem isSegment_of_isWord
    (hWord : isWord ("vc_" ++ part) = true) :
    isSegment ("vc_" ++ part) = true := by
  have hReserved : "vc_" ++ part ∉ keywords := by
    intro hMember
    have hNone := module?_of_keyword hMember
    rw [module?_eq_some_iff.mpr rfl] at hNone
    cases hNone
  have hStart : isStart 'v' = true := by decide
  simp [isWord] at hWord
  simp [isSegment, isName, isIdentifier, hReserved, hStart]
  left
  left
  exact hWord.2

/- Lists with the same of two names give the same paths. -/
theorem gives_iff_of_same
    {others : List String}
    (hSame : name ∈ listed ↔ name ∈ others)
    (hFacade : facade ∈ listed ↔ facade ∈ others) :
    Gives listed name path ↔ Gives others name path :=
  ⟨Gives.of_same hSame hFacade,
    Gives.of_same hSame.symm hFacade.symm⟩

------------------------------------------------------------
-- Precedence
------------------------------------------------------------

/-
  How a manifest names crates.  A segment always has a path,
  and the lists have it in turn.  All that counts is whether
  they hold the crate and the facade.
-/
structure FollowsPrecedence
    (m : Manifest) : Prop where
  total :
    ∀ name, isSegment name = true →
      ∃ path, m.cratePath name = .ok path
  resolves :
    ∀ name path, isSegment name = true →
      (m.cratePath name = .ok path ↔ Resolves m name path)
  -- A part that is no segment falls through.
  not_member :
    ∀ name, isSegment name = true →
      (∀ part, ¬IsMember name part) →
        m.cratePath name = .ok ⟨[name]⟩
  facade_own : m.cratePath facade = .ok ⟨[facade]⟩
  -- The second list plays no part once the first gives a path.
  settled :
    ∀ name path, isSegment name = true →
      Gives m.dependencies name path →
        ∀ later,
          (Manifest.mk m.dependencies later).cratePath name =
            .ok path
  membership :
    ∀ name (other : Manifest), isSegment name = true →
      (∀ crate ∈ [name, facade],
        (crate ∈ m.dependencies ↔
            crate ∈ other.dependencies) ∧
          (crate ∈ m.devDependencies ↔
            crate ∈ other.devDependencies)) →
        other.cratePath name = m.cratePath name
  -- Texts that are no segments.
  word :
    ∀ name, isWord name = true → isSegment name = false →
      m.cratePath name = .error ⟨name⟩
  text :
    ∀ name, CratePath.ofText? name = none →
      (∀ part, name ≠ "vc_" ++ part) →
        m.cratePath name = .error ⟨name⟩
  -- How the paths are written.
  render_own :
    ∀ name, (CratePath.mk [name]).render = "::" ++ name
  render_module :
    ∀ part,
      (CratePath.mk [facade, part]).render =
        "::vc_notation::" ++ part

/- Every manifest does. -/
theorem cratePath_precedence
    (m : Manifest) :
    m.FollowsPrecedence where
  total := by
    intro name hName
    rcases exists_resolves m hName with ⟨path, hPath, _⟩
    exact ⟨path, hPath⟩
  resolves := by
    intro name path hName
    exact cratePath_eq_ok_iff hName
  not_member := by
    intro name hName hMember
    rcases exists_resolves m hName with
      ⟨path, hPath, hResolves⟩
    have hOwn :=
      hResolves.of_not_member
        (fun part hPart => absurd hPart (hMember part))
    rw [hPath, hOwn]
  facade_own := by
    have hName : isSegment facade = true := by decide
    rcases exists_resolves m hName with
      ⟨path, hPath, hResolves⟩
    have hOwn := hResolves.of_not_member (fun part _ => rfl)
    rw [hPath, hOwn]
  settled := by
    intro name path hName hGives later
    exact (cratePath_eq_ok_iff hName).mpr (.dependency hGives)
  membership := by
    intro name other hName hSame
    simp only [List.forall_mem_cons] at hSame
    rcases hSame with ⟨⟨hOwn, hOwnDev⟩, ⟨hFacade, hDev⟩, _⟩
    rcases exists_resolves m hName with
      ⟨path, hPath, hResolves⟩
    rw [hPath, cratePath_eq_ok_iff hName]
    cases hResolves with
    | dependency hGives =>
        exact .dependency (hGives.of_same hOwn hFacade)
    | development hNone hGives =>
        simp only [gives_iff_of_same hOwn hFacade] at hNone
        exact
          .development hNone (hGives.of_same hOwnDev hDev)
    | bare hNone hLater =>
        simp only [gives_iff_of_same hOwn hFacade] at hNone
        simp only [gives_iff_of_same hOwnDev hDev] at hLater
        exact .bare hNone hLater
  word := by
    intro name hWord hSegment
    apply cratePath_eq_error (ofText?_word hWord hSegment)
    rintro part rfl
    rw [isSegment_of_isWord hWord] at hSegment
    cases hSegment
  text := by
    intro name hText hPrefix
    exact cratePath_eq_error hText hPrefix
  render_own := render_single
  render_module := render_facade

/-
  The facade among the dependencies comes before the crate
  itself among those of development; a reserved word is no
  module of it, and falls through.
-/
theorem cratePath_precedence_facade :
    let m : Manifest :=
      ⟨["vc_notation"], ["vc_value", "vc_fn"]⟩
    m.cratePath "vc_value" =
        .ok ⟨["vc_notation", "value"]⟩ ∧
      m.cratePath "vc_fn" = .ok ⟨["vc_fn"]⟩ ∧
        m.cratePath "vc_notation" = .ok ⟨["vc_notation"]⟩ ∧
          m.cratePath "fn" = .error ⟨"fn"⟩ := by
  intro m
  have hAll := cratePath_precedence m
  have hMember : IsMember "vc_value" "value" := by
    exact ⟨rfl, by decide⟩
  refine ⟨?_, ?_, hAll.facade_own, ?_⟩
  · rw [hAll.resolves _ _ (by decide)]
    exact
      .dependency (.member (by decide) (by decide) hMember)
  · apply hAll.not_member _ (by decide)
    rintro part ⟨hName, hSegment⟩
    have hPart : module? "vc_fn" = some part :=
      module?_eq_some_iff.mpr hName
    have hWord : module? "vc_fn" = some "fn" := by decide
    rw [hWord] at hPart
    rw [← Option.some.inj hPart] at hSegment
    exact absurd hSegment (by decide)
  · exact hAll.word _ (by decide) (by decide)

end Manifest

end TreePath
