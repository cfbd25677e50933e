import TreePath.Proofs.Tree.Swapping

/-
  Locations are chains of selectors.  A write at a location is
  a write of a child in each of the values on the way, and it
  changes nothing beside it.

  Key definitions include:
    * `Value.at?`
    * `Value.placeAt?`
    * `Value.WrittenAt`
    * `Value.Parted`

  Main statements:
    * `Value.WrittenAt.at?_self`
    * `Value.WrittenAt.at?_beside`
    * `Value.WrittenAt.at?_above`
    * `Value.WrittenAt.again`
    * `Value.WrittenAt.swap`
-/

------------------------------------------------------------
-- Locations
------------------------------------------------------------

namespace TreePath

variable [RecordKeys]

namespace Value

/- The value at a location. -/
def at? : Value → List Selector → Option Value
| v, [] => some v
| v, selector :: location =>
    (v.child? selector).bind
      (fun child => child.at? location)

/- The place at a location. -/
def placeAt? : Value → List Selector → Option Place
| v, [] => some (.root v)
| v, selector :: location =>
    (v.childPlace? selector).bind
      (fun place =>
        (place.node.placeAt? location).map place.inside)

/-
  A value is written at a location if it is written to the
  last child there, and each value on the way is written with
  what the write leaves of its own child.
-/
inductive WrittenAt
    (x : Value) : Value → List Selector → Value → Prop
| here
    {v after : Value}
    {selector : Selector}
    (hWrites : v.Writes selector x after) :
    WrittenAt x v [selector] after
| inside
    {v child inner after : Value}
    {selector : Selector}
    {location : List Selector}
    (hChild : v.child? selector = some child)
    (hInner : WrittenAt x child location inner)
    (hWrites : v.Writes selector inner after) :
    WrittenAt x v (selector :: location) after

variable {v w x y after beside : Value}
variable {selector : Selector}
variable {front back location other : List Selector}

/- At the end of no selectors is the value itself. -/
@[simp] theorem at?_nil
    (v : Value) :
    v.at? [] = some v :=
  rfl

/- A location is visited child by child. -/
theorem at?_cons
    (v : Value)
    (selector : Selector)
    (location : List Selector) :
    v.at? (selector :: location) =
      (v.child? selector).bind (·.at? location) :=
  rfl

/- One selector is a location of its own. -/
@[simp] theorem at?_singleton
    (v : Value)
    (selector : Selector) :
    v.at? [selector] = v.child? selector := by
  rw [at?_cons]
  cases v.child? selector with
  | none => rfl
  | some child => rfl

/- A location in two parts is visited part by part. -/
theorem at?_append
    (v : Value)
    (front back : List Selector) :
    v.at? (front ++ back) =
      (v.at? front).bind (·.at? back) := by
  induction front generalizing v with
  | nil => rfl
  | cons selector front ih =>
      rw [List.cons_append, at?_cons, at?_cons]
      cases v.child? selector with
      | none => rfl
      | some child => exact ih child

/- What has a place at a location is what is there. -/
theorem map_node_placeAt?
    (v : Value)
    (location : List Selector) :
    (v.placeAt? location).map Place.node =
      v.at? location := by
  induction location generalizing v with
  | nil => rfl
  | cons selector location ih =>
      simp only [placeAt?, at?_cons, ← map_node_childPlace?]
      cases v.childPlace? selector with
      | none => rfl
      | some place =>
          simp only [Option.bind_some, Option.map_some]
          rw [← ih place.node, Option.map_map]
          rfl

------------------------------------------------------------
-- Places at a Location
------------------------------------------------------------

section Places

variable {place : Place}

/- A place further inside, step by step. -/
theorem placeAt?_cons_eq_some_iff :
    v.placeAt? (selector :: location) = some place ↔
      ∃ outer inner,
        v.childPlace? selector = some outer ∧
          outer.node.placeAt? location = some inner ∧
            place = outer.inside inner := by
  simp only [placeAt?, Option.bind_eq_some_iff,
    Option.map_eq_some_iff]
  constructor
  · rintro ⟨outer, hOuter, inner, hInner, rfl⟩
    exact ⟨outer, inner, hOuter, hInner, rfl⟩
  · rintro ⟨outer, inner, hOuter, hInner, rfl⟩
    exact ⟨outer, hOuter, inner, hInner, rfl⟩

/- What is at a location is seen at its place. -/
theorem at?_of_placeAt?
    (hPlace : v.placeAt? location = some place) :
    v.at? location = some place.node := by
  rw [← map_node_placeAt?, hPlace]
  rfl

/- A place at a location lies in the value. -/
theorem liesIn_of_placeAt?
    (hPlace : v.placeAt? location = some place) :
    place.LiesIn v := by
  induction location generalizing v place with
  | nil =>
      rcases Option.some.inj hPlace with rfl
      exact .root v
  | cons selector location ih =>
      rcases placeAt?_cons_eq_some_iff.mp hPlace with
        ⟨outer, inner, hOuter, hInner, rfl⟩
      exact .inside (liesIn_of_childPlace? hOuter) (ih hInner)

/- What is put at a place is what is at its location. -/
theorem at?_put
    [SoundKeys]
    [ReadBackKeys]
    (hConsistent : v.Consistent)
    (hPlace : v.placeAt? location = some place)
    (hType : x.type = place.node.type) :
    (place.put x).at? location = some x := by
  induction location generalizing v place with
  | nil =>
      rcases Option.some.inj hPlace with rfl
      rfl
  | cons selector location ih =>
      rcases placeAt?_cons_eq_some_iff.mp hPlace with
        ⟨outer, inner, hOuter, hInner, rfl⟩
      have hLies := liesIn_of_childPlace? hOuter
      have hOuterOk := hLies.consistent_node hConsistent
      have hKept :=
        (liesIn_of_placeAt? hInner).type_put hType
      have hChild :
          ((outer.inside inner).put x).child? selector =
            some (inner.put x) :=
        child?_put hConsistent hOuter hKept
      rw [at?_cons, hChild]
      exact ih hOuterOk hInner hType

end Places

------------------------------------------------------------
-- Writes at a Location
------------------------------------------------------------

namespace WrittenAt

/- A write at a location writes the first child on the way,
   which is there already if the location goes on. -/
theorem exists_writes
    (hWritten : x.WrittenAt v (selector :: location) after) :
    ∃ y,
      v.Writes selector y after ∧
        (location = [] ∨ (v.child? selector).isSome) := by
  cases hWritten with
  | here hWrites => exact ⟨x, hWrites, .inl rfl⟩
  | inside hChild hInner hWrites =>
      refine ⟨_, hWrites, .inr ?_⟩
      rw [hChild]
      rfl

/- A write at a location of one selector. -/
theorem singleton_iff :
    x.WrittenAt v [selector] after ↔
      v.Writes selector x after := by
  constructor
  · intro hWritten
    cases hWritten with
    | here hWrites => exact hWrites
    | inside hChild hInner hWrites => cases hInner
  · exact .here

/- A write at a location that goes on. -/
theorem cons_iff
    {child : Value}
    (hChild : v.child? selector = some child)
    (hMore : location ≠ []) :
    x.WrittenAt v (selector :: location) after ↔
      ∃ inner,
        x.WrittenAt child location inner ∧
          v.Writes selector inner after := by
  constructor
  · intro hWritten
    cases hWritten with
    | here hWrites => exact absurd rfl hMore
    | inside hFound hInner hWrites =>
        rw [hChild] at hFound
        rcases Option.some.inj hFound with rfl
        exact ⟨_, hInner, hWrites⟩
  · rintro ⟨inner, hInner, hWrites⟩
    exact .inside hChild hInner hWrites

/- A write inside a value leaves its declaration alone. -/
theorem shape_eq
    (hWritten : x.WrittenAt v location after) :
    after.shape = v.shape := by
  cases hWritten with
  | here hWrites => exact hWrites.shape_eq
  | inside hChild hInner hWrites => exact hWrites.shape_eq

/- So it leaves its type alone. -/
theorem type_eq
    (hWritten : x.WrittenAt v location after) :
    after.type = v.type :=
  type_of_shape hWritten.shape_eq

/- A write of a well-typed value leaves a well-typed one. -/
theorem wellTyped
    [SoundKeys]
    (hWritten : x.WrittenAt v location after)
    (hTyped : v.WellTyped)
    (hNew : x.WellTyped) :
    after.WellTyped := by
  induction hWritten with
  | here hWrites => exact hWrites.wellTyped hTyped hNew
  | inside hChild hInner hWrites ih =>
      rcases exists_childPlace? hChild with ⟨place, hPlace, rfl⟩
      have hLies := liesIn_of_childPlace? hPlace
      have hChildTyped := hLies.wellTyped_node hTyped
      exact hWrites.wellTyped hTyped (ih hChildTyped)

/-
  A write at a location in two parts puts what a write along
  the second leaves at the place of the first.
-/
theorem append_iff
    [SoundKeys]
    [OverwritingKeys]
    {place : Place}
    (hTyped : v.WellTyped)
    (hPlace : v.placeAt? front = some place)
    (hBack : back ≠ []) :
    x.WrittenAt v (front ++ back) after ↔
      ∃ inner,
        x.WrittenAt place.node back inner ∧
          after = place.put inner := by
  induction front generalizing v place after with
  | nil =>
      rcases Option.some.inj hPlace with rfl
      simp [Place.root]
  | cons selector front ih =>
      rcases placeAt?_cons_eq_some_iff.mp hPlace with
        ⟨outer, nested, hOuter, hNested, rfl⟩
      have hLies := liesIn_of_childPlace? hOuter
      have hOuterTyped := hLies.wellTyped_node hTyped
      have hMore : front ++ back ≠ [] :=
        List.append_ne_nil_of_right_ne_nil front hBack
      rw [List.cons_append,
        cons_iff (child?_of_childPlace? hOuter) hMore]
      simp only [ih hOuterTyped hNested]
      constructor
      · rintro ⟨_, ⟨inner, hInner, rfl⟩, hWrites⟩
        refine ⟨inner, hInner, ?_⟩
        have hType :=
          (liesIn_of_placeAt? hNested).type_put hInner.type_eq
        exact hWrites.unique (writes_put hTyped hOuter hType)
      · rintro ⟨inner, hInner, rfl⟩
        have hType :=
          (liesIn_of_placeAt? hNested).type_put hInner.type_eq
        exact
          ⟨_, ⟨inner, hInner, rfl⟩,
            writes_put hTyped hOuter hType⟩

/- To put a value of the type of what is at a location is to
   write it there. -/
theorem of_put
    [SoundKeys]
    [OverwritingKeys]
    {place : Place}
    (hTyped : v.WellTyped)
    (hPlace :
      v.placeAt? (selector :: location) = some place)
    (hType : x.type = place.node.type) :
    x.WrittenAt v (selector :: location) (place.put x) := by
  induction location generalizing v selector place with
  | nil =>
      rcases placeAt?_cons_eq_some_iff.mp hPlace with
        ⟨outer, inner, hOuter, hInner, rfl⟩
      rcases Option.some.inj hInner with rfl
      exact .here (writes_put hTyped hOuter hType)
  | cons next location ih =>
      rcases placeAt?_cons_eq_some_iff.mp hPlace with
        ⟨outer, inner, hOuter, hInner, rfl⟩
      have hLies := liesIn_of_childPlace? hOuter
      have hOuterTyped := hLies.wellTyped_node hTyped
      have hKept :=
        (liesIn_of_placeAt? hInner).type_put hType
      exact
        .inside (child?_of_childPlace? hOuter)
          (ih hOuterTyped hInner hType)
          (writes_put hTyped hOuter hKept)

/- What is written to the first child on the way may also be
   written in another value that has the same child. -/
theorem exists_head
    [SoundKeys]
    (hWritten : x.WrittenAt v (selector :: location) after)
    (hTyped : v.WellTyped)
    (hNew : x.WellTyped) :
    ∃ inner,
      v.Writes selector inner after ∧
        inner.WellTyped ∧
          ∀ {w after'},
            w.child? selector = v.child? selector →
              w.Writes selector inner after' →
                x.WrittenAt w (selector :: location) after' := by
  cases hWritten with
  | here hWrites =>
      exact ⟨x, hWrites, hNew, fun _ hAgain => .here hAgain⟩
  | inside hChild hInner hWrites =>
      rcases exists_childPlace? hChild with ⟨place, hPlace, rfl⟩
      have hLies := liesIn_of_childPlace? hPlace
      have hChildTyped := hLies.wellTyped_node hTyped
      refine
        ⟨_, hWrites, hInner.wellTyped hChildTyped hNew, ?_⟩
      intro w after' hSame hAgain
      exact .inside (hSame.trans hChild) hInner hAgain

/- A write goes on in what it writes on the way. -/
theorem at?_above
    [SoundKeys]
    [ReadBackKeys]
    (hWritten : x.WrittenAt v (front ++ back) after)
    (hValid : v.Valid)
    (hBack : back ≠ [])
    (hFront : v.at? front = some w) :
    ∃ w',
      after.at? front = some w' ∧ x.WrittenAt w back w' := by
  induction front generalizing v after with
  | nil =>
      rcases Option.some.inj hFront with rfl
      exact ⟨after, rfl, hWritten⟩
  | cons selector front ih =>
      rw [at?_cons, Option.bind_eq_some_iff] at hFront
      rcases hFront with ⟨child, hChild, hRest⟩
      have hMore : front ++ back ≠ [] :=
        List.append_ne_nil_of_right_ne_nil front hBack
      rw [List.cons_append, cons_iff hChild hMore] at hWritten
      rcases hWritten with ⟨inner, hInner, hWrites⟩
      rcases ih hInner (hValid.child hChild) hRest with
        ⟨w', hAfter, hBelow⟩
      refine ⟨w', ?_, hBelow⟩
      rw [at?_cons, hWrites.child?_self hValid.consistent]
      exact hAfter

/- A write is one of the last child in the value that has it. -/
theorem exists_holder
    (hWritten : x.WrittenAt v location after) :
    ∃ front last holder,
      location = front ++ [last] ∧
        v.at? front = some holder := by
  induction hWritten with
  | @here v after selector hWrites =>
      exact ⟨[], selector, v, rfl, rfl⟩
  | @inside v child inner after selector location hChild hInner
      hWrites ih =>
      rcases ih with ⟨front, last, holder, rfl, hHolder⟩
      refine ⟨selector :: front, last, holder, rfl, ?_⟩
      rw [at?_cons, hChild]
      exact hHolder

/- What was written at a location is found there. -/
theorem at?_self
    [SoundKeys]
    [ReadBackKeys]
    (hWritten : x.WrittenAt v location after)
    (hValid : v.Valid) :
    after.at? location = some x := by
  induction hWritten with
  | here hWrites =>
      rw [at?_singleton]
      exact hWrites.child?_self hValid.consistent
  | inside hChild hInner hWrites ih =>
      rw [at?_cons, hWrites.child?_self hValid.consistent]
      exact ih (hValid.child hChild)

------------------------------------------------------------
-- Locations beside a Write
------------------------------------------------------------

section Separate

variable [SoundKeys] [SeparateKeys]

/-
  Locations that are neither at a write nor inside or around
  it hold what they held.
-/
theorem at?_beside
    (hWritten : x.WrittenAt v location after)
    (hValid : v.Valid)
    (hBelow : ¬ location <+: other)
    (hAbove : ¬ other <+: location) :
    after.at? other = v.at? other := by
  induction hWritten generalizing other with
  | @here v after selector hWrites =>
      cases other with
      | nil => exact absurd List.nil_prefix hAbove
      | cons first other =>
          have hNe : first ≠ selector := by
            rintro rfl
            apply hBelow
            simp
          rw [at?_cons, at?_cons, hWrites.child?_of_ne hValid hNe]
  | @inside v child inner after selector location hChild hInner
      hWrites ih =>
      cases other with
      | nil => exact absurd List.nil_prefix hAbove
      | cons first other =>
          rw [at?_cons, at?_cons]
          by_cases hSame : first = selector
          · subst hSame
            rw [List.prefix_cons_inj] at hBelow hAbove
            rw [hWrites.child?_self hValid.consistent, hChild]
            exact ih (hValid.child hChild) hBelow hAbove
          · rw [hWrites.child?_of_ne hValid hSame]

/- Nothing comes or goes but at the end of a write. -/
theorem isSome_at?
    (hWritten : x.WrittenAt v location after)
    (hValid : v.Valid)
    (hBelow : ¬ location <+: other) :
    (after.at? other).isSome = (v.at? other).isSome := by
  by_cases hAbove : other <+: location
  · rcases hAbove with ⟨back, rfl⟩
    have hBack : back ≠ [] := by
      rintro rfl
      apply hBelow
      simp
    rcases hWritten.exists_holder with
      ⟨front, last, holder, hSplit, hHolder⟩
    -- The location lies around the last child.
    rcases (List.eq_nil_or_concat back).resolve_left hBack with
      ⟨middle, final, rfl⟩
    rw [List.concat_eq_append, ← List.append_assoc] at hSplit
    rcases List.append_inj' hSplit rfl with ⟨rfl, _⟩
    rw [at?_append, Option.bind_eq_some_iff] at hHolder
    rcases hHolder with ⟨w, hFront, _⟩
    rcases hWritten.at?_above hValid hBack hFront with
      ⟨w', hAfter, _⟩
    rw [hAfter, hFront]
    rfl
  · rw [hWritten.at?_beside hValid hBelow hAbove]

end Separate

end WrittenAt

------------------------------------------------------------
-- Writes One after Another
------------------------------------------------------------

/- Two locations that go on through independent children. -/
inductive Parted :
    Value → List Selector → List Selector → Prop
| here
    {v : Value}
    {first second : Selector}
    {location other : List Selector}
    (hApart : v.Independent first second) :
    Parted v (first :: location) (second :: other)
| inside
    {v child : Value}
    {selector : Selector}
    {location other : List Selector}
    (hChild : v.child? selector = some child)
    (hInner : Parted child location other) :
    Parted v (selector :: location) (selector :: other)

/- They part the other way round as well. -/
theorem Parted.symm
    (hParted : v.Parted location other) :
    v.Parted other location := by
  induction hParted with
  | here hApart => exact .here hApart.symm
  | inside hChild hInner ih => exact .inside hChild ih

/- Where all code is lawful, locations part unless one of them
   is at the other or inside it. -/
theorem parted_of_not_prefix
    [LawfulKeys]
    (hOld : (v.at? location).isSome)
    (hBelow : ¬ location <+: other)
    (hAbove : ¬ other <+: location) :
    v.Parted location other := by
  induction location generalizing v other with
  | nil => exact absurd List.nil_prefix hBelow
  | cons first location ih =>
      cases other with
      | nil => exact absurd List.nil_prefix hAbove
      | cons second other =>
          by_cases hSame : second = first
          · subst hSame
            rw [List.prefix_cons_inj] at hBelow hAbove
            rw [at?_cons] at hOld
            rcases Option.isSome_iff_exists.mp
                (Option.isSome_of_isSome_bind hOld) with
              ⟨child, hChild⟩
            rw [hChild] at hOld
            exact .inside hChild (ih hOld hBelow hAbove)
          · exact .here (independent_of_ne hSame)

namespace WrittenAt

variable [SoundKeys] [RewritingKeys]

/- The later of two writes at a location wins. -/
theorem again
    (hFirst : x.WrittenAt v location after)
    (hSecond : y.WrittenAt v location beside)
    (hValid : v.Valid)
    (hNew : x.WellTyped) :
    y.WrittenAt after location beside := by
  induction hFirst generalizing beside with
  | here hWrites =>
      rw [singleton_iff] at hSecond ⊢
      exact hWrites.again hValid.wellTyped hNew hSecond
  | @inside v child inner after selector location hChild hInner
      hWrites ih =>
      have hMore : location ≠ [] := by
        rintro rfl
        cases hInner
      rcases (cons_iff hChild hMore).mp hSecond with
        ⟨innerNext, hInnerNext, hWritesNext⟩
      have hChildValid := hValid.child hChild
      have hInnerTyped :=
        hInner.wellTyped hChildValid.wellTyped hNew
      refine .inside ?_ (ih hInnerNext hChildValid) ?_
      · exact hWrites.child?_self hValid.consistent
      · exact
          hWrites.again hValid.wellTyped hInnerTyped hWritesNext

omit [RewritingKeys] in
/- Writes in two independent children that are there may be
   swapped. -/
theorem swap_apart
    {first second : Selector}
    (hFirst : x.WrittenAt v (first :: location) after)
    (hSecond : y.WrittenAt v (second :: other) beside)
    (hValid : v.Valid)
    (hNew : x.WellTyped)
    (hAlso : y.WellTyped)
    (hApart : v.Independent first second)
    (hOld : (v.child? first).isSome)
    (hOlder : (v.child? second).isSome) :
    ∃ last,
      y.WrittenAt after (second :: other) last ∧
        x.WrittenAt beside (first :: location) last := by
  rcases hFirst.exists_head hValid.wellTyped hNew with
    ⟨inner, hWrites, hInner, hLift⟩
  rcases hSecond.exists_head hValid.wellTyped hAlso with
    ⟨innerNext, hWritesNext, hInnerNext, hLiftNext⟩
  rcases hWrites.swap hValid hInner hInnerNext hApart hOld hOlder
      hWritesNext with
    ⟨last, hAfter, hBefore⟩
  have hKept := hWrites.child?_of_spares hValid hApart.spares
  have hKeptNext :=
    hWritesNext.child?_of_spares hValid hApart.symm.spares
  exact
    ⟨last, hLiftNext hKept hAfter, hLift hKeptNext hBefore⟩

omit [SoundKeys] in
/- So may writes further inside one child, if they may be
   swapped there. -/
theorem swap_inside
    {child inner innerNext lastInner : Value}
    (hValid : v.Valid)
    (hChild : v.child? selector = some child)
    (hWrites : v.Writes selector inner after)
    (hWritesNext : v.Writes selector innerNext beside)
    (hInner : inner.WellTyped)
    (hInnerNext : innerNext.WellTyped)
    (hType : lastInner.type = child.type)
    (hAfter : y.WrittenAt inner other lastInner)
    (hBefore : x.WrittenAt innerNext location lastInner) :
    ∃ last,
      y.WrittenAt after (selector :: other) last ∧
        x.WrittenAt beside (selector :: location) last := by
  have hTyped := hValid.wellTyped
  rcases exists_childPlace? hChild with ⟨place, hPlace, rfl⟩
  have hLast := writes_put hTyped hPlace hType
  refine ⟨place.put lastInner, ?_, ?_⟩
  · have hFound := hWrites.child?_self hValid.consistent
    exact .inside hFound hAfter (hWrites.again hTyped hInner hLast)
  · have hFound := hWritesNext.child?_self hValid.consistent
    exact
      .inside hFound hBefore
        (hWritesNext.again hTyped hInnerNext hLast)

/-
  Writes at two locations that are there and that part may be
  swapped.
-/
theorem swap
    (hParted : v.Parted location other)
    (hFirst : x.WrittenAt v location after)
    (hSecond : y.WrittenAt v other beside)
    (hValid : v.Valid)
    (hNew : x.WellTyped)
    (hAlso : y.WellTyped)
    (hOld : (v.at? location).isSome)
    (hOlder : (v.at? other).isSome) :
    ∃ last,
      y.WrittenAt after other last ∧
        x.WrittenAt beside location last := by
  induction hParted generalizing after beside with
  | here hApart =>
      exact
        swap_apart hFirst hSecond hValid hNew hAlso hApart
          (Option.isSome_of_isSome_bind hOld)
          (Option.isSome_of_isSome_bind hOlder)
  | @inside v child selector location other hChild hInside ih =>
      have hMore : location ≠ [] ∧ other ≠ [] := by
        cases hInside with
        | _ => simp
      rcases (cons_iff hChild hMore.1).mp hFirst with
        ⟨inner, hInner, hWrites⟩
      rcases (cons_iff hChild hMore.2).mp hSecond with
        ⟨innerNext, hInnerNext, hWritesNext⟩
      rw [at?_cons, hChild] at hOld hOlder
      have hChildValid := hValid.child hChild
      rcases ih hInner hInnerNext hChildValid hOld hOlder with
        ⟨lastInner, hAfter, hBefore⟩
      have hChildTyped := hChildValid.wellTyped
      exact
        swap_inside hValid hChild hWrites hWritesNext
          (hInner.wellTyped hChildTyped hNew)
          (hInnerNext.wellTyped hChildTyped hAlso)
          (hAfter.type_eq.trans hInner.type_eq) hAfter hBefore

end WrittenAt

end Value

end TreePath
