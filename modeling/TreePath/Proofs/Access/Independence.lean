import TreePath.Proofs.Access.Verdicts

/-
  Writes one after another.  The later of two writes through
  one plan wins, to write what is there already changes
  nothing, and writes to children apart may be swapped.  Of
  the code that answers keys for records it is asked that the
  same holds at one level.

  Key definitions include:
    * `Plan.Aims`
    * `Plan.Apart`

  Main statements:
    * `Plan.Aims.of_written`
    * `Plan.Aims.of_parted`
    * `Plan.assign_laws`
-/

------------------------------------------------------------
-- Where Plans Aim
------------------------------------------------------------

namespace TreePath

section Laws

variable [RecordKeys]

/-
  To write a child that is there does not change what a step
  selects: no field comes or goes.
-/
theorem Step.selector_of_writes
    {v x after : Value}
    {selector : Selector}
    (hWrites : v.Writes selector x after)
    (hConsistent : v.Consistent)
    (hOld : (v.child? selector).isSome)
    (step : Step) :
    step.selector after = step.selector v := by
  cases step with
  | keyed key => rfl
  | named name =>
      simp only [Step.selector]
      rw [hWrites.isSome_field? hConsistent hOld]

namespace Plan

open Value

variable {plan : Plan} {root x y after : Value}
variable {location : List Selector}

/-
  A plan aims at a location if its steps before the last lead
  to a value, and its last goes on to the end.
-/
def Aims
    (plan : Plan)
    (root : Value)
    (location : List Selector) : Prop :=
  ∃ front last holder,
    plan.splitLast? = some (front, last) ∧
      root.at? (visited front.steps root) = some holder ∧
        location =
          visited front.steps root ++ [last.step.target]

/- A plan aims at its target. -/
theorem Aims.target_eq
    (hAims : plan.Aims root location) :
    plan.target root = location := by
  rcases hAims with ⟨front, last, holder, hSplit, _, rfl⟩
  exact Plan.target_eq hSplit root

/- A plan that writes aims at its target. -/
theorem aims_of_assign
    (hDone : (plan.assign root x).value = .done after) :
    plan.Aims root (plan.target root) := by
  rcases exists_holder_of_assign hDone with
    ⟨front, last, holder, hSplit, hHolder⟩
  exact
    ⟨front, last, holder, hSplit, hHolder,
      Plan.target_eq hSplit root⟩

variable [SoundKeys]

/- A plan writes where it aims. -/
theorem Aims.assign_eq_done_iff
    [OverwritingKeys]
    (hAims : plan.Aims root location)
    (hTyped : root.WellTyped) :
    (plan.assign root x).value = .done after ↔
      x.WrittenAt root location after := by
  have hTarget := hAims.target_eq
  rcases hAims with ⟨front, last, holder, hSplit, hHolder, _⟩
  rw [assign_eq_done_iff_writtenAt hTyped hSplit hHolder,
    hTarget]

variable [ReadBackKeys]

/- A write at what is visited, or further down, does not
   change what is visited. -/
theorem visited_of_written
    {steps : List LocatedStep}
    {v w after : Value}
    {back : List Selector}
    (hWritten : x.WrittenAt v (visited steps v ++ back) after)
    (hValid : v.Valid)
    (hBack : back ≠ [])
    (hSteps : v.at? (visited steps v) = some w) :
    visited steps after = visited steps v := by
  induction steps generalizing v after with
  | nil => rfl
  | cons step steps ih =>
      rcases child?_of_at?_visited hSteps with
        ⟨child, hChild, hRest⟩
      have hMore : visited steps child ++ back ≠ [] :=
        List.append_ne_nil_of_right_ne_nil _ hBack
      rw [visited_cons hChild] at hWritten ⊢
      rw [List.cons_append,
        WrittenAt.cons_iff hChild hMore] at hWritten
      rcases hWritten with ⟨inner, hInner, hWrites⟩
      have hSelector :=
        Step.selector_of_writes hWrites hValid.consistent
          (by rw [hChild]; rfl) step.step
      have hAfter := hWrites.child?_self hValid.consistent
      rw [← hSelector] at hAfter
      rw [visited_cons hAfter, hSelector,
        ih hInner (hValid.child hChild) hRest]

/-
  Nor does a write of something that is there already, at a
  location that parts from what is visited.
-/
theorem visited_of_parted
    {steps : List LocatedStep}
    {v w after : Value}
    {back : List Selector}
    (hWritten : x.WrittenAt v location after)
    (hValid : v.Valid)
    (hOld : (v.at? location).isSome)
    (hSteps : v.at? (visited steps v) = some w)
    (hParted : v.Parted location (visited steps v ++ back)) :
    visited steps after = visited steps v ∧
      (after.at? (visited steps v)).isSome := by
  induction steps generalizing v location after with
  | nil => exact ⟨rfl, rfl⟩
  | cons step steps ih =>
      rcases child?_of_at?_visited hSteps with
        ⟨child, hChild, hRest⟩
      rw [visited_cons hChild, List.cons_append] at hParted
      rw [visited_cons hChild]
      cases hParted with
      | here hApart =>
          -- The write takes place beside the child.
          rcases hWritten.exists_writes with ⟨z, hWrites, _⟩
          have hFirst := Option.isSome_of_isSome_bind hOld
          have hSelector :=
            Step.selector_of_writes hWrites hValid.consistent
              hFirst step.step
          have hAfter :=
            hWrites.child?_of_spares hValid hApart.spares
          rw [hChild] at hAfter
          refine ⟨?_, ?_⟩
          · rw [← hSelector] at hAfter
            rw [visited_cons hAfter, hSelector]
          · rw [at?_cons, hAfter, Option.bind_some, hRest]
            rfl
      | @inside _ child' _ location _ hAgain hInside =>
          -- It takes place inside the child.
          rw [hChild] at hAgain
          rcases Option.some.inj hAgain with rfl
          have hMore : location ≠ [] := by
            rintro rfl
            cases hInside
          rw [WrittenAt.cons_iff hChild hMore] at hWritten
          rcases hWritten with ⟨inner, hInner, hWrites⟩
          rw [at?_cons, hChild] at hOld
          rcases ih hInner (hValid.child hChild) hOld hRest
              hInside with
            ⟨hSame, hFound⟩
          have hSelector :=
            Step.selector_of_writes hWrites hValid.consistent
              (by rw [hChild]; rfl) step.step
          have hAfter := hWrites.child?_self hValid.consistent
          refine ⟨?_, ?_⟩
          · rw [← hSelector] at hAfter
            rw [visited_cons hAfter, hSelector, hSame]
          · rw [at?_cons, hAfter]
            exact hFound

/- A plan aims where it wrote. -/
theorem Aims.of_written
    (hAims : plan.Aims root location)
    (hWritten : x.WrittenAt root location after)
    (hValid : root.Valid) :
    plan.Aims after location := by
  rcases hAims with ⟨front, last, holder, hSplit, hHolder, rfl⟩
  have hBack : [last.step.target] ≠ [] := List.cons_ne_nil _ _
  have hVisited :=
    visited_of_written hWritten hValid hBack hHolder
  rcases hWritten.at?_above hValid hBack hHolder with
    ⟨holder', hAfter, _⟩
  rw [← hVisited] at hAfter
  exact
    ⟨front, last, holder', hSplit, hAfter, by rw [hVisited]⟩

/-
  A plan aims where it did after a write of something that is
  there already, at a location that parts from its own.
-/
theorem Aims.of_parted
    {other : List Selector}
    (hAims : plan.Aims root location)
    (hWritten : x.WrittenAt root other after)
    (hValid : root.Valid)
    (hOld : (root.at? other).isSome)
    (hParted : root.Parted other location) :
    plan.Aims after location := by
  rcases hAims with ⟨front, last, holder, hSplit, hHolder, rfl⟩
  rcases visited_of_parted hWritten hValid hOld hHolder hParted
    with ⟨hVisited, hFound⟩
  rcases Option.isSome_iff_exists.mp hFound with
    ⟨holder', hAfter⟩
  rw [← hVisited] at hAfter
  exact
    ⟨front, last, holder', hSplit, hAfter, by rw [hVisited]⟩

end Plan

------------------------------------------------------------
-- Writes One after Another
------------------------------------------------------------

namespace Plan

open Value

variable {plan other : Plan} {root x y after beside : Value}

/- To write what is there already changes nothing. -/
theorem assign_of_resolve
    [SoundKeys]
    [OverwritingKeys]
    (hTyped : root.WellTyped)
    (hWrites : plan.WritesInPlace root)
    (hFound : (plan.resolve root).value = .ok x) :
    (plan.assign root x).value = .done root := by
  simp only [resolve, value_traced] at hFound
  rcases exists_place_of_locate hFound with
    ⟨place, hPlace, rfl⟩
  rw [assign_eq_put hTyped hWrites hPlace rfl,
    put_node_of_locatePlace hPlace]
  rfl

variable [SoundKeys] [RewritingKeys]

/- The later of two writes through a plan wins. -/
theorem assign_assign
    (hValid : root.Valid)
    (hNew : x.WellTyped)
    (hFirst : (plan.assign root x).value = .done after)
    (hSecond : (plan.assign root y).value = .done beside) :
    (plan.assign after y).value = .done beside := by
  have hAims := aims_of_assign hFirst
  rw [hAims.assign_eq_done_iff hValid.wellTyped]
    at hFirst hSecond
  have hAfterTyped := hFirst.wellTyped hValid.wellTyped hNew
  have hAgain := hAims.of_written hFirst hValid
  rw [hAgain.assign_eq_done_iff hAfterTyped]
  exact hFirst.again hSecond hValid hNew

/-
  Two plans write apart if they write to children that are
  there, and if the ways to them part.
-/
structure Apart
    (plan other : Plan)
    (root : Value) : Prop where
  old : (root.at? (plan.target root)).isSome
  older : (root.at? (other.target root)).isSome
  parted :
    root.Parted (plan.target root) (other.target root)

omit [SoundKeys] [RewritingKeys] in
/- Where all code is lawful, they do if neither child is the
   other or inside it. -/
theorem apart_of_not_prefix
    [LawfulKeys]
    (hOld : (root.at? (plan.target root)).isSome)
    (hOlder : (root.at? (other.target root)).isSome)
    (hBelow : ¬ plan.target root <+: other.target root)
    (hAbove : ¬ other.target root <+: plan.target root) :
    plan.Apart other root :=
  ⟨hOld, hOlder, parted_of_not_prefix hOld hBelow hAbove⟩

/- Writes to old children apart may be swapped. -/
theorem assign_comm
    (hValid : root.Valid)
    (hNew : x.WellTyped)
    (hAlso : y.WellTyped)
    (hFirst : (plan.assign root x).value = .done after)
    (hSecond : (other.assign root y).value = .done beside)
    (hApart : plan.Apart other root) :
    ∃ root',
      (other.assign after y).value = .done root' ∧
        (plan.assign beside x).value = .done root' := by
  have hTyped := hValid.wellTyped
  have hAims := aims_of_assign hFirst
  have hOtherAims := aims_of_assign hSecond
  rw [hAims.assign_eq_done_iff hTyped] at hFirst
  rw [hOtherAims.assign_eq_done_iff hTyped] at hSecond
  rcases hApart with ⟨hOld, hOlder, hParted⟩
  have hAimsAfter :=
    hOtherAims.of_parted hFirst hValid hOld hParted
  have hAimsBeside :=
    hAims.of_parted hSecond hValid hOlder hParted.symm
  rcases WrittenAt.swap hParted hFirst hSecond hValid hNew hAlso
      hOld hOlder with
    ⟨root', hAfter, hBeside⟩
  have hAfterTyped := hFirst.wellTyped hTyped hNew
  have hBesideTyped := hSecond.wellTyped hTyped hAlso
  refine ⟨root', ?_, ?_⟩
  · rw [hAimsAfter.assign_eq_done_iff hAfterTyped]
    exact hAfter
  · rw [hAimsBeside.assign_eq_done_iff hBesideTyped]
    exact hBeside

/-
  The laws of writes.  The later of two writes through a plan
  wins; to write back what a plan leads to, where it writes
  what it reads, changes nothing; and two writes to children
  that exist, and the ways to which part, may be done in
  either order.  If all code is lawful, the ways part as soon
  as neither child is the other or inside it.
-/
theorem assign_laws
    (hTyped : root.WellTyped)
    (hConsistent : root.Consistent) :
    (∀ (plan : Plan) (x y : Value),
      x.WellTyped →
        (plan.assign root x).value.result = .ok () →
          (plan.assign root y).value.result = .ok () →
            (plan.assign (plan.assign root x).value.node
                y).value =
              (plan.assign root y).value) ∧
      (∀ (plan : Plan) (v : Value),
        plan.WritesInPlace root →
          (plan.resolve root).value = .ok v →
            (plan.assign root v).value = .done root) ∧
        (∀ (first second : Plan) (x y : Value),
          x.WellTyped →
            y.WellTyped →
              (first.assign root x).value.result = .ok () →
                (second.assign root y).value.result = .ok () →
                  first.Apart second root →
                    ∃ root',
                      (second.assign
                          (first.assign root x).value.node
                          y).value =
                          .done root' ∧
                        (first.assign
                            (second.assign root y).value.node
                            x).value =
                          .done root') ∧
          (LawfulKeys →
            ∀ (first second : Plan),
              (root.at? (first.target root)).isSome →
                (root.at? (second.target root)).isSome →
                  ¬ first.target root <+: second.target root →
                    ¬ second.target root <+:
                        first.target root →
                      first.Apart second root) := by
  have hValid : root.Valid := ⟨hTyped, hConsistent⟩
  refine ⟨?_, ?_, ?_, ?_⟩
  · intro plan x y hNew hFirst hSecond
    have hDone := Update.eq_done_of_result hFirst
    have hDoneNext := Update.eq_done_of_result hSecond
    rw [assign_assign hValid hNew hDone hDoneNext]
    exact hDoneNext.symm
  · intro plan v hWrites hFound
    exact assign_of_resolve hTyped hWrites hFound
  · intro first second x y hNew hAlso hFirst hSecond hApart
    exact
      assign_comm hValid hNew hAlso
        (Update.eq_done_of_result hFirst)
        (Update.eq_done_of_result hSecond) hApart
  · intro _ first second hOld hOlder hBelow hAbove
    exact apart_of_not_prefix hOld hOlder hBelow hAbove

end Plan

end Laws

namespace Plan

/-
  A point, of which one coordinate is written by its position,
  and the other one by its position or by its name.
-/
theorem assign_laws_point :
    let _ : RecordKeys := .positional
    let number (n : Int) : Value :=
      .scalar (.integer ⟨true, .w32⟩ n)
    let elem : Shape := .scalar (.integer ⟨true, .w32⟩)
    let d : Declaration Shape :=
      ⟨"Point", "Point",
        [⟨"x", false, elem⟩, ⟨"y", false, elem⟩], none⟩
    let point (x y : Int) : Value :=
      .record d [number x, number y]
    let root := point 1 2
    let first := Plan.ofSteps [.keyed (.index 0)]
    let second := Plan.ofSteps [.keyed (.index 1)]
    let third := Plan.ofSteps [.named "y"]
    root.WellTyped ∧
      root.Consistent ∧
        (first.assign (first.assign root (number 7)).value.node
            (number 8)).value =
            (first.assign root (number 8)).value ∧
          (first.assign root (number 1)).value = .done root ∧
            ∀ other ∈ [second, third],
              first.Apart other root ∧
                (other.assign
                    (first.assign root (number 7)).value.node
                    (number 9)).value =
                    .done (point 7 9) ∧
                  (first.assign
                      (other.assign root (number 9)).value.node
                      (number 7)).value =
                    .done (point 7 9) := by
  intro _ number elem d point root first second third
  have hNumber (n : Int) : (number n).WellTyped := .scalar _
  have hTyped : root.WellTyped := by
    refine .record rfl ?_
    intro field hMem
    simp only [List.mem_cons, List.not_mem_nil, or_false]
      at hMem
    rcases hMem with rfl | rfl
    · exact hNumber 1
    · exact hNumber 2
  have hConsistent : root.Consistent := by
    simp [root, point, number, Value.Consistent,
      Value.ItemsConsistent]
  have hApart :
      ∀ other ∈ [second, third], first.Apart other root := by
    intro other hMem
    simp only [List.mem_cons, List.not_mem_nil, or_false]
      at hMem
    rcases hMem with rfl | rfl
    · refine ⟨rfl, rfl, .here (.keys rfl ?_)⟩
      apply KeyCode.swapsKeys_positional
      decide
    · refine ⟨rfl, rfl, .here (.keyField rfl ?_)⟩
      intro i hVisible
      rcases Option.some.inj hVisible with rfl
      apply KeyCode.swapsField_positional
      decide
  have hComputed :
      ∀ other ∈ [second, third],
        (other.assign root (number 9)).value.result = .ok () ∧
          (other.assign
              (first.assign root (number 7)).value.node
              (number 9)).value =
            .done (point 7 9) := by
    intro other hMem
    simp only [List.mem_cons, List.not_mem_nil, or_false]
      at hMem
    rcases hMem with rfl | rfl
    · exact ⟨rfl, rfl⟩
    · exact ⟨rfl, rfl⟩
  have hWrites : first.WritesInPlace root :=
    ⟨.empty, _, _, rfl, rfl, trivial⟩
  have := RecordKeys.sound_positional
  have := RecordKeys.rewriting_positional
  rcases assign_laws hTyped hConsistent with
    ⟨hLater, hBack, hSwap, _⟩
  refine ⟨hTyped, hConsistent, ?_, ?_, ?_⟩
  · exact hLater first (number 7) (number 8) (hNumber 7) rfl rfl
  · exact hBack first (number 1) hWrites rfl
  · intro other hMem
    rcases hComputed other hMem with ⟨hSecond, hLast⟩
    rcases
        hSwap first other (number 7) (number 9) (hNumber 7)
          (hNumber 9) rfl hSecond (hApart other hMem) with
      ⟨root', hThen, hBefore⟩
    rw [hLast] at hThen
    have hSame : point 7 9 = root' :=
      congrArg Update.node hThen
    rw [← hSame] at hBefore
    exact ⟨hApart other hMem, hLast, hBefore⟩

end Plan

end TreePath
