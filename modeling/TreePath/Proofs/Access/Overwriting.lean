import TreePath.Proofs.Access.ReadBack
import TreePath.Proofs.Tree.Agreement

/-
  A path leads to a place if it leads to a value, and shows
  that value there.  To overwrite what is at the place and to
  write through the path are then the same, as long as code
  that answers keys for records writes over entries in place.

  Key definitions include:
    * `Step.WritesInPlace`

  Main statements:
    * `Plan.map_node_resolvePlace`
    * `Plan.assign_eq_put`
    * `Plan.resolvePlace_agrees`
-/

------------------------------------------------------------
-- Steps
------------------------------------------------------------

namespace TreePath

section Agreement

variable [RecordKeys]

namespace Step

/-
  A step leads to the place of what it reads.  Whether a name
  stands for a field is the same question for both.
-/
theorem map_node_resolvePlace
    (step : Step)
    (v : Value) :
    (step.resolvePlace v).map Place.node = step.resolve v := by
  cases step with
  | keyed key =>
      simp only [resolvePlace, resolve]
      split
      · rw [← Value.map_node_entryPlace?]
        cases v.entryPlace? key with
        | none => rfl
        | some place => rfl
      · rfl
  | named name =>
      simp only [resolvePlace, resolve]
      rw [← Value.map_node_fieldPlace?,
        ← Value.map_node_entryPlace?]
      cases v.fieldPlace? name with
      | some place => rfl
      | none =>
          cases v.entryPlace? (.name name) with
          | none => rfl
          | some place => rfl

/-
  A key is written where it is read.  So is a name, if it
  names a field that is there; otherwise it may be read as a
  key but never be written as one.
-/
def WritesInPlace
    (step : Step)
    (v : Value) : Prop :=
  match step with
  | .keyed _ => True
  | .named name => (v.field? name).isSome

omit [RecordKeys] in
/- A step that writes in place writes where it reads. -/
theorem WritesInPlace.selector_eq_target
    {step : Step}
    {v : Value}
    (hWrites : step.WritesInPlace v) :
    step.selector v = step.target := by
  cases step with
  | keyed key => rfl
  | named name => exact if_pos hWrites

end Step

------------------------------------------------------------
-- Walks
------------------------------------------------------------

namespace Plan

/- The same holds for walks, misses and all. -/
theorem map_node_walkPlace
    (rootType : String)
    (depth : Nat)
    (steps : List LocatedStep)
    (place : Place) :
    (walkPlace rootType depth steps place).map Place.node =
      walk rootType depth steps place.node := by
  induction steps generalizing depth place with
  | nil => rfl
  | cons step steps ih =>
      simp only [walkPlace, walk]
      rw [← Step.map_node_resolvePlace]
      cases step.step.resolvePlace place.node with
      | error miss => rfl
      | ok inner => exact ih (depth + 1) (place.inside inner)

/- The walk of a plan and its way to a place. -/
theorem map_node_locatePlace
    (plan : Plan)
    (root : Value) :
    (plan.locatePlace root).map Place.node =
      plan.locate root :=
  map_node_walkPlace root.typeName 0 plan.steps (.root root)

/- The traces agree as well. -/
theorem map_node_resolvePlace
    (plan : Plan)
    (root : Value) :
    (plan.resolvePlace root).map (Except.map Place.node) =
      plan.resolve root := by
  unfold resolvePlace resolve
  rw [← map_node_locatePlace]
  cases plan.locatePlace root with
  | error e => rfl
  | ok place => rfl

/- A plan that leads to a value leads to its place. -/
theorem exists_place_of_locate
    {plan : Plan}
    {root v : Value}
    (hLocate : plan.locate root = .ok v) :
    ∃ place,
      plan.locatePlace root = .ok place ∧ place.node = v := by
  rw [← map_node_locatePlace] at hLocate
  cases hPlace : plan.locatePlace root with
  | error e =>
      rw [hPlace] at hLocate
      cases hLocate
  | ok place =>
      rw [hPlace] at hLocate
      exact ⟨place, rfl, Except.ok.inj hLocate⟩

------------------------------------------------------------
-- Overwriting
------------------------------------------------------------

/-
  A plan writes in place if its last step does, in the value
  that the other steps lead to.
-/
def WritesInPlace
    (plan : Plan)
    (root : Value) : Prop :=
  ∃ front last holder,
    plan.splitLast? = some (front, last) ∧
      (front.resolve root).value = .ok holder ∧
        last.step.WritesInPlace holder

/- A plan that writes in place writes where it reads. -/
theorem WritesInPlace.visited_eq_target
    {plan : Plan}
    {root : Value}
    (hWrites : plan.WritesInPlace root) :
    visited plan.steps root = plan.target root := by
  rcases hWrites with
    ⟨front, last, holder, hSplit, hHolder, hLast⟩
  simp only [resolve, locate, value_traced, walk_eq_ok_iff]
    at hHolder
  rw [target_eq hSplit, steps_of_splitLast? hSplit,
    visited_append hHolder, visited_singleton,
    hLast.selector_eq_target]

/- What is at the place of a plan is put back unchanged. -/
theorem put_node_of_locatePlace
    {plan : Plan}
    {root : Value}
    {place : Place}
    (hPlace : plan.locatePlace root = .ok place) :
    place.put place.node = root := by
  rw [locatePlace_eq_ok_iff] at hPlace
  exact (Value.liesIn_of_placeAt? hPlace).put_node

/- A write that takes place leaves no trace. -/
theorem assign_eq_ofValue
    {plan : Plan}
    {root x after : Value}
    (hDone : (plan.assign root x).value = .done after) :
    plan.assign root x = .ofValue (.done after) := by
  unfold assign at hDone ⊢
  cases hSplit : plan.splitLast? with
  | none => simp [hSplit, Update.refuse, Update.done] at hDone
  | some split =>
      rcases split with ⟨front, last⟩
      simp only [hSplit, resolvePlace] at hDone ⊢
      cases hPlace : front.locatePlace root with
      | error e =>
          simp [hPlace, Update.refuse, Update.done] at hDone
      | ok place =>
          -- The walk in front was traced, but did not miss.
          rw [hPlace] at hDone
          have hValue :
              ((last.step.assign place.node x).within
                  place).mapError AccessError.refused =
                .done after :=
            hDone
          simp only [traced, Logged.bind, hValue]
          rfl

/- A write over what is there puts the value at its place. -/
theorem assign_eq_put
    [SoundKeys]
    [OverwritingKeys]
    {plan : Plan}
    {root x : Value}
    {place : Place}
    (hRoot : root.WellTyped)
    (hWrites : plan.WritesInPlace root)
    (hPlace : plan.locatePlace root = .ok place)
    (hType : x.type = place.node.type) :
    plan.assign root x = .ofValue (.done (place.put x)) := by
  apply assign_eq_ofValue
  have hTarget := hWrites.visited_eq_target
  rcases hWrites with
    ⟨front, last, holder, hSplit, hHolder, _⟩
  simp only [resolve, locate, value_traced, walk_eq_ok_iff]
    at hHolder
  rw [locatePlace_eq_ok_iff, hTarget] at hPlace
  rw [assign_eq_done_iff_writtenAt hRoot hSplit hHolder]
  cases hLocation : plan.target root with
  | nil => simp [target_eq hSplit] at hLocation
  | cons selector location =>
      rw [hLocation] at hPlace
      exact .of_put hRoot hPlace hType

/-
  A plan leads to a place if and only if it leads to a value,
  in the same location, and otherwise misses alike.  To put
  back what is at the place changes nothing.  To overwrite it
  by a value of its type is to write through the plan, if the
  plan writes in place.
-/
theorem resolvePlace_agrees
    (plan : Plan)
    (root : Value) :
    (plan.resolvePlace root).map (Except.map Place.node) =
        plan.resolve root ∧
      (∀ place,
        (plan.resolvePlace root).value = .ok place →
          root.placeAt? (visited plan.steps root) =
              some place ∧
            root.at? (visited plan.steps root) =
                some place.node ∧
              place.put place.node = root) ∧
        ∀ [SoundKeys] [OverwritingKeys],
          root.WellTyped →
            plan.WritesInPlace root →
              ∀ v x,
                (plan.resolve root).value = .ok v →
                  x.type = v.type →
                    ∃ place,
                      (plan.resolvePlace root).value =
                          .ok place ∧
                        (place.node.overwrite x).within
                            place =
                            .done (place.put x) ∧
                          plan.assign root x =
                            .ofValue (.done (place.put x)) := by
  refine ⟨map_node_resolvePlace plan root, ?_, ?_⟩
  · intro place hPlace
    simp only [resolvePlace, value_traced] at hPlace
    have hKept := put_node_of_locatePlace hPlace
    rw [locatePlace_eq_ok_iff] at hPlace
    exact ⟨hPlace, Value.at?_of_placeAt? hPlace, hKept⟩
  · intro _ _ hRoot hWrites v x hFound hType
    simp only [resolve, resolvePlace, value_traced]
      at hFound ⊢
    rcases exists_place_of_locate hFound with
      ⟨place, hPlace, rfl⟩
    refine ⟨place, hPlace, ?_, ?_⟩
    · rw [Value.overwrite_of_type hType]
      rfl
    · exact assign_eq_put hRoot hWrites hPlace hType

end Plan

end Agreement

namespace Plan

/-
  An entry of a dictionary in an attribute is overwritten, and
  so is a coordinate of a point, by its position.
-/
theorem resolvePlace_agrees_entry :
    let _ : RecordKeys := .positional
    let number (n : Int) : Value :=
      .scalar (.integer ⟨true, .w32⟩ n)
    let elem : Shape := .scalar (.integer ⟨true, .w32⟩)
    let d : Declaration Shape :=
      ⟨"Point", "Point",
        [⟨"x", false, elem⟩, ⟨"y", false, elem⟩], none⟩
    let scores : Value :=
      .dictionary .ordered elem [("a", number 5)]
    let point : Value := .record d [number 1, number 2]
    let root : Value :=
      .object
        (.insert (.insert .empty "scores" scores) "at" point)
        []
    let Overwritten (plan : Plan) (old : Value) : Prop :=
      plan.WritesInPlace root ∧
        (plan.resolve root).value = .ok old ∧
          ∃ place,
            (plan.resolvePlace root).value = .ok place ∧
              root.placeAt? (visited plan.steps root) =
                  some place ∧
                place.put place.node = root ∧
                  (place.node.overwrite (number 9)).within
                      place =
                    .done (place.put (number 9)) ∧
                    plan.assign root (number 9) =
                      .ofValue
                        (.done (place.put (number 9)))
    root.WellTyped ∧
      Overwritten
          (.ofSteps [.named "scores", .keyed (.name "a")])
          (number 5) ∧
        Overwritten
          (.ofSteps [.named "at", .keyed (.index 1)])
          (number 2) := by
  intro _ number elem d scores point root Overwritten
  have hScores : scores.WellTyped := by
    refine .dictionary ?_ ?_
    · intro entry hEntry
      rcases List.mem_singleton.mp hEntry with rfl
      rfl
    · intro entry hEntry
      rcases List.mem_singleton.mp hEntry with rfl
      exact .scalar _
  have hPoint : point.WellTyped := by
    refine .record rfl ?_
    intro field hField
    simp only [List.mem_cons, List.not_mem_nil, or_false]
      at hField
    rcases hField with rfl | rfl
    · exact .scalar _
    · exact .scalar _
  have hRoot : root.WellTyped := by
    refine .object ?_ ?_
    · intro item hMem
      rcases Attributes.mem_items_insert hMem with rfl | hOld
      · exact hPoint
      · rcases Attributes.mem_items_insert hOld with rfl | hNone
        · exact hScores
        · cases hNone
    · simp
  have := RecordKeys.sound_positional
  have := RecordKeys.rewriting_positional
  have hOverwritten (plan : Plan) (n : Int)
      (hWrites : plan.WritesInPlace root)
      (hFound : (plan.resolve root).value = .ok (number n)) :
      Overwritten plan (number n) := by
    rcases resolvePlace_agrees plan root with
      ⟨_, hPlaces, hAgrees⟩
    rcases hAgrees hRoot hWrites (number n) (number 9) hFound
        rfl with
      ⟨place, hPlace, hAtPlace, hThrough⟩
    rcases hPlaces place hPlace with ⟨hLocation, _, hSame⟩
    exact
      ⟨hWrites, hFound, place, hPlace, hLocation, hSame,
        hAtPlace, hThrough⟩
  refine ⟨hRoot, ?_, ?_⟩
  · exact
      hOverwritten _ 5
        ⟨.ofSteps [.named "scores"], _, _, rfl, rfl, trivial⟩
        rfl
  · exact
      hOverwritten _ 2
        ⟨.ofSteps [.named "at"], _, _, rfl, rfl, trivial⟩ rfl

end Plan

end TreePath
