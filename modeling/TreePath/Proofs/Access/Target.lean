import TreePath.Access.Assign
import TreePath.Proofs.Tree.Location

/-
  Which locations a plan reads and writes.  A write that takes
  place writes the last child of the target, and puts what
  that leaves where the steps before the last lead.

  Key definitions include:
    * `Step.selector`
    * `Plan.visited`
    * `Plan.target`

  Main statements:
    * `Plan.walk_eq_ok_iff`
    * `Plan.walkPlace_eq_ok_iff`
    * `Plan.edits_assign`
    * `Plan.assign_eq_done_iff`
-/

------------------------------------------------------------
-- Single Steps
------------------------------------------------------------

namespace TreePath

variable [RecordKeys]

namespace Step

/-
  The selector that a step reads through.  A name stands for
  the field, or for the entry if there is no such field.
-/
def selector
    (step : Step)
    (v : Value) : Selector :=
  match step with
  | .keyed key => .entry key
  | .named name =>
      if (v.field? name).isSome then .field name
      else .entry (.name name)

/- The selector that a step writes through. -/
def target : Step → Selector
| .keyed key => .entry key
| .named name => .field name

/- Only values that answer keys have entries. -/
theorem isKeyed_of_entry
    {v child : Value}
    {key : Key}
    (hChild : v.entry? key = some child) :
    v.isKeyed = true := by
  cases v using Value.keyCases with
  | record d fields code hCode =>
      simp only [Value.isKeyed, hCode, Option.isSome_some]
  | unkeyed d fields hCode =>
      rw [Value.entry?_unkeyed hCode] at hChild
      cases hChild
  | own v hOwn =>
      rw [hOwn.entry?] at hChild
      rw [hOwn.isKeyed]
      cases v, key using Value.entryCases with
      | other v key hLacks =>
          rw [hLacks.absent] at hChild
          cases hChild
      | _ => rfl

/- A step resolves to the child that its selector names. -/
theorem resolve_eq_ok_iff
    (step : Step)
    (v child : Value) :
    step.resolve v = .ok child ↔
      v.child? (step.selector v) = some child := by
  cases step with
  | keyed key =>
      simp only [resolve, selector, Value.child?]
      cases hEntry : v.entry? key with
      | none =>
          by_cases hKeyed : v.isKeyed
          · simp [hKeyed]
          · simp [hKeyed]
      | some found => simp [isKeyed_of_entry hEntry]
  | named name =>
      simp only [resolve, selector]
      cases hField : v.field? name with
      | some found => simp [Value.child?, hField]
      | none =>
          simp only [Option.isSome_none, Bool.false_eq_true,
            if_false, Value.child?]
          cases v.entry? (.name name) with
          | none => simp
          | some found => simp

/- It resolves to the place of that child. -/
theorem resolvePlace_eq_ok_iff
    (step : Step)
    (v : Value)
    (place : Place) :
    step.resolvePlace v = .ok place ↔
      v.childPlace? (step.selector v) = some place := by
  cases step with
  | keyed key =>
      simp only [resolvePlace, selector, Value.childPlace?]
      cases hPlace : v.entryPlace? key with
      | none =>
          by_cases hKeyed : v.isKeyed
          · simp [hKeyed]
          · simp [hKeyed]
      | some found =>
          have hEntry : v.entry? key = some found.node := by
            rw [← Value.map_node_entryPlace?, hPlace]
            rfl
          simp [isKeyed_of_entry hEntry]
  | named name =>
      simp only [resolvePlace, selector]
      by_cases hField : (v.field? name).isSome
      · simp only [hField, if_true, Value.childPlace?]
        cases v.fieldPlace? name with
        | none => simp
        | some found => simp
      · simp only [hField, Bool.false_eq_true, if_false,
          Value.childPlace?]
        cases v.entryPlace? (.name name) with
        | none => simp
        | some found => simp

/- Only containers have room for an entry. -/
theorem isKeyed_of_writes
    {v x after : Value}
    {key : Key}
    (hWrites : v.Writes (.entry key) x after) :
    v.isKeyed = true := by
  cases v using Value.keyCases with
  | record d fields code hCode =>
      simp only [Value.isKeyed, hCode, Option.isSome_some]
  | unkeyed d fields hCode =>
      simp only [Value.Writes, Value.setChild, Value.setEntry,
        hCode] at hWrites
      cases hWrites
  | own v hOwn =>
      simp only [Value.Writes, Value.setChild, hOwn.setEntry]
        at hWrites
      rw [hOwn.isKeyed]
      have hDone : (v.setOwnEntry key x).result = .ok () := by
        rw [hWrites]
        rfl
      have hTakes := (Value.setOwnEntry_eq_done hDone).1
      cases v, key using Value.entryCases with
      | other v key hLacks =>
          exact absurd hTakes (hLacks.full x)
      | _ => rfl

/- A write through a step that takes place is one of the
   target of the step. -/
theorem assign_eq_done_iff
    (step : Step)
    (v x after : Value) :
    step.assign v x = .done after ↔
      v.Writes step.target x after := by
  cases step with
  | keyed key =>
      by_cases hKeyed : v.isKeyed
      · simp only [assign, hKeyed, if_true, target]
        exact Iff.rfl
      · simp only [assign, hKeyed, Bool.false_eq_true, if_false]
        refine iff_of_false ?_ ?_
        · simp [Update.refuse, Update.done]
        · intro hWrites
          exact hKeyed (isKeyed_of_writes hWrites)
  | named name =>
      simp only [assign, target, Value.Writes, Value.setChild]
      cases v with
      | object attributes entries => exact Iff.rfl
      | record d fields => exact Iff.rfl
      | _ => exact Iff.rfl

/- A step writes, or refuses. -/
theorem edits_assign
    (step : Step)
    (v x : Value) :
    x.Edits v (step.assign v x) := by
  cases step with
  | keyed key =>
      simp only [assign]
      split
      · exact Value.edits_setEntry v key x
      · exact .refused _ _
  | named name =>
      simp only [assign]
      split
      · exact (Value.stores_setField v name x).edits
      · exact .refused _ _

end Step

------------------------------------------------------------
-- Walks
------------------------------------------------------------

namespace Plan

/-
  The location that a list of steps reads, up to the first
  step that leads nowhere.
-/
def visited : List LocatedStep → Value → List Selector
| [], _ => []
| step :: steps, v =>
    let selector := step.step.selector v
    selector ::
      match v.child? selector with
      | none => []
      | some child => visited steps child

/- What is visited from a child on. -/
theorem visited_cons
    {step : LocatedStep}
    {v child : Value}
    (hChild : v.child? (step.step.selector v) = some child)
    (steps : List LocatedStep) :
    visited (step :: steps) v =
      step.step.selector v :: visited steps child := by
  simp only [visited, hChild]

/- One step visits its selector. -/
@[simp] theorem visited_singleton
    (step : LocatedStep)
    (v : Value) :
    visited [step] v = [step.step.selector v] := by
  cases hChild : v.child? (step.step.selector v) with
  | none => simp [visited, hChild]
  | some child => simp [visited, hChild]

/- A location that is visited to its end starts with a child
   that the first step leads to. -/
theorem child?_of_at?_visited
    {step : LocatedStep}
    {steps : List LocatedStep}
    {v w : Value}
    (hAt : v.at? (visited (step :: steps) v) = some w) :
    ∃ child,
      v.child? (step.step.selector v) = some child ∧
        child.at? (visited steps child) = some w := by
  cases hChild : v.child? (step.step.selector v) with
  | none => simp [visited, Value.at?_cons, hChild] at hAt
  | some child =>
      rw [visited_cons hChild, Value.at?_cons, hChild] at hAt
      exact ⟨child, rfl, hAt⟩

/- Steps in two parts visit part by part. -/
theorem visited_append
    {v w : Value}
    {front : List LocatedStep}
    (hFront : v.at? (visited front v) = some w)
    (back : List LocatedStep) :
    visited (front ++ back) v =
      visited front v ++ visited back w := by
  induction front generalizing v with
  | nil =>
      rcases Option.some.inj hFront with rfl
      rfl
  | cons step front ih =>
      rcases child?_of_at?_visited hFront with
        ⟨child, hChild, hRest⟩
      rw [List.cons_append, visited_cons hChild,
        visited_cons hChild, ih hRest]
      rfl

/- A walk ends at the value at the visited location. -/
theorem walk_eq_ok_iff
    (rootType : String)
    (depth : Nat)
    (steps : List LocatedStep)
    (v w : Value) :
    walk rootType depth steps v = .ok w ↔
      v.at? (visited steps v) = some w := by
  induction steps generalizing depth v with
  | nil => simp [walk, visited]
  | cons step steps ih =>
      cases hChild : v.child? (step.step.selector v) with
      | none =>
          cases hStep : step.step.resolve v with
          | error miss =>
              simp [walk, visited, Value.at?_cons, hStep, hChild]
          | ok child =>
              rw [Step.resolve_eq_ok_iff, hChild] at hStep
              cases hStep
      | some child =>
          have hStep :=
            (Step.resolve_eq_ok_iff step.step v child).mpr hChild
          rw [visited_cons hChild, Value.at?_cons, hChild]
          simp only [walk, hStep]
          exact ih (depth + 1) child

/- A walk from a place on is one inside that place. -/
theorem walkPlace_inside
    (rootType : String)
    (depth : Nat)
    (steps : List LocatedStep)
    (outer inner : Place) :
    walkPlace rootType depth steps (outer.inside inner) =
      (walkPlace rootType depth steps inner).map
        outer.inside := by
  induction steps generalizing depth inner with
  | nil => rfl
  | cons step steps ih =>
      simp only [walkPlace]
      have hNode : (outer.inside inner).node = inner.node := rfl
      rw [hNode]
      cases step.step.resolvePlace inner.node with
      | error miss => rfl
      | ok next => exact ih (depth + 1) (inner.inside next)

/- A walk leads to the place at the visited location. -/
theorem walkPlace_eq_ok_iff
    (rootType : String)
    (depth : Nat)
    (steps : List LocatedStep)
    (v : Value)
    (place : Place) :
    walkPlace rootType depth steps (.root v) = .ok place ↔
      v.placeAt? (visited steps v) = some place := by
  induction steps generalizing depth v place with
  | nil => simp [walkPlace, visited, Value.placeAt?]
  | cons step steps ih =>
      have hNode : (Place.root v).node = v := rfl
      simp only [walkPlace, hNode]
      cases hPlace : v.childPlace? (step.step.selector v) with
      | none =>
          cases hStep : step.step.resolvePlace v with
          | error miss => simp [visited, Value.placeAt?, hPlace]
          | ok found =>
              rw [Step.resolvePlace_eq_ok_iff, hPlace] at hStep
              cases hStep
      | some first =>
          have hStep :=
            (Step.resolvePlace_eq_ok_iff step.step v first).mpr
              hPlace
          have hChild := Value.child?_of_childPlace? hPlace
          have hFirst :
              (Place.root v).inside first =
                first.inside (.root first.node) :=
            rfl
          simp only [hStep, hFirst, walkPlace_inside]
          rw [visited_cons hChild]
          simp only [Value.placeAt?, hPlace, Option.bind_some]
          have hRest := ih (depth + 1) first.node
          cases hInner : first.node.placeAt?
              (visited steps first.node) with
          | none =>
              cases hWalk :
                  walkPlace rootType (depth + 1) steps
                    (.root first.node) with
              | error e => simp [Except.map]
              | ok inner =>
                  rw [hRest, hInner] at hWalk
                  cases hWalk
          | some inner =>
              rw [(hRest inner).mpr hInner]
              simp [Except.map]

/- A plan leads to the place at the location that it visits. -/
theorem locatePlace_eq_ok_iff
    (plan : Plan)
    (root : Value)
    (place : Place) :
    plan.locatePlace root = .ok place ↔
      root.placeAt? (visited plan.steps root) = some place :=
  walkPlace_eq_ok_iff root.typeName 0 plan.steps root place

------------------------------------------------------------
-- Whole Paths
------------------------------------------------------------

/-
  The location that a plan writes: what the steps before the
  last visit, and then the target of the last.
-/
def target
    (plan : Plan)
    (root : Value) : List Selector :=
  match plan.splitLast? with
  | none => []
  | some (front, last) =>
      visited front.steps root ++ [last.step.target]

/- The target in terms of the last step. -/
theorem target_eq
    {plan front : Plan}
    {last : LocatedStep}
    (hSplit : plan.splitLast? = some (front, last))
    (root : Value) :
    plan.target root =
      visited front.steps root ++ [last.step.target] := by
  simp only [target, hSplit]

omit [RecordKeys] in
/- The steps before and including the last. -/
theorem steps_of_splitLast?
    {plan front : Plan}
    {last : LocatedStep}
    (hSplit : plan.splitLast? = some (front, last)) :
    plan.steps = front.steps ++ [last] := by
  unfold splitLast? at hSplit
  split at hSplit
  · cases hSplit
  · rename_i hLast
    rcases Prod.mk.inj (Option.some.inj hSplit) with ⟨rfl, rfl⟩
    rcases List.getLast?_eq_some_iff.mp hLast with
      ⟨steps, hSteps⟩
    rw [hSteps, List.dropLast_concat]

omit [RecordKeys] in
/- A trace does not change what was found. -/
@[simp] theorem value_traced
    {α : Type}
    (found : Except PathNotFound α) :
    (traced found).value = found := by
  cases found with
  | ok a => rfl
  | error e => rfl

/-
  A plan writes through its last step at the place that the
  others lead to, or refuses.
-/
theorem edits_assign
    (plan : Plan)
    (root x : Value) :
    x.Edits root (plan.assign root x).value := by
  unfold assign
  split
  · exact .refused _ _
  · rename_i front last hSplit
    simp only [resolvePlace, Logged.value_bind, value_traced]
    split
    · exact .refused _ _
    · rename_i place hPlace
      rw [locatePlace_eq_ok_iff] at hPlace
      have hLies := Value.liesIn_of_placeAt? hPlace
      have hStep := Step.edits_assign last.step place.node x
      exact (Value.Edits.inside hLies hStep).mapError _

/-
  What a write that takes place does to the root: it writes
  the target of the last step in the value that the others
  lead to, and puts what that leaves there.
-/
theorem assign_eq_done_iff
    {plan : Plan}
    {root x after : Value} :
    (plan.assign root x).value = .done after ↔
      ∃ front last place inner,
        plan.splitLast? = some (front, last) ∧
          root.placeAt? (visited front.steps root) =
              some place ∧
            place.node.Writes last.step.target x inner ∧
              after = place.put inner := by
  unfold assign
  cases hSplit : plan.splitLast? with
  | none => simp [Update.refuse, Update.done]
  | some split =>
      rcases split with ⟨front, last⟩
      simp only [resolvePlace, Logged.value_bind, value_traced,
        Option.some.injEq, Prod.mk.injEq]
      constructor
      · intro hDone
        cases hPlace : front.locatePlace root with
        | error e =>
            simp [hPlace, Update.refuse, Update.done] at hDone
        | ok place =>
            simp only [hPlace] at hDone
            rcases Update.within_eq_done_iff.mp hDone with
              ⟨inner, hInner, rfl⟩
            rw [Step.assign_eq_done_iff] at hInner
            rw [locatePlace_eq_ok_iff] at hPlace
            exact
              ⟨front, last, place, inner, ⟨rfl, rfl⟩, hPlace,
                hInner, rfl⟩
      · rintro
          ⟨_, _, place, inner, ⟨rfl, rfl⟩, hPlace, hWrites, rfl⟩
        rw [← locatePlace_eq_ok_iff] at hPlace
        rw [← Step.assign_eq_done_iff] at hWrites
        rw [hPlace]
        exact Update.within_eq_done_iff.mpr ⟨inner, hWrites, rfl⟩

/- A plan that writes leads to a value with its last step to
   go. -/
theorem exists_holder_of_assign
    {plan : Plan}
    {root x after : Value}
    (hDone : (plan.assign root x).value = .done after) :
    ∃ front last holder,
      plan.splitLast? = some (front, last) ∧
        root.at? (visited front.steps root) = some holder := by
  rcases assign_eq_done_iff.mp hDone with
    ⟨front, last, place, _, hSplit, hPlace, _, _⟩
  exact
    ⟨front, last, place.node, hSplit,
      Value.at?_of_placeAt? hPlace⟩

/-
  Where code of records writes over entries in place, a plan
  whose steps before the last lead to a value writes at its
  target.
-/
theorem assign_eq_done_iff_writtenAt
    [SoundKeys]
    [OverwritingKeys]
    {plan front : Plan}
    {last : LocatedStep}
    {root holder x after : Value}
    (hTyped : root.WellTyped)
    (hSplit : plan.splitLast? = some (front, last))
    (hHolder :
      root.at? (visited front.steps root) = some holder) :
    (plan.assign root x).value = .done after ↔
      x.WrittenAt root (plan.target root) after := by
  rw [← Value.map_node_placeAt?, Option.map_eq_some_iff]
    at hHolder
  rcases hHolder with ⟨place, hPlace, rfl⟩
  rw [target_eq hSplit,
    Value.WrittenAt.append_iff hTyped hPlace
      (List.cons_ne_nil _ _)]
  simp only [Value.WrittenAt.singleton_iff]
  rw [assign_eq_done_iff]
  constructor
  · rintro ⟨_, _, _, inner, hAgain, hFound, hWrites, rfl⟩
    rw [hSplit] at hAgain
    rcases Prod.mk.inj (Option.some.inj hAgain) with ⟨rfl, rfl⟩
    rw [hPlace] at hFound
    rcases Option.some.inj hFound with rfl
    exact ⟨inner, hWrites, rfl⟩
  · rintro ⟨inner, hWrites, rfl⟩
    exact
      ⟨front, last, place, inner, hSplit, hPlace, hWrites, rfl⟩

end Plan

end TreePath
