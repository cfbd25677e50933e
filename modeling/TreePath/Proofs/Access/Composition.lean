import TreePath.Proofs.Access.Verdicts

/-
  One plan after another.  To walk two plans in sequence is to
  walk the first and to go on with the second from where the
  first leads; the same holds for places and for writes.

  Key definitions include:
    * `PathNotFound.behind`
    * `Write.behind`
    * `Plan.Composes`

  Main statements:
    * `Plan.locate_concat`
    * `Plan.locatePlace_concat`
    * `Plan.assign_concat_of_ok`
    * `Plan.concat_composes`
-/

------------------------------------------------------------
-- Behind Another Plan
------------------------------------------------------------

namespace TreePath

/-
  A miss as it is told from the root of a plan in front: so
  many steps deeper, and in a tree of the type of that root.
-/
def PathNotFound.behind
    (e : PathNotFound)
    (front : Plan)
    (root : Value) : PathNotFound :=
  { e with
    depth := e.depth + front.size
    rootType := root.typeName }

/- The same for the errors of an access. -/
def AccessError.behind
    (e : AccessError)
    (front : Plan)
    (root : Value) : AccessError :=
  match e with
  | .notFound miss => .notFound (miss.behind front root)
  | e => e

/- The same for the entries of a log. -/
def Event.behind
    (event : Event)
    (front : Plan)
    (root : Value) : Event :=
  match event with
  | .missed e => .missed (e.behind front root)
  | .fellBack e answer =>
      .fellBack (e.behind front root) answer
  | .warned w => .warned w

/-
  A write at the place that a plan in front leads to, as it
  is told from the root of that plan.
-/
def Write.behind
    (w : Write)
    (front : Plan)
    (root : Value)
    (place : Place) : Write :=
  ⟨(w.value.within place).mapError
      (fun e => e.behind front root),
    w.log.map (fun event => event.behind front root)⟩

------------------------------------------------------------
-- Walks
------------------------------------------------------------

namespace Plan

section Composition

variable [RecordKeys]

/- Steps in two parts are read part by part. -/
theorem walk_append
    (rootType : String)
    (depth : Nat)
    (front back : List LocatedStep)
    (v : Value) :
    walk rootType depth (front ++ back) v =
      (walk rootType depth front v).bind
        (walk rootType (depth + front.length) back) := by
  induction front generalizing depth v with
  | nil => rfl
  | cons step front ih =>
      simp only [List.cons_append, walk]
      cases step.step.resolve v with
      | error miss => rfl
      | ok child =>
          simp only
          rw [ih, List.length_cons, Nat.add_right_comm,
            Nat.add_assoc]

/- The same for the way to a place. -/
theorem walkPlace_append
    (rootType : String)
    (depth : Nat)
    (front back : List LocatedStep)
    (start : Place) :
    walkPlace rootType depth (front ++ back) start =
      (walkPlace rootType depth front start).bind
        (walkPlace rootType (depth + front.length) back) := by
  induction front generalizing depth start with
  | nil => rfl
  | cons step front ih =>
      simp only [List.cons_append, walkPlace]
      cases step.step.resolvePlace start.node with
      | error miss => rfl
      | ok inner =>
          -- The depth grows as the steps in front are used up.
          simp only
          rw [ih, List.length_cons, Nat.add_right_comm,
            Nat.add_assoc]

/- A walk from further down differs in what its miss tells. -/
theorem walk_behind
    (front : Plan)
    (root : Value)
    (rootType : String)
    (depth : Nat)
    (steps : List LocatedStep)
    (v : Value) :
    walk root.typeName (depth + front.size) steps v =
      (walk rootType depth steps v).mapError
        (fun e => e.behind front root) := by
  induction steps generalizing depth v with
  | nil => rfl
  | cons step steps ih =>
      simp only [walk]
      cases step.step.resolve v with
      | error miss => rfl
      | ok child =>
          simp only
          rw [Nat.add_right_comm]
          exact ih (depth + 1) child

/- The same for the way to a place inside another. -/
theorem walkPlace_behind
    (front : Plan)
    (root : Value)
    (rootType : String)
    (depth : Nat)
    (steps : List LocatedStep)
    (outer start : Place) :
    walkPlace root.typeName (depth + front.size) steps
        (outer.inside start) =
      ((walkPlace rootType depth steps start).mapError
          (fun e => e.behind front root)).map
        outer.inside := by
  induction steps generalizing depth start with
  | nil => rfl
  | cons step steps ih =>
      have hNode : (outer.inside start).node = start.node := rfl
      simp only [walkPlace, hNode]
      cases step.step.resolvePlace start.node with
      | error miss => rfl
      | ok inner =>
          simp only
          rw [Nat.add_right_comm]
          exact ih (depth + 1) (start.inside inner)

/- Where two plans in sequence lead. -/
theorem locate_concat
    (first second : Plan)
    (root : Value) :
    (first.concat second).locate root =
      (first.locate root).bind (fun middle =>
        (second.locate middle).mapError
          (fun e => e.behind first root)) := by
  simp only [locate, concat, walk_append]
  congr 1
  funext middle
  exact
    walk_behind first root middle.typeName 0 second.steps middle

/- The place that two plans in sequence lead to. -/
theorem locatePlace_concat
    (first second : Plan)
    (root : Value) :
    (first.concat second).locatePlace root =
      (first.locatePlace root).bind (fun outer =>
        ((second.locatePlace outer.node).mapError
            (fun e => e.behind first root)).map
          outer.inside) := by
  simp only [locatePlace, concat, walkPlace_append]
  congr 1
  funext outer
  exact
    walkPlace_behind first root outer.node.typeName 0
      second.steps outer (.root outer.node)

------------------------------------------------------------
-- Writes
------------------------------------------------------------

omit [RecordKeys] in
/- The last step of two plans in sequence is in the second. -/
theorem splitLast?_concat
    {second front : Plan}
    {last : LocatedStep}
    (first : Plan)
    (hSplit : second.splitLast? = some (front, last)) :
    (first.concat second).splitLast? =
      some (first.concat front, last) := by
  apply splitLast?_of_steps
  simp only [concat, steps_of_splitLast? hSplit,
    List.append_assoc]

omit [RecordKeys] in
/- A plan with steps has a last one. -/
theorem exists_splitLast?
    {plan : Plan}
    (hSteps : plan.steps ≠ []) :
    ∃ front last, plan.splitLast? = some (front, last) := by
  rcases (List.eq_nil_or_concat plan.steps).resolve_left hSteps
    with ⟨front, last, hConcat⟩
  rw [List.concat_eq_append] at hConcat
  exact ⟨⟨front⟩, last, splitLast?_of_steps hConcat⟩

/-
  Nothing is written behind a plan that leads nowhere; the
  miss is its own.
-/
theorem assign_concat_of_error
    {first second : Plan}
    {root : Value}
    {e : PathNotFound}
    (hSteps : second.steps ≠ [])
    (hMiss : first.locatePlace root = .error e)
    (x : Value) :
    (first.concat second).assign root x =
      ⟨.refuse root (.notFound e), [.missed e]⟩ := by
  rcases exists_splitLast? hSteps with ⟨front, last, hSplit⟩
  have hFront :
      (first.concat front).locatePlace root = .error e := by
    rw [locatePlace_concat, hMiss]
    rfl
  unfold assign
  rw [splitLast?_concat first hSplit]
  simp only [resolvePlace, hFront]
  rfl

/-
  To write through two plans in sequence is to write through
  the second at the place that the first leads to.
-/
theorem assign_concat_of_ok
    {first second : Plan}
    {root : Value}
    {outer : Place}
    (hSteps : second.steps ≠ [])
    (hOuter : first.locatePlace root = .ok outer)
    (x : Value) :
    (first.concat second).assign root x =
      (second.assign outer.node x).behind first root outer := by
  rcases exists_splitLast? hSteps with ⟨front, last, hSplit⟩
  have hFront :
      (first.concat front).locatePlace root =
        ((front.locatePlace outer.node).mapError
            (fun e => e.behind first root)).map
          outer.inside := by
    rw [locatePlace_concat, hOuter]
    rfl
  unfold assign
  rw [splitLast?_concat first hSplit, hSplit]
  simp only [resolvePlace, hFront]
  cases front.locatePlace outer.node with
  | error e =>
      -- What is put back at the place is what stands there.
      have hSame := put_node_of_locatePlace hOuter
      simp [mapError_error, Except.map, traced, Logged.bind,
        Logged.ofValue, Write.behind, Update.within,
        Update.mapError, Update.refuse, AccessError.behind,
        Event.behind, hSame]
  | ok place =>
      simp only [mapError_ok, Except.map, traced,
        Logged.bind, Logged.ofValue, Write.behind,
        Update.within, Update.mapError, Place.inside]
      cases (last.step.assign place.node x).result with
      | ok done => rfl
      | error e => rfl

------------------------------------------------------------
-- Composition
------------------------------------------------------------

/-
  What two plans in sequence read, find a place for and write.
  A miss of the first is told as it is; one of the second is
  told from the root of the first.
-/
structure Composes
    (first second : Plan)
    (root : Value) : Prop where
  -- Reads.
  leads :
    ∀ v,
      ((first.concat second).resolve root).value = .ok v ↔
        ∃ middle,
          (first.resolve root).value = .ok middle ∧
            (second.resolve middle).value = .ok v
  misses_first :
    ∀ e,
      (first.resolve root).value = .error e →
        (first.concat second).resolve root =
          first.resolve root
  misses_second :
    ∀ middle e,
      (first.resolve root).value = .ok middle →
        (second.resolve middle).value = .error e →
          ((first.concat second).resolve root).value =
            .error (e.behind first root)
  -- Places that can be written.
  place :
    ∀ outer inner,
      (first.resolvePlace root).value = .ok outer →
        (second.resolvePlace outer.node).value = .ok inner →
          ((first.concat second).resolvePlace root).value =
            .ok (outer.inside inner)
  place_misses_first :
    ∀ e,
      (first.resolvePlace root).value = .error e →
        (first.concat second).resolvePlace root =
          first.resolvePlace root
  place_misses_second :
    ∀ outer e,
      (first.resolvePlace root).value = .ok outer →
        (second.resolvePlace outer.node).value = .error e →
          ((first.concat second).resolvePlace root).value =
            .error (e.behind first root)
  -- Writes.
  assign :
    second.steps ≠ [] →
      ∀ outer x,
        (first.resolvePlace root).value = .ok outer →
          (first.concat second).assign root x =
            (second.assign outer.node x).behind first root
              outer
  assign_misses_first :
    second.steps ≠ [] →
      ∀ e x,
        (first.resolvePlace root).value = .error e →
          (first.concat second).assign root x =
            ⟨.refuse root (.notFound e), [.missed e]⟩

/-
  Plans form a monoid under concatenation, with the plan that
  stays at the root as its unit, and to walk them one behind
  the other is to compose their walks.
-/
theorem concat_composes
    (first second : Plan)
    (root : Value) :
    (∀ third : Plan,
        (first.concat second).concat third =
          first.concat (second.concat third)) ∧
      Plan.empty.concat first = first ∧
        first.concat .empty = first ∧
          first.Composes second root := by
  refine ⟨?_, rfl, ?_, ?_⟩
  · intro third
    simp only [concat, List.append_assoc]
  · simp only [concat, empty, List.append_nil]
  · constructor
    case leads =>
      intro v
      simp only [resolve, value_traced, locate_concat]
      cases first.locate root with
      | error e => simp [Except.bind]
      | ok middle =>
          simp only [Except.bind, Except.ok.injEq,
            exists_eq_left']
          cases second.locate middle with
          | error e => simp [mapError_error]
          | ok w => simp [mapError_ok]
    case misses_first =>
      intro e hMiss
      simp only [resolve, value_traced] at hMiss
      simp only [resolve, locate_concat, hMiss]
      rfl
    case misses_second =>
      intro middle e hFirst hMiss
      simp only [resolve, value_traced] at hFirst hMiss
      simp only [resolve, value_traced, locate_concat, hFirst]
      simp only [Except.bind, hMiss]
      rfl
    case place =>
      intro outer inner hFirst hSecond
      simp only [resolvePlace, value_traced]
        at hFirst hSecond
      simp only [resolvePlace, value_traced,
        locatePlace_concat, hFirst]
      simp only [Except.bind, hSecond]
      rfl
    case place_misses_first =>
      intro e hMiss
      simp only [resolvePlace, value_traced] at hMiss
      simp only [resolvePlace, locatePlace_concat, hMiss]
      rfl
    case place_misses_second =>
      intro outer e hFirst hMiss
      simp only [resolvePlace, value_traced] at hFirst hMiss
      simp only [resolvePlace, value_traced,
        locatePlace_concat, hFirst]
      simp only [Except.bind, hMiss]
      rfl
    case assign =>
      intro hSteps outer x hFirst
      simp only [resolvePlace, value_traced] at hFirst
      exact assign_concat_of_ok hSteps hFirst x
    case assign_misses_first =>
      intro hSteps e x hMiss
      simp only [resolvePlace, value_traced] at hMiss
      exact assign_concat_of_error hSteps hMiss x

end Composition

/-
  A miss behind a row of an attribute is told with the steps
  to the row; a new entry of the row goes into the whole tree.
-/
theorem concat_composes_row :
    let number (n : Int) : Value :=
      .scalar (.integer ⟨true, .w32⟩ n)
    let elem : Shape := .scalar (.integer ⟨true, .w32⟩)
    let row (entries : List (String × Value)) : Value :=
      .dictionary .ordered elem entries
    let tree (last : Value) : Value :=
      .object
        (.insert .empty "rows"
          (.sequence .vector (.dictionary .ordered elem)
            [row [], last])) []
    let last := row [("k", number 5)]
    let root := tree last
    let first :=
      Plan.ofSteps [.named "rows", .keyed (.index 1)]
    let lost :=
      Plan.ofSteps [.keyed (.name "k"), .named "z"]
    let entry := Plan.ofSteps [.keyed (.name "l")]
    let miss := StepMiss.on .noSuchField (number 5)
    (first.resolve root).value = .ok last ∧
      (lost.resolve last).value =
          .error
            ⟨.ofStep (.named "z"), 1, last.typeName, miss⟩ ∧
        ((first.concat lost).resolve root).value =
            .error
              ⟨.ofStep (.named "z"), 3, root.typeName, miss⟩ ∧
          entry.steps ≠ [] ∧
            (entry.assign last (number 9)).value =
                .done
                  (row [("k", number 5), ("l", number 9)]) ∧
              ((first.concat entry).assign root
                  (number 9)).value =
                .done
                  (tree
                    (row
                      [("k", number 5), ("l", number 9)])) := by
  intro number elem row tree last root first lost entry miss
  rcases concat_composes first lost root with
    ⟨_, _, _, hLost⟩
  rcases concat_composes first entry root with
    ⟨_, _, _, hEntry⟩
  have hFirst : (first.resolve root).value = .ok last := rfl
  have hMiss :
      (lost.resolve last).value =
        .error
          ⟨.ofStep (.named "z"), 1, last.typeName, miss⟩ :=
    rfl
  have hSteps : entry.steps ≠ [] := by
    simp [entry, ofSteps]
  have hWrite :
      (entry.assign last (number 9)).value =
        .done (row [("k", number 5), ("l", number 9)]) := by
    rfl
  refine
    ⟨hFirst, hMiss, hLost.misses_second last _ hFirst hMiss,
      hSteps, hWrite, ?_⟩
  rw [hEntry.assign hSteps _ (number 9) rfl]
  rfl

end Plan

end TreePath
