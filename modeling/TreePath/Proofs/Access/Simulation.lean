import TreePath.Proofs.Access.Composition
import TreePath.Proofs.Tree.Mirror

/-
  Access to documents and to containers of documents.  No plan
  tells the one from the other, be it read or written, but by
  the names of types; the other documents have nothing to walk
  into.

  Key definitions include:
    * `PathNotFound.untyped`
    * `AccessError.untyped`
    * `Plan.Simulates`
    * `Value.Bare`

  Main statements:
    * `Plan.locate_mirrors`
    * `Plan.assign_mirrors`
    * `Plan.documents_simulate`
-/

------------------------------------------------------------
-- Errors without Types
------------------------------------------------------------

namespace TreePath

/- A miss without the name of a type. -/
def StepMiss.untyped
    (miss : StepMiss) : StepMiss :=
  { miss with typeName := "" }

/- The same for a miss on a walk. -/
def PathNotFound.untyped
    (e : PathNotFound) : PathNotFound :=
  { e with rootType := "", miss := e.miss.untyped }

/- The same for any error of an access. -/
def AccessError.untyped : AccessError → AccessError
| .notFound e => .notFound e.untyped
| .refused e => .refused e.untyped
| .invalidDowncast _ _ => .invalidDowncast "" ""
| e => e

/- The refusal of a write that an access passes on. -/
theorem untyped_refused
    (result : Except AssignError Unit) :
    (result.mapError AccessError.refused).mapError
        AccessError.untyped =
      (result.mapError AssignError.untyped).mapError
        AccessError.refused := by
  rw [mapError_mapError, mapError_mapError]
  rfl

------------------------------------------------------------
-- Steps into a Document
------------------------------------------------------------

section Simulation

variable [RecordKeys]

namespace Step

variable {v w : Value}

/- What is found in a document is a document. -/
theorem type_of_resolve
    {step : Step}
    {v child : Value}
    (hDocument : v.type = .json)
    (hChild : step.resolve v = .ok child) :
    child.type = .json := by
  rcases Value.exists_json_of_type hDocument with ⟨j, rfl⟩
  cases step with
  | keyed key =>
      simp only [resolve] at hChild
      split at hChild
      · split at hChild
        · rename_i found hFound
          rcases Except.ok.inj hChild with rfl
          exact Value.type_of_entry? hFound
        · cases hChild
      · cases hChild
  | named name =>
      simp only [resolve, Value.field?] at hChild
      split at hChild
      · rename_i found hFound
        rcases Except.ok.inj hChild with rfl
        exact Value.type_of_entry? hFound
      · cases hChild

/- What is no document is not written into one. -/
theorem assign_of_type_ne
    {v x : Value}
    (hDocument : v.type = .json)
    (hForeign : x.type ≠ .json)
    (step : Step) :
    ∃ e, step.assign v x = .refuse v e := by
  rcases Value.exists_json_of_type hDocument with ⟨j, rfl⟩
  cases step with
  | keyed key =>
      simp only [assign]
      split
      · exact
          ⟨_, Value.setEntry_json_of_type_ne hForeign j key⟩
      · exact ⟨_, rfl⟩
  | named name => exact ⟨_, rfl⟩

/-
  The places that a step leads to in both of a pair, if it
  leads anywhere.
-/
inductive PlacesMirror :
    Except StepMiss Place → Except StepMiss Place → Prop
| found
    {p q : Place}
    (hPlaces : p.Mirrors q) :
    PlacesMirror (.ok p) (.ok q)
| missed
    {miss other : StepMiss}
    (hMisses : miss.untyped = other.untyped) :
    PlacesMirror (.error miss) (.error other)

/- These places mirror each other. -/
theorem resolvePlace_mirrors
    (hMirrors : v.Mirrors w)
    (step : Step) :
    PlacesMirror (step.resolvePlace v)
      (step.resolvePlace w) := by
  have hMiss (reason : MissReason) :
      (StepMiss.on reason v).untyped =
        (StepMiss.on reason w).untyped := by
    simp only [StepMiss.on, StepMiss.untyped, hMirrors.kind_eq]
  cases step with
  | keyed key =>
      have hPlace := hMirrors.entryPlace? key
      simp only [resolvePlace, hMirrors.isKeyed, if_true]
      generalize v.entryPlace? key = p? at hPlace ⊢
      generalize w.entryPlace? key = q? at hPlace ⊢
      cases hPlace with
      | some hPlaces => exact .found hPlaces
      | none => exact .missed (hMiss .noSuchKey)
  | named name =>
      have hPlace := hMirrors.entryPlace? (.name name)
      simp only [resolvePlace, hMirrors.field?_eq,
        Option.isSome_none, Bool.false_eq_true, if_false]
      generalize v.entryPlace? (.name name) = p? at hPlace ⊢
      generalize w.entryPlace? (.name name) = q? at hPlace ⊢
      cases hPlace with
      | some hPlaces => exact .found hPlaces
      | none => exact .missed (hMiss .noSuchField)

/- A document is written into both alike. -/
theorem assign_mirrors
    (hMirrors : v.Mirrors w)
    (step : Step)
    (j : Json) :
    (step.assign v (.json j)).Mirrors
      (step.assign w (.json j)) := by
  cases step with
  | keyed key =>
      simp only [assign, hMirrors.isKeyed, if_true]
      exact hMirrors.setEntry key j
  | named name =>
      simp only [assign, hMirrors.hasFields,
        Bool.false_eq_true, if_false]
      exact ⟨hMirrors, rfl⟩

/- What is no document is written into neither. -/
theorem assign_mirror_of_type_ne
    {x : Value}
    (hMirrors : v.Mirrors w)
    (hForeign : x.type ≠ .json)
    (step : Step) :
    ∃ e, step.assign w x = .refuse w e := by
  cases step with
  | keyed key =>
      simp only [assign, hMirrors.isKeyed, if_true]
      exact hMirrors.setEntry_of_type_ne hForeign key
  | named name =>
      simp only [assign, hMirrors.hasFields,
        Bool.false_eq_true, if_false]
      exact ⟨_, rfl⟩

end Step

------------------------------------------------------------
-- Plans of a Single Step
------------------------------------------------------------

namespace Plan

/- A single step is a plan. -/
def single
    (step : LocatedStep) : Plan :=
  ⟨[step]⟩

/- A step that misses does so at the root. -/
def missAt
    (step : LocatedStep)
    (root : Value)
    (miss : StepMiss) : PathNotFound :=
  ⟨step, 0, root.typeName, miss⟩

omit [RecordKeys] in
/- The root does not show, but by the name of its type. -/
theorem untyped_missAt
    {miss other : StepMiss}
    (hMisses : miss.untyped = other.untyped)
    (step : LocatedStep)
    (v w : Value) :
    (missAt step v miss).untyped =
      (missAt step w other).untyped := by
  simp only [missAt, PathNotFound.untyped, hMisses]

/- Where a single step leads. -/
theorem locate_single
    (step : LocatedStep)
    (root : Value) :
    (single step).locate root =
      (step.step.resolve root).mapError
        (missAt step root) := by
  simp only [locate, single, walk]
  cases step.step.resolve root with
  | error miss => rfl
  | ok child => rfl

/- The place that a single step leads to. -/
theorem locatePlace_single
    (step : LocatedStep)
    (root : Value) :
    (single step).locatePlace root =
      (step.step.resolvePlace root).mapError
        (missAt step root) := by
  have hNode : (Place.root root).node = root := rfl
  simp only [locatePlace, single, walkPlace, hNode]
  cases step.step.resolvePlace root with
  | error miss => rfl
  | ok place => rfl

/- What a single step writes. -/
theorem assign_single
    (step : LocatedStep)
    (root x : Value) :
    (single step).assign root x =
      .ofValue
        ((step.step.assign root x).mapError .refused) :=
  rfl

------------------------------------------------------------
-- Walks through Documents
------------------------------------------------------------

/- What a plan leads to in a document is a document. -/
theorem type_of_walk
    {rootType : String}
    {depth : Nat}
    {steps : List LocatedStep}
    {v w : Value}
    (hDocument : v.type = .json)
    (hWalk : walk rootType depth steps v = .ok w) :
    w.type = .json := by
  induction steps generalizing depth v with
  | nil =>
      rcases Except.ok.inj hWalk with rfl
      exact hDocument
  | cons step steps ih =>
      simp only [walk] at hWalk
      split at hWalk
      · rename_i child hStep
        exact ih (Step.type_of_resolve hDocument hStep) hWalk
      · cases hWalk

/- What is no document is not written into one at any depth. -/
theorem assign_of_type_ne
    {v x : Value}
    (hDocument : v.type = .json)
    (hForeign : x.type ≠ .json)
    (plan : Plan) :
    ∃ e, (plan.assign v x).value.result = .error e := by
  by_cases hNone : plan.steps = []
  · exact ⟨_, result_assign_of_nil hNone v x⟩
  · rcases exists_splitLast? hNone with ⟨front, last, hSplit⟩
    rw [result_assign_of_concat (steps_of_splitLast? hSplit)]
    cases hFront : (front.resolve v).value with
    | error e => exact ⟨_, rfl⟩
    | ok holder =>
        simp only [resolve, value_traced] at hFront
        have hHolder := type_of_walk hDocument hFront
        rcases
            Step.assign_of_type_ne hHolder hForeign last.step
          with ⟨e, hRefused⟩
        simp only [hRefused]
        exact ⟨_, rfl⟩

/-
  The value that a plan leads to is the same in both of a
  pair, unless the plan stays at the root.
-/
theorem locate_mirrors
    {v w : Value}
    (hMirrors : v.Mirrors w)
    (step : LocatedStep)
    (rest : Plan) :
    (((single step).concat rest).locate v).mapError
        PathNotFound.untyped =
      (((single step).concat rest).locate w).mapError
        PathNotFound.untyped := by
  have hStep := Step.resolvePlace_mirrors hMirrors step.step
  rw [locate_concat, locate_concat, locate_single,
    locate_single, ← Step.map_node_resolvePlace,
    ← Step.map_node_resolvePlace]
  generalize step.step.resolvePlace v = p? at hStep ⊢
  generalize step.step.resolvePlace w = q? at hStep ⊢
  cases hStep with
  | missed hMisses =>
      exact
        congrArg Except.error (untyped_missAt hMisses step v w)
  | @found p q hPlaces =>
      -- The walks go on from one node, behind different roots.
      simp only [Except.map, mapError_ok, Except.bind,
        hPlaces.node]
      cases rest.locate q.node with
      | error e => rfl
      | ok found => rfl

/- What a write does to both of a pair. -/
structure WritesMirror
    (x : Value)
    (left right : Update AccessError) : Prop where
  node : left.node.Mirrors right.node
  document :
    x.type = .json →
      left.result.mapError AccessError.untyped =
        right.result.mapError AccessError.untyped
  foreign :
    x.type ≠ .json → ∃ e, right.result = .error e

/- A write through a single step. -/
theorem assign_single_mirrors
    {v w : Value}
    (hMirrors : v.Mirrors w)
    (step : LocatedStep)
    (x : Value) :
    WritesMirror x ((single step).assign v x).value
      ((single step).assign w x).value := by
  rw [assign_single, assign_single]
  by_cases hDocument : x.type = .json
  · rcases Value.exists_json_of_type hDocument with ⟨j, rfl⟩
    have hStep := Step.assign_mirrors hMirrors step.step j
    refine ⟨hStep.node, ?_, absurd hDocument⟩
    intro _
    simp only [Logged.ofValue, Update.mapError]
    rw [untyped_refused, untyped_refused, hStep.result]
  · rcases
        Step.assign_of_type_ne hMirrors.document hDocument
          step.step
      with ⟨e, hLeft⟩
    rcases
        Step.assign_mirror_of_type_ne hMirrors hDocument
          step.step
      with ⟨e', hRight⟩
    simp only [Logged.ofValue, hLeft, hRight]
    exact
      ⟨hMirrors, fun hSame => absurd hSame hDocument,
        fun _ => ⟨_, rfl⟩⟩

/- A write further inside. -/
theorem assign_concat_mirrors
    {v w : Value}
    (hMirrors : v.Mirrors w)
    (step : LocatedStep)
    {rest : Plan}
    (hSteps : rest.steps ≠ [])
    (x : Value) :
    WritesMirror x (((single step).concat rest).assign v x).value
      (((single step).concat rest).assign w x).value := by
  have hStep := Step.resolvePlace_mirrors hMirrors step.step
  have hLeft := locatePlace_single step v
  have hRight := locatePlace_single step w
  generalize step.step.resolvePlace v = p? at hStep hLeft
  generalize step.step.resolvePlace w = q? at hStep hRight
  cases hStep with
  | @missed miss other hMisses =>
      rw [assign_concat_of_error hSteps hLeft,
        assign_concat_of_error hSteps hRight]
      refine ⟨hMirrors, ?_, fun _ => ⟨_, rfl⟩⟩
      intro _
      exact
        congrArg (fun e => Except.error (AccessError.notFound e))
          (untyped_missAt hMisses step v w)
  | @found p q hPlaces =>
      rw [assign_concat_of_ok hSteps hLeft,
        assign_concat_of_ok hSteps hRight, hPlaces.node]
      have hNode : q.node.type = .json := by
        rw [← hPlaces.node]
        exact hPlaces.document
      have hType :=
        (edits_assign rest q.node x).type_node.trans hNode
      rcases Value.exists_json_of_type hType with ⟨j, hJson⟩
      constructor
      case node =>
        simp only [Write.behind, Update.within,
          Update.mapError, hJson]
        exact hPlaces.put j
      case document =>
        intro _
        simp only [Write.behind, Update.within,
          Update.mapError, mapError_mapError]
        cases (rest.assign q.node x).value.result with
        | ok done => rfl
        | error e =>
            cases e with
            | _ => rfl
      case foreign =>
        intro hForeign
        rcases assign_of_type_ne hNode hForeign rest with
          ⟨e, hRefused⟩
        simp only [Write.behind, Update.within,
          Update.mapError, hRefused]
        exact ⟨_, rfl⟩

/- The same for any plan. -/
theorem assign_mirrors
    {v w : Value}
    (hMirrors : v.Mirrors w)
    (plan : Plan)
    (x : Value) :
    WritesMirror x (plan.assign v x).value
      (plan.assign w x).value := by
  rcases plan with ⟨steps⟩
  cases steps with
  | nil => exact ⟨hMirrors, fun _ => rfl, fun _ => ⟨_, rfl⟩⟩
  | cons step rest =>
      by_cases hRest : rest = []
      · subst hRest
        exact assign_single_mirrors hMirrors step x
      · have hSteps : (Plan.mk rest).steps ≠ [] := hRest
        exact assign_concat_mirrors hMirrors step hSteps x

/-
  What is no document meets a holder with entries in a
  document, and its type is named.
-/
theorem assign_of_holder
    {plan front : Plan}
    {key : Key}
    {offset : Option Nat}
    {v x holder : Value}
    (hDocument : v.type = .json)
    (hForeign : x.type ≠ .json)
    (hSteps :
      plan.steps = front.steps ++ [⟨.keyed key, offset⟩])
    (hHolder : (front.resolve v).value = .ok holder)
    (hContainer : holder.isContainer = true) :
    (plan.assign v x).value.result =
      .error
        (.refused
          (.mismatchedTypes Shape.json.typeName
            x.typeName)) := by
  have hFound := hHolder
  simp only [resolve, value_traced] at hFound
  have hType := type_of_walk hDocument hFound
  rcases Value.exists_json_of_type hType with ⟨j, rfl⟩
  have hKeyed : (Value.json j).isKeyed = true := hContainer
  rw [result_assign_of_concat hSteps, hHolder]
  simp only [Step.assign, hKeyed, if_true,
    Value.setEntry_json_of_type_ne hForeign]
  rfl

------------------------------------------------------------
-- Simulation
------------------------------------------------------------

/-
  What a plan reads and writes in two trees that cannot be
  told apart.  Reads end at the same value or miss alike, and
  writes leave trees that cannot be told apart.  A document is
  refused alike; anything else is refused in both, and by a
  holder with entries in the first for its type.
-/
structure Simulates
    (plan : Plan)
    (v w x : Value) : Prop where
  -- Reads, and places that can be written.
  count : v.keyCount? = w.keyCount?
  at_root :
    plan.steps = [] →
      (plan.resolve v).value = .ok v ∧
        (plan.resolve w).value = .ok w
  resolve :
    plan.steps ≠ [] →
      (plan.resolve v).value.mapError PathNotFound.untyped =
        (plan.resolve w).value.mapError PathNotFound.untyped
  place :
    plan.steps ≠ [] →
      ((plan.resolvePlace v).value.map Place.node).mapError
          PathNotFound.untyped =
        ((plan.resolvePlace w).value.map Place.node).mapError
          PathNotFound.untyped
  place_at_root :
    plan.steps = [] →
      (plan.resolvePlace v).value = .ok (.root v) ∧
        (plan.resolvePlace w).value = .ok (.root w)
  -- Writes.
  node :
    (plan.assign v x).value.node.Mirrors
      (plan.assign w x).value.node
  done :
    (plan.assign v x).value.result = .ok () ↔
      (plan.assign w x).value.result = .ok ()
  document :
    x.type = .json →
      (plan.assign v x).value.result.mapError
          AccessError.untyped =
        (plan.assign w x).value.result.mapError
          AccessError.untyped
  foreign :
    x.type ≠ .json →
      (∃ e, (plan.assign v x).value.result = .error e) ∧
        ∃ e, (plan.assign w x).value.result = .error e
  mismatch :
    x.type ≠ .json →
      ∀ (front : Plan) key offset holder,
        plan.steps = front.steps ++ [⟨.keyed key, offset⟩] →
          (front.resolve v).value = .ok holder →
            holder.isContainer = true →
              (plan.assign v x).value.result =
                .error
                  (.refused
                    (.mismatchedTypes Shape.json.typeName
                      x.typeName))

end Plan

/-
  A value without fields and entries, be it read or written.
-/
structure Value.Bare
    (v : Value) : Prop where
  keyed : v.isKeyed = false ∧ v.keyCount? = none
  fields : v.hasFields = false ∧ v.fieldNames? = none
  resolve_keyed :
    ∀ key,
      (Step.keyed key).resolve v =
        .error (.on .notKeyed v)
  resolve_named :
    ∀ name,
      (Step.named name).resolve v =
        .error (.on .noSuchField v)
  place_keyed :
    ∀ key,
      (Step.keyed key).resolvePlace v =
        .error (.on .notKeyed v)
  place_named :
    ∀ name,
      (Step.named name).resolvePlace v =
        .error (.on .noSuchField v)
  assign_keyed :
    ∀ key x,
      (Step.keyed key).assign v x =
        .refuse v (.notKeyed v.typeName)
  assign_named :
    ∀ name x,
      (Step.named name).assign v x =
        .refuse v (.noFields v.typeName)

/- Documents that hold no others are bare. -/
theorem Value.bare_json
    {j : Json}
    (hObject : ∀ members, j ≠ .object members)
    (hArray : ∀ items, j ≠ .array items) :
    (Value.json j).Bare := by
  cases j with
  | object members => exact absurd rfl (hObject members)
  | array items => exact absurd rfl (hArray items)
  | _ =>
      exact
        ⟨⟨rfl, rfl⟩, ⟨rfl, rfl⟩, fun _ => rfl, fun _ => rfl,
          fun _ => rfl, fun _ => rfl, fun _ _ => rfl,
          fun _ _ => rfl⟩

namespace Plan

/-
  Documents that hold others cannot be told from the
  containers that hold the same, and those that hold none are
  bare.
-/
theorem documents_simulate :
    (∀ (v w : Value) (plan : Plan) (x : Value),
        v.Mirrors w → plan.Simulates v w x) ∧
      ∀ j : Json,
        (∀ members, j ≠ .object members) →
          (∀ items, j ≠ .array items) →
            (Value.json j).Bare := by
  refine ⟨?_, fun _ => Value.bare_json⟩
  intro v w plan x hMirrors
  have hWrites := assign_mirrors hMirrors plan x
  have hReads :
      plan.steps ≠ [] →
        (plan.resolve v).value.mapError PathNotFound.untyped =
          (plan.resolve w).value.mapError
            PathNotFound.untyped := by
    intro hSteps
    rcases plan with ⟨_ | ⟨step, rest⟩⟩
    · exact absurd rfl hSteps
    · simp only [resolve, value_traced]
      exact locate_mirrors hMirrors step ⟨rest⟩
  have hForeign :
      x.type ≠ .json →
        ∃ e, (plan.assign v x).value.result = .error e :=
    fun hOther =>
      assign_of_type_ne hMirrors.document hOther plan
  constructor
  case count => exact hMirrors.keyCount?_eq
  case at_root =>
    intro hSteps
    simp only [resolve, locate, hSteps]
    exact ⟨rfl, rfl⟩
  case resolve => exact hReads
  case place =>
    intro hSteps
    have hRead := hReads hSteps
    rwa [← map_node_resolvePlace, ← map_node_resolvePlace]
      at hRead
  case place_at_root =>
    intro hSteps
    simp only [resolvePlace, locatePlace, hSteps]
    exact ⟨rfl, rfl⟩
  case node => exact hWrites.node
  case done =>
    by_cases hDocument : x.type = .json
    · have hSame := hWrites.document hDocument
      rw [← Step.mapError_eq_ok_iff AccessError.untyped, hSame,
        Step.mapError_eq_ok_iff]
    · rcases hForeign hDocument with ⟨e, hLeft⟩
      rcases hWrites.foreign hDocument with ⟨e', hRight⟩
      rw [hLeft, hRight]
      simp
  case document => exact hWrites.document
  case foreign =>
    intro hOther
    exact ⟨hForeign hOther, hWrites.foreign hOther⟩
  case mismatch =>
    intro hOther front key offset holder hSteps hHolder
      hContainer
    exact
      assign_of_holder hMirrors.document hOther hSteps hHolder
        hContainer

end Plan

end Simulation

namespace Plan

/-
  A position that an array inside does not have is missed and
  refused alike; a truth value is refused there for its type.
-/
theorem documents_simulate_array :
    let members : List (String × Json) :=
      [("a", .array [.ofNat 1]), ("b", .null)]
    let v : Value := .json (.object members)
    let w : Value :=
      .dictionary .ordered .json (Entries.map .json members)
    let a : Plan := ofSteps [.keyed (.name "a")]
    let plan : Plan :=
      ofSteps [.keyed (.name "a"), .keyed (.index 5)]
    let truth : Value := .scalar (.bool true)
    v.Mirrors w ∧
      (plan.resolve v).value.mapError PathNotFound.untyped =
          .error
            ⟨.ofStep (.keyed (.index 5)), 1, "",
              ⟨.noSuchKey, .list, ""⟩⟩ ∧
        (plan.assign v (.json .null)).value.result.mapError
              AccessError.untyped =
            .error (.refused (.indexOutOfBounds 5 1 "")) ∧
          (plan.assign v truth).value.result =
              .error
                (.refused
                  (.mismatchedTypes "serde_json::value::Value"
                    "bool")) ∧
            (a.assign v (.json .null)).value.node.Mirrors
                (.dictionary .ordered .json
                  [("a", .json .null), ("b", .json .null)]) ∧
              (Step.keyed (.index 0)).resolve (.json .null) =
                .error (.on .notKeyed (.json .null)) := by
  intro members v w a plan truth
  have hMirrors : v.Mirrors w := .object members
  have hSteps : plan.steps ≠ [] := by
    simp [plan, ofSteps]
  have hNull :=
    documents_simulate.1 v w plan (.json .null) hMirrors
  have hTruth := documents_simulate.1 v w plan truth hMirrors
  have hWhole :=
    documents_simulate.1 v w a (.json .null) hMirrors
  have hBare :=
    documents_simulate.2 .null (by simp) (by simp)
  refine
    ⟨hMirrors, (hNull.resolve hSteps).trans ?_,
      (hNull.document rfl).trans ?_, ?_, hWhole.node,
      hBare.resolve_keyed (.index 0)⟩
  · rfl
  · rfl
  · exact
      hTruth.mismatch
        (by simp [truth, Value.type, Value.shape, Shape.nominal])
        a _ _ _ rfl rfl rfl

end Plan

end TreePath
