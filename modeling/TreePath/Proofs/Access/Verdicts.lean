import TreePath.Proofs.Access.Overwriting
import TreePath.Proofs.Tree.Acceptance

/-
  Which writes take place, and why the others do not.  What a
  write through a plan comes to depends on whether the plan
  has steps, where all but the last lead, and what the value
  there takes.  The code of a record decides on its keys.

  Key definitions include:
    * `Value.Accepts`
    * `Value.Refuses`
    * `Value.Decides`

  Main statements:
    * `Step.verdict_assign`
    * `Plan.assign_decided`
-/

------------------------------------------------------------
-- What Is Accepted and What Is Refused
------------------------------------------------------------

namespace TreePath

/- The type of a visible field. -/
def Declaration.visibleType?
    (d : Declaration Shape)
    (name : String) : Option Shape :=
  match d.visible? name with
  | none => none
  | some i => d.fields[i]?.map (fun f => f.type.nominal)

section Verdicts

variable [RecordKeys]

namespace Value

/-
  The writes that a value takes: of entries that a container
  takes or that the code of a record writes, of any attribute
  of an object, and of a visible field of a record by a value
  of exactly its type.
-/
inductive Accepts : Value → Step → Value → Prop
| entry
    {v x : Value}
    {key : Key}
    (hAccepts : v.AcceptsEntry key x) :
    Accepts v (.keyed key) x
| answered
    {d : Declaration Shape}
    {fields after : List Value}
    {code : KeyCode}
    {key : Key}
    {x : Value}
    (hCode : RecordKeys.code? d = some code)
    (hSet : code.set fields key x = .ok after) :
    Accepts (.record d fields) (.keyed key) x
| attr
    {attributes : Attributes Value}
    {entries : List (String × Value)}
    {name : String}
    {x : Value} :
    Accepts (.object attributes entries) (.named name) x
| field
    {d : Declaration Shape}
    {fields : List Value}
    {name : String}
    {x : Value}
    (hType : d.visibleType? name = some x.type) :
    Accepts (.record d fields) (.named name) x

/-
  The writes that a value refuses, and the reasons.  A key
  asks for entries and a name for fields; neither stands in
  for the other.
-/
inductive Refuses : Value → Step → Value → AssignError → Prop
| notKeyed
    {v x : Value}
    {key : Key}
    (hKeyed : v.isKeyed = false) :
    Refuses v (.keyed key) x (.notKeyed v.typeName)
| entry
    {v x : Value}
    {key : Key}
    {e : AssignError}
    (hContainer : v.isContainer = true)
    (hFault : v.FirstFault key x e) :
    Refuses v (.keyed key) x e
| answered
    {d : Declaration Shape}
    {fields : List Value}
    {code : KeyCode}
    {key : Key}
    {x : Value}
    {e : AssignError}
    (hCode : RecordKeys.code? d = some code)
    (hSet : code.set fields key x = .error e) :
    Refuses (.record d fields) (.keyed key) x e
| noFields
    {v x : Value}
    {name : String}
    (hFields : v.hasFields = false) :
    Refuses v (.named name) x (.noFields v.typeName)
| unknownField
    {d : Declaration Shape}
    {fields : List Value}
    {name : String}
    {x : Value}
    (hUnknown : d.visibleType? name = none) :
    Refuses (.record d fields) (.named name) x
      (.unknownField name d.typeName)
| wrongType
    {d : Declaration Shape}
    {fields : List Value}
    {name : String}
    {asked : Shape}
    {x : Value}
    (hAsked : d.visibleType? name = some asked)
    (hType : x.type ≠ asked) :
    Refuses (.record d fields) (.named name) x
      (.mismatchedTypes asked.typeName x.typeName)

/-
  A value decides on a write through a step.  Of the writes to
  names, one to a value without fields is refused, whatever
  the name may be read as.
-/
structure Decides
    (v : Value)
    (step : Step)
    (x : Value)
    (result : Except AccessError Unit) : Prop where
  accepted : result = .ok () ↔ v.Accepts step x
  refused :
    ∀ e,
      result = .error e ↔
        ∃ r, e = .refused r ∧ v.Refuses step x r
  named :
    ∀ name,
      step = .named name →
        v.hasFields = false →
          result = .error (.refused (.noFields v.typeName))

variable {v x : Value} {step : Step}

/- Containers answer keys. -/
theorem isKeyed_of_isContainer
    (hContainer : v.isContainer = true) :
    v.isKeyed = true := by
  cases v with
  | record d fields => cases hContainer
  | _ => exact hContainer

/- No write is both accepted and refused. -/
theorem Accepts.not_refuses
    (hAccepts : v.Accepts step x)
    (e : AssignError) :
    ¬ v.Refuses step x e := by
  intro hRefuses
  cases hAccepts with
  | entry hEntry =>
      cases hRefuses with
      | notKeyed hKeyed =>
          have hContainer :=
            isContainer_of_answersKey hEntry.answersKey
          rw [isKeyed_of_isContainer hContainer] at hKeyed
          cases hKeyed
      | entry hContainer hFault =>
          exact hEntry.not_entryFault hFault.applies
      | answered hCode hSet => cases hEntry.answersKey
  | answered hCode hSet =>
      cases hRefuses with
      | notKeyed hKeyed => simp [isKeyed, hCode] at hKeyed
      | entry hContainer hFault => cases hContainer
      | answered hAgain hError =>
          rw [hCode] at hAgain
          rcases Option.some.inj hAgain with rfl
          rw [hSet] at hError
          cases hError
  | attr =>
      cases hRefuses with
      | noFields hFields => cases hFields
  | field hType =>
      cases hRefuses with
      | noFields hFields => cases hFields
      | unknownField hUnknown =>
          rw [hType] at hUnknown
          cases hUnknown
      | wrongType hAsked hOther =>
          rw [hType] at hAsked
          exact hOther (Option.some.inj hAsked)

/- There is one reason at most. -/
theorem Refuses.unique
    {e e' : AssignError}
    (hRefuses : v.Refuses step x e)
    (hOther : v.Refuses step x e') :
    e = e' := by
  cases hRefuses with
  | notKeyed hKeyed =>
      cases hOther with
      | notKeyed hAgain => rfl
      | entry hContainer hFault =>
          rw [isKeyed_of_isContainer hContainer] at hKeyed
          cases hKeyed
      | answered hCode hSet => simp [isKeyed, hCode] at hKeyed
  | entry hContainer hFault =>
      cases hOther with
      | notKeyed hKeyed =>
          rw [isKeyed_of_isContainer hContainer] at hKeyed
          cases hKeyed
      | entry hAgain hAlso => exact hFault.unique hAlso
      | answered hCode hSet => cases hContainer
  | answered hCode hSet =>
      cases hOther with
      | notKeyed hKeyed => simp [isKeyed, hCode] at hKeyed
      | entry hContainer hFault => cases hContainer
      | answered hAgain hAlso =>
          rw [hCode] at hAgain
          rcases Option.some.inj hAgain with rfl
          rw [hSet] at hAlso
          exact Except.error.inj hAlso
  | noFields hFields =>
      cases hOther with
      | noFields hAgain => rfl
      | _ => cases hFields
  | unknownField hUnknown =>
      cases hOther with
      | noFields hFields => cases hFields
      | unknownField hAgain => rfl
      | wrongType hAsked hType =>
          rw [hUnknown] at hAsked
          cases hAsked
  | wrongType hAsked hType =>
      cases hOther with
      | noFields hFields => cases hFields
      | unknownField hUnknown =>
          rw [hAsked] at hUnknown
          cases hUnknown
      | wrongType hAgain hAlso =>
          rw [hAsked] at hAgain
          rcases Option.some.inj hAgain with rfl
          rfl

end Value

------------------------------------------------------------
-- Single Steps
------------------------------------------------------------

namespace Step

open Value

variable {v : Value}

/- A key is accepted or refused by the container or by the
   code of the record. -/
theorem verdict_assign_keyed
    (hTyped : v.WellTyped)
    (key : Key)
    (x : Value) :
    Verdict (v.Accepts (.keyed key) x)
      (v.Refuses (.keyed key) x)
      ((Step.keyed key).assign v x).result := by
  by_cases hKeyed : v.isKeyed = true
  · simp only [assign, hKeyed, if_true]
    cases v using keyCases with
    | record d fields code hCode =>
        rw [setEntry_record hCode]
        cases hSet : code.set fields key x with
        | ok after => exact .accepted (.answered hCode hSet)
        | error e => exact .refused (.answered hCode hSet)
    | unkeyed d fields hCode =>
        simp [Value.isKeyed, hCode] at hKeyed
    | own v hOwn =>
        rw [hOwn.isKeyed] at hKeyed
        rw [hOwn.setEntry]
        refine (verdict_setOwnEntry hTyped key x).imp ?_ ?_
        · exact .entry
        · intro e hFault
          exact .entry hKeyed hFault
  · have hLeaf : v.isKeyed = false := Bool.eq_false_iff.mpr hKeyed
    simp only [assign, hLeaf, Bool.false_eq_true, if_false]
    exact .refused (.notKeyed hLeaf)

omit [RecordKeys] in
/- A visible field of a well-typed record is there. -/
theorem exists_field_of_visible?
    {d : Declaration Shape}
    {fields : List Value}
    {name : String}
    {i : Nat}
    (hTypes :
      fields.map type = d.fields.map (fun f => f.type.nominal))
    (hVisible : d.visible? name = some i) :
    ∃ field,
      fields[i]? = some field ∧
        d.visibleType? name = some field.type := by
  have hLt : i < d.fields.length :=
    (List.findIdx?_eq_some_iff_getElem.mp hVisible).1
  have hSized := congrArg List.length hTypes
  rw [List.length_map, List.length_map] at hSized
  rw [← hSized] at hLt
  have hField := List.getElem?_eq_getElem hLt
  refine ⟨fields[i], hField, ?_⟩
  simp only [Declaration.visibleType?, hVisible]
  exact type_of_getElem?_fields hTypes hField

/- A name is accepted or refused as a field. -/
theorem verdict_assign_named
    (hTyped : v.WellTyped)
    (name : String)
    (x : Value) :
    Verdict (v.Accepts (.named name) x)
      (v.Refuses (.named name) x)
      ((Step.named name).assign v x).result := by
  cases v with
  | object attributes entries => exact .accepted .attr
  | record d fields =>
      simp only [assign, hasFields, if_true, setField,
        fieldPlace?]
      cases hVisible : d.visible? name with
      | none =>
          refine .refused (.unknownField ?_)
          simp only [Declaration.visibleType?, hVisible]
      | some i =>
          cases hTyped with
          | record hTypes hFields =>
              rcases exists_field_of_visible? hTypes hVisible
                with ⟨field, hField, hAsked⟩
              simp only [itemPlace?, hField]
              refine (verdict_overwriteSlot rfl x).imp ?_ ?_
              · intro hType
                refine .field ?_
                rw [hAsked, hType]
              · rintro e ⟨hType, rfl⟩
                exact .wrongType hAsked hType
  | _ => exact .refused (.noFields rfl)

/- Either kind of step is accepted or refused. -/
theorem verdict_assign
    (hTyped : v.WellTyped)
    (step : Step)
    (x : Value) :
    Verdict (v.Accepts step x) (v.Refuses step x)
      (step.assign v x).result := by
  cases step with
  | keyed key => exact verdict_assign_keyed hTyped key x
  | named name => exact verdict_assign_named hTyped name x

/- What is accepted takes place, and nothing else does. -/
theorem assign_eq_ok_iff
    (hTyped : v.WellTyped)
    (step : Step)
    (x : Value) :
    (step.assign v x).result = .ok () ↔ v.Accepts step x :=
  (verdict_assign hTyped step x).eq_ok_iff
    (fun e hAccepts => hAccepts.not_refuses e)

/- What does not take place is refused for the reason given. -/
theorem assign_eq_error_iff
    (hTyped : v.WellTyped)
    (step : Step)
    (x : Value)
    (e : AssignError) :
    (step.assign v x).result = .error e ↔ v.Refuses step x e :=
  (verdict_assign hTyped step x).eq_error_iff
    (fun e hAccepts => hAccepts.not_refuses e)
    (fun _ _ hRefuses hOther => hRefuses.unique hOther) e

omit [RecordKeys] in
/- To reword an error is to succeed in the same cases. -/
theorem mapError_eq_ok_iff
    {ε ε' : Type}
    (f : ε → ε')
    (result : Except ε Unit) :
    result.mapError f = .ok () ↔ result = .ok () := by
  cases result with
  | ok done => simp [mapError_ok]
  | error r => simp [mapError_error]

omit [RecordKeys] in
/- A reworded error is one that was there. -/
theorem mapError_eq_error_iff
    {ε ε' : Type}
    (f : ε → ε')
    (result : Except ε Unit)
    (e : ε') :
    result.mapError f = .error e ↔
      ∃ r, e = f r ∧ result = .error r := by
  cases result with
  | ok done => simp [mapError_ok]
  | error r => simp [mapError_error, eq_comm]

/- A write through a step, as the write of a plan reports it. -/
theorem decides_assign
    (hTyped : v.WellTyped)
    (step : Step)
    (x : Value) :
    v.Decides step x
      ((step.assign v x).result.mapError
        AccessError.refused) := by
  have hAccepted := assign_eq_ok_iff hTyped step x
  have hRefused := assign_eq_error_iff hTyped step x
  refine ⟨?_, ?_, ?_⟩
  · rw [mapError_eq_ok_iff, hAccepted]
  · intro e
    simp only [mapError_eq_error_iff, hRefused]
  · rintro name rfl hFields
    rw [(hRefused _).mpr (.noFields hFields)]
    rfl

end Step

------------------------------------------------------------
-- Whole Paths
------------------------------------------------------------

namespace Plan

open Value

omit [RecordKeys] in
/- All steps but the last, and the last. -/
theorem splitLast?_of_steps
    {plan front : Plan}
    {last : LocatedStep}
    (hSteps : plan.steps = front.steps ++ [last]) :
    plan.splitLast? = some (front, last) := by
  unfold splitLast?
  simp [hSteps]

/- A plan without steps writes nothing. -/
theorem result_assign_of_nil
    {plan : Plan}
    (hSteps : plan.steps = [])
    (root x : Value) :
    (plan.assign root x).value.result = .error .emptyPath := by
  unfold assign splitLast?
  rw [hSteps]
  rfl

/- A plan with steps writes where all but the last lead. -/
theorem result_assign_of_concat
    {plan front : Plan}
    {last : LocatedStep}
    (hSteps : plan.steps = front.steps ++ [last])
    (root x : Value) :
    (plan.assign root x).value.result =
      match (front.resolve root).value with
      | .error e => .error (.notFound e)
      | .ok holder =>
          (last.step.assign holder x).result.mapError
            AccessError.refused := by
  unfold assign
  rw [splitLast?_of_steps hSteps, ← map_node_resolvePlace]
  simp only [Logged.value_bind, Logged.value_map]
  cases (front.resolvePlace root).value with
  | error e => rfl
  | ok place => rfl

/- With steps, it is never for want of steps that it fails. -/
theorem result_assign_ne_emptyPath
    {plan front : Plan}
    {last : LocatedStep}
    (hSteps : plan.steps = front.steps ++ [last])
    (root x : Value) :
    (plan.assign root x).value.result ≠ .error .emptyPath := by
  rw [result_assign_of_concat hSteps]
  cases (front.resolve root).value with
  | error e => simp
  | ok holder => simp [Step.mapError_eq_error_iff]

/- What a plan leads to in a well-typed tree is well typed. -/
theorem wellTyped_of_resolve
    [SoundKeys]
    {plan : Plan}
    {root v : Value}
    (hRoot : root.WellTyped)
    (hFound : (plan.resolve root).value = .ok v) :
    v.WellTyped := by
  simp only [resolve, value_traced] at hFound
  rcases exists_place_of_locate hFound with
    ⟨place, hPlace, rfl⟩
  rw [locatePlace_eq_ok_iff] at hPlace
  exact (liesIn_of_placeAt? hPlace).wellTyped_node hRoot

/-
  A write fails for want of steps if and only if there are
  none.  Otherwise the steps before the last decide whether it
  finds a value to write to, with their own error if not, and
  that value decides whether the write takes place.
-/
theorem assign_decided
    [SoundKeys]
    {root : Value}
    (hRoot : root.WellTyped)
    (plan : Plan)
    (x : Value) :
    let result := (plan.assign root x).value.result
    (result = .error .emptyPath ↔ plan.steps = []) ∧
      ∀ (front : Plan) (last : LocatedStep),
        plan.steps = front.steps ++ [last] →
          (∀ e,
            result = .error (.notFound e) ↔
              (front.resolve root).value = .error e) ∧
            ∀ holder,
              (front.resolve root).value = .ok holder →
                holder.Decides last.step x result := by
  intro result
  refine ⟨?_, ?_⟩
  · rcases List.eq_nil_or_concat plan.steps with
      hNil | ⟨front, last, hSteps⟩
    · exact iff_of_true (result_assign_of_nil hNil root x) hNil
    · have hConcat :
          plan.steps = (mk front).steps ++ [last] := by
        rw [hSteps, List.concat_eq_append]
      refine iff_of_false ?_ ?_
      · exact result_assign_ne_emptyPath hConcat root x
      · simp [hConcat]
  · intro front last hSteps
    have hResult := result_assign_of_concat hSteps root x
    refine ⟨?_, ?_⟩
    · intro e
      rw [show result = _ from hResult]
      cases (front.resolve root).value with
      | error other => simp
      | ok holder =>
          simp [Step.mapError_eq_error_iff]
    · intro holder hHolder
      rw [hHolder] at hResult
      rw [show result = _ from hResult]
      exact
        last.step.decides_assign
          (wellTyped_of_resolve hRoot hHolder) x

end Plan

end Verdicts

namespace Plan

/-
  A name for a list of numbers and a truth value are both
  wrong.  A list looks at the key first, a document at the
  value.
-/
theorem assign_decided_two_faults :
    let number : Value := .scalar (.integer ⟨true, .w32⟩ 1)
    let list : Value := .sequence .vector number.shape [number]
    let doc : Value := .json (.array [.ofNat 1])
    let root : Value :=
      .object (.insert (.insert .empty "list" list) "doc" doc)
        []
    let step : Step := .keyed (.name "k")
    let plan (name : String) : Plan :=
      .ofSteps [.named name, step]
    let x : Value := .scalar (.bool true)
    let result (name : String) :=
      ((plan name).assign root x).value.result
    let wrongKey : AssignError :=
      .invalidKey (.name "k") list.typeName
    let wrongType : AssignError :=
      .mismatchedTypes doc.typeName "bool"
    root.WellTyped ∧
      (result "list" = .error (.refused wrongKey) ∧
        list.Refuses step x wrongKey) ∧
        result "doc" = .error (.refused wrongType) ∧
          doc.Refuses step x wrongType := by
  intro number list doc root step plan x result wrongKey
    wrongType
  have hList : list.WellTyped := by
    refine .sequence trivial ?_ ?_
    · intro item hMem
      rcases List.mem_singleton.mp hMem with rfl
      rfl
    · intro item hMem
      rcases List.mem_singleton.mp hMem with rfl
      exact .scalar _
  have hRoot : root.WellTyped := by
    refine .object ?_ ?_
    · intro item hMem
      rcases Attributes.mem_items_insert hMem with rfl | hOld
      · exact .json _
      · rcases Attributes.mem_items_insert hOld with rfl | hNone
        · exact hList
        · cases hNone
    · simp
  have hDecides (name : String) :=
    (assign_decided hRoot (plan name) x).2
      (.ofSteps [.named name]) (.ofStep step) rfl
  have hKey : result "list" = .error (.refused wrongKey) := rfl
  have hType : result "doc" = .error (.refused wrongType) := rfl
  rcases (((hDecides "list").2 list rfl).refused _).mp hKey with
    ⟨_, hSame, hRefusesKey⟩
  rcases AccessError.refused.inj hSame with rfl
  rcases (((hDecides "doc").2 doc rfl).refused _).mp hType with
    ⟨_, hSame, hRefusesType⟩
  rcases AccessError.refused.inj hSame with rfl
  exact ⟨hRoot, ⟨hKey, hRefusesKey⟩, hType, hRefusesType⟩

/-
  A record is none of the containers that take entries, yet a
  write at one of its keys takes place if the code of the
  record, here by passing the key on to a field, writes it.
-/
theorem assign_accepts_passed_on :
    let number (n : Int) : Value :=
      .scalar (.integer ⟨true, .w32⟩ n)
    let elem : Shape := .scalar (.integer ⟨true, .w32⟩)
    let d : Declaration Shape :=
      ⟨"Grid", "Grid",
        [⟨"width", false, .scalar (.integer ⟨false, .w32⟩)⟩,
          ⟨"cells", false, .sequence .vector elem⟩,
          ⟨"extra", true, .dictionary .ordered elem⟩],
        some ⟨"cells", "extra"⟩⟩
    let root : Value :=
      .record d
        [.scalar (.integer ⟨false, .w32⟩ 1),
          .sequence .vector elem [number 1, number 2],
          .dictionary .ordered elem []]
    let plan := Plan.ofSteps [.keyed (.index 0)]
    (plan.assign root (number 9)).value.result = .ok () ∧
      (Plan.empty.resolve root).value = .ok root ∧
        ¬ root.AcceptsEntry (.index 0) (number 9) := by
  intro number elem d root plan
  refine ⟨rfl, rfl, ?_⟩
  intro hAccepts
  have hKey : root.answersKey (.index 0) = false := rfl
  rw [hAccepts.answersKey] at hKey
  cases hKey

end Plan

end TreePath
