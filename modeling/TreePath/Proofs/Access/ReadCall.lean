import TreePath.Proofs.Access.EntryPoints

/-
  The calls that read from a tree.  They differ in where they
  take their plan from, in the type that they ask for and in
  the answer that they have to a miss.

  Key definitions include:
    * `ReadCall`
    * `ReadCall.plan`
    * `ReadCall.type?`
    * `ReadCall.answer?`
    * `ReadCall.perform`

  Main statements:
    * `ReadCall.perform_eq`
-/

------------------------------------------------------------
-- Calls
------------------------------------------------------------

namespace TreePath

/-
  A read goes through a plan, through the path of an accessor
  or a text that the accessor reads, or through a text of its
  own.
-/
inductive ReadCall
-- Through a plan.
| resolve (plan : Plan)
| resolveAs (plan : Plan) (type : Shape)
| resolvePlace (plan : Plan)
-- Through an accessor.
| apply (accessor : Accessor)
| applyWith (accessor : Accessor) (args : Accessor.ApplyArgs)
| get (accessor : Accessor)
| getWith
    (accessor : Accessor)
    (source : Option String)
    (fallback : Fallback)
| getAs (accessor : Accessor) (type : Shape)
| getPlace (accessor : Accessor)
| getPlaceAs (accessor : Accessor) (type : Shape)
-- Through a text.
| access (source : String)
| accessAs (source : String) (type : Shape)
| accessPlace (source : String)
| getPath (source : String)
| getPathOr (source : String) (fallback : Value)

/- Whether a read succeeds, without what it yields. -/
def Read.outcome
    {α : Type}
    (r : Read α) : Read Unit :=
  r.map (Except.map (fun _ => ()))

namespace ReadCall

/- The plan that a call reads through. -/
def plan : ReadCall → Read Plan
| .resolve plan => .ofValue (.ok plan)
| .resolveAs plan _ => .ofValue (.ok plan)
| .resolvePlace plan => .ofValue (.ok plan)
| .apply accessor => accessor.ownPlan
| .applyWith accessor args => accessor.planFor args.source
| .get accessor => accessor.ownPlan
| .getWith accessor source _ => accessor.planFor source
| .getAs accessor _ => accessor.ownPlan
| .getPlace accessor => accessor.ownPlan
| .getPlaceAs accessor _ => accessor.ownPlan
| .access source => Read.plan .strict source
| .accessAs source _ => Read.plan .strict source
| .accessPlace source => Read.plan .strict source
| .getPath source => Read.plan .strict source
| .getPathOr source _ => Read.plan .strict source

/- The type that a call asks for. -/
def type? : ReadCall → Option Shape
| .resolveAs _ type => some type
| .getAs _ type => some type
| .getPlaceAs _ type => some type
| .accessAs _ type => some type
| _ => none

/-
  The answer that a call has to a miss, as it is noted in the
  log.  A strict read has none; one that is not strict has
  null where there is no default.
-/
def answer? : ReadCall → Option (Option Value)
| .apply accessor =>
    if accessor.options.strict then
      none
    else
      some (accessor.answer? .inherit).join
| .applyWith accessor args =>
    if args.strict.getD accessor.options.strict then
      none
    else
      some (accessor.answer? args.fallback).join
| .get accessor => accessor.answer? .inherit
| .getWith accessor _ fallback => accessor.answer? fallback
| .getPath _ => some none
| .getPathOr _ _ => some none
| _ => none

section Calls

variable [RecordKeys]

/- Whether a call on a root succeeds, and what it logs. -/
def perform
    (call : ReadCall)
    (root : Value) : Read Unit :=
  match call with
  | .resolve plan => (Read.ofWalk (plan.resolve root)).outcome
  | .resolveAs plan type =>
      (plan.resolveAs type root).outcome
  | .resolvePlace plan =>
      (Read.ofWalk (plan.resolvePlace root)).outcome
  | .apply accessor => (accessor.apply root).outcome
  | .applyWith accessor args =>
      (accessor.applyWith args root).outcome
  | .get accessor => (accessor.get root).outcome
  | .getWith accessor source fallback =>
      (accessor.getWith source fallback root).outcome
  | .getAs accessor type => (accessor.getAs type root).outcome
  | .getPlace accessor => (accessor.getPlace root).outcome
  | .getPlaceAs accessor type =>
      (accessor.getPlaceAs type root).outcome
  | .access source => (root.access source).outcome
  | .accessAs source type =>
      (root.accessAs type source).outcome
  | .accessPlace source => (root.accessPlace source).outcome
  | .getPath source => (root.getPath source).outcome
  | .getPathOr source fallback =>
      (root.getPathOr source fallback).outcome

------------------------------------------------------------
-- Reads through a Plan
------------------------------------------------------------

/- Whether a value is of the type that a call asks for. -/
def accepts
    (type : Option Shape)
    (v : Value) : Except AccessError Unit :=
  match type with
  | none => .ok ()
  | some type => (downcast type v).map (fun _ => ())

omit [RecordKeys] in
/- A place is of the type that its value is of. -/
theorem map_downcastPlace
    (type : Shape)
    (place : Place) :
    (downcastPlace type place).map (fun _ => ()) =
      accepts (some type) place.node := by
  simp only [accepts, downcast, downcastPlace]
  by_cases hType : place.node.type = type.nominal
  · simp only [hType, if_true]
    rfl
  · simp only [hType, if_false]
    rfl

/-
  Walk a plan.  What it leads to may be of another type than
  the one asked for; a miss is traced, and it is the error
  unless there is an answer to it.
-/
def follow
    (type : Option Shape)
    (answer : Option (Option Value))
    (plan : Plan)
    (root : Value) : Read Unit :=
  match plan.locate root, answer with
  | .ok v, _ => .ofValue (accepts type v)
  | .error e, some answer =>
      ⟨.ok (), [.missed e, .fellBack e answer]⟩
  | .error e, none => ⟨.error (.notFound e), [.missed e]⟩

/- A walk that needs no type and has no answer. -/
theorem outcome_resolve
    (plan : Plan)
    (root : Value) :
    (Read.ofWalk (plan.resolve root)).outcome =
      follow none none plan root := by
  simp only [Read.outcome, Read.ofWalk, Plan.resolve, follow]
  cases plan.locate root with
  | error e => rfl
  | ok v => rfl

/- A walk for a value of a type. -/
theorem outcome_resolveAs
    (plan : Plan)
    (type : Shape)
    (root : Value) :
    (plan.resolveAs type root).outcome =
      follow (some type) none plan root := by
  simp only [Read.outcome, Plan.resolveAs, Read.andThen,
    Read.ofWalk, Plan.resolve, follow]
  cases plan.locate root with
  | error e => rfl
  | ok v => rfl

/- A walk to a place reads what any walk does. -/
theorem outcome_resolvePlace
    (plan : Plan)
    (root : Value) :
    (Read.ofWalk (plan.resolvePlace root)).outcome =
      follow none none plan root := by
  simp only [Read.outcome, Read.ofWalk, Plan.resolvePlace,
    follow, ← plan.map_node_locatePlace root]
  cases plan.locatePlace root with
  | error e => rfl
  | ok place => rfl

/- A walk to a place whose value is of a type. -/
theorem outcome_resolvePlaceAs
    (plan : Plan)
    (type : Shape)
    (root : Value) :
    (Read.andThen (.ofWalk (plan.resolvePlace root))
        (fun place =>
          .ofValue (downcastPlace type place))).outcome =
      follow (some type) none plan root := by
  simp only [Read.outcome, Read.andThen, Read.ofWalk,
    Plan.resolvePlace, follow, ← plan.map_node_locatePlace root]
  cases plan.locatePlace root with
  | error e => rfl
  | ok place =>
      simp only [Except.map, ← map_downcastPlace]
      rfl

/- A walk that may have an answer. -/
theorem outcome_resolveOr
    (plan : Plan)
    (root : Value)
    (answer : Option (Option Value)) :
    (plan.resolveOr root answer).outcome =
      follow none answer plan root := by
  simp only [Read.outcome, Plan.resolveOr, Plan.resolve, follow]
  cases plan.locate root with
  | ok v => rfl
  | error e =>
      cases answer with
      | none => rfl
      | some answer => rfl

------------------------------------------------------------
-- All Calls
------------------------------------------------------------

omit [RecordKeys] in
/- To go on and forget the result is to forget it at once. -/
theorem outcome_andThen
    {α β : Type}
    (r : Read α)
    (next : α → Read β) :
    (Read.andThen r next).outcome =
      Read.andThen r (fun a => (next a).outcome) :=
  Read.map_andThen r next (fun _ => ())

omit [RecordKeys] in
/- A value that is mapped last succeeds as it did before. -/
theorem outcome_andThen_map
    {α β : Type}
    (r : Read α)
    (f : α → β) :
    (Read.andThen r (fun a => .ofValue (.ok (f a)))).outcome =
      r.outcome := by
  cases hFirst : r.value with
  | error e =>
      rw [Read.andThen_of_error hFirst]
      simp [Read.outcome, Logged.map, hFirst, Except.map]
  | ok a =>
      rw [Read.andThen_of_ok hFirst]
      simp [Read.outcome, Logged.map, hFirst, Except.map]

/- A call reads through a plan if all that it does is to get
   the plan and to walk it. -/
theorem outcome_eq_follow
    {α : Type}
    {r : Read Plan}
    {next : Plan → Read α}
    {type : Option Shape}
    {answer : Option (Option Value)}
    {root : Value}
    (hNext :
      ∀ plan, (next plan).outcome =
        follow type answer plan root) :
    (Read.andThen r next).outcome =
      Read.andThen r (fun plan =>
        follow type answer plan root) := by
  rw [outcome_andThen]
  congr 1
  funext plan
  exact hNext plan

/- A plan that is there is walked at once. -/
theorem follow_given
    (type : Option Shape)
    (answer : Option (Option Value))
    (plan : Plan)
    (root : Value) :
    follow type answer plan root =
      Read.andThen (.ofValue (.ok plan)) (fun plan =>
        follow type answer plan root) :=
  (Read.andThen_ofValue_ok plan
    (fun plan => follow type answer plan root)).symm

/- All calls are one, once they have their plan. -/
theorem perform_eq
    (call : ReadCall)
    (root : Value) :
    call.perform root =
      Read.andThen call.plan (fun plan =>
        follow call.type? call.answer? plan root) := by
  cases call with
  | resolve plan =>
      exact (outcome_resolve plan root).trans
        (follow_given none none plan root)
  | resolveAs plan type =>
      exact (outcome_resolveAs plan type root).trans
        (follow_given (some type) none plan root)
  | resolvePlace plan =>
      exact (outcome_resolvePlace plan root).trans
        (follow_given none none plan root)
  | apply accessor =>
      simp only [perform, Accessor.apply,
        Accessor.applyWith_eq]
      exact outcome_eq_follow (fun plan =>
        outcome_resolveOr plan root _)
  | applyWith accessor args =>
      simp only [perform]
      rw [show args = ⟨args.source, args.fallback, args.strict⟩
        from rfl, Accessor.applyWith_eq]
      exact outcome_eq_follow (fun plan =>
        outcome_resolveOr plan root _)
  | get accessor =>
      simp only [perform, Accessor.get, Accessor.getWith_eq]
      exact outcome_eq_follow (fun plan =>
        outcome_resolveOr plan root _)
  | getWith accessor source fallback =>
      simp only [perform, Accessor.getWith_eq]
      exact outcome_eq_follow (fun plan =>
        outcome_resolveOr plan root _)
  | getAs accessor type =>
      exact outcome_eq_follow (fun plan =>
        outcome_resolveAs plan type root)
  | getPlace accessor =>
      exact outcome_eq_follow (fun plan =>
        outcome_resolvePlace plan root)
  | getPlaceAs accessor type =>
      simp only [perform, Accessor.getPlaceAs,
        Accessor.getPlace, Read.andThen_assoc]
      exact outcome_eq_follow (fun plan =>
        outcome_resolvePlaceAs plan type root)
  | access source =>
      exact outcome_eq_follow (fun plan =>
        outcome_resolve plan root)
  | accessAs source type =>
      simp only [perform, Value.accessAs, Value.access,
        Read.andThen_assoc]
      exact outcome_eq_follow (fun plan =>
        outcome_resolveAs plan type root)
  | accessPlace source =>
      exact outcome_eq_follow (fun plan =>
        outcome_resolvePlace plan root)
  | getPath source =>
      simp only [perform, Value.getPath_eq]
      exact outcome_eq_follow (fun plan =>
        outcome_resolveOr plan root _)
  | getPathOr source fallback =>
      -- The default takes the place of a null unseen.
      simp only [perform, Value.getPathOr, outcome_andThen_map,
        Value.getPath_eq]
      exact outcome_eq_follow (fun plan =>
        outcome_resolveOr plan root _)

end Calls

end ReadCall

end TreePath
