import TreePath.Derive.Implementation
import TreePath.Proofs.Crate.Precedence

/-
  The heads of derived implementations.  Both have the
  parameters of the struct without their defaults, the same
  arguments, and the conditions of the struct with one more
  for every parameter that is a type.

  Key definitions include:
    * `Item.Generics.withoutDefaults`
    * `Item.Parameter.nodeCondition?`
    * `Item.whereClause`
    * `NodeStruct.head`

  Main statements:
    * `Item.Generics.written_withoutDefaults`
    * `NodeStruct.conditionTokens_bounded`
    * `NodeStruct.code_bounds_types`
-/

------------------------------------------------------------
-- Defaults
------------------------------------------------------------

namespace TreePath

namespace Item

/- What a parameter is, apart from its default. -/
def ParameterKind.withoutDefault :
    ParameterKind → ParameterKind
| .lifetime bounds => .lifetime bounds
| .type bounds _ => .type bounds []
| .constant of _ => .constant of []

namespace Parameter

/- A parameter as it would be declared without a default. -/
def withoutDefault
    (q : Parameter) : Parameter :=
  { q with kind := q.kind.withoutDefault }

theorem isLifetime_withoutDefault
    (q : Parameter) :
    q.withoutDefault.isLifetime = q.isLifetime := by
  simp only [isLifetime, withoutDefault]
  cases q.kind with
  | lifetime bounds => rfl
  | type bounds default => rfl
  | constant of default => rfl

/- All but the default is kept in an implementation. -/
theorem written_withoutDefault
    (q : Parameter) :
    q.withoutDefault.written = q.declared := by
  simp only [written, declared, withoutDefault]
  cases q.kind with
  | lifetime bounds => simp [ParameterKind.withoutDefault]
  | type bounds default =>
      simp [ParameterKind.withoutDefault, behind]
  | constant of default =>
      simp [ParameterKind.withoutDefault, behind]

end Parameter

namespace Generics

/- Parameters as they would be declared without defaults. -/
def withoutDefaults
    (g : Generics) : Generics :=
  { g with
    parameters := g.parameters.map Parameter.withoutDefault }

/- An implementation declares its parameters as the item does,
   but for their defaults. -/
theorem written_withoutDefaults
    (g : Generics) :
    g.withoutDefaults.written = g.declared := by
  have hComma :
      ∀ q : Parameter, q.withoutDefault.comma = q.comma :=
    fun _ => rfl
  simp [written, declared, angled, withoutDefaults,
    Function.comp_def, Parameter.isLifetime_withoutDefault,
    Parameter.written_withoutDefault, hComma]

------------------------------------------------------------
-- Conditions
------------------------------------------------------------

variable (g : Generics) (more : List Tokens)

/- More conditions leave the parameters alone. -/
theorem parameters_require :
    (g.require more).parameters = g.parameters := by
  unfold require
  split <;> rfl

/- They come last. -/
theorem conditions_require :
    (g.require more).conditions = g.conditions ++ more := by
  unfold require
  split
  case h_1 => rw [List.append_nil]
  case h_2 => rfl

/- No comma comes behind them. -/
theorem lastComma_require :
    (g.require more).lastComma =
      (more.isEmpty && g.lastComma) := by
  cases more with
  | nil => rfl
  | cons c more => rfl

end Generics

/- Conditions behind their word, with commas between them and
   perhaps one behind the last. -/
def whereClause
    (conditions : List Tokens)
    (comma : Bool) : Tokens :=
  if conditions = [] then []
  else
    .name "where" ::
      ([commaToken].intercalate conditions ++
        if comma then [commaToken] else [])

/- A clause is left out if and only if there are no
   conditions. -/
theorem whereClause_eq_nil_iff
    {conditions : List Tokens}
    {comma : Bool} :
    whereClause conditions comma = [] ↔ conditions = [] := by
  simp [whereClause]

theorem Generics.separatedConditions_cons
    (c : Tokens)
    (cs : List Tokens)
    (comma : Bool) :
    separatedConditions (c :: cs) comma =
      [commaToken].intercalate (c :: cs) ++
        if comma then [commaToken] else [] := by
  induction cs generalizing c with
  | nil => simp [separatedConditions]
  | cons d ds ih =>
      have hMore :
          separatedConditions (c :: d :: ds) comma =
            c ++ commaToken ::
              separatedConditions (d :: ds) comma :=
        rfl
      rw [hMore, ih, List.intercalate_cons_cons]
      simp

/- The conditions are written as such a clause. -/
theorem Generics.conditionTokens_eq
    (g : Generics) :
    g.conditionTokens =
      whereClause g.conditions g.lastComma := by
  unfold conditionTokens whereClause
  cases g.conditions with
  | nil => rfl
  | cons c cs => simp [separatedConditions_cons]

/- The condition that a parameter be a node; only types have
   one. -/
def Parameter.nodeCondition?
    (path : CratePath)
    (q : Parameter) : Option Tokens :=
  match q.kind with
  | .lifetime _ => none
  | .type _ _ => some (NodeStruct.nodeCondition path q.name)
  | .constant _ _ => none

/- There is one condition for every name of a type, in the
   order of declaration. -/
theorem Generics.map_typeNames
    (g : Generics)
    (path : CratePath) :
    g.typeNames.map (NodeStruct.nodeCondition path) =
      g.parameters.filterMap
        (Parameter.nodeCondition? path) := by
  unfold typeNames
  induction g.parameters with
  | nil => rfl
  | cons q qs ih =>
      rw [List.filter_cons, List.filterMap_cons, ← ih]
      unfold Parameter.isType Parameter.nodeCondition?
      cases q.kind with
      | lifetime bounds => rfl
      | type bounds default => rfl
      | constant of default => rfl

end Item

------------------------------------------------------------
-- Texts
------------------------------------------------------------

namespace Item

/- Texts of tokens come in the order of the tokens. -/
theorem textsOf_append
    (ts us : Tokens) :
    textsOf (ts ++ us) = textsOf ts ++ textsOf us := by
  induction ts with
  | nil => simp [textsOf]
  | cons t ts ih => simp [textsOf, ih]

end Item

/- The tokens of a path spell it. -/
theorem CratePath.join_textsOf_tokens
    (path : CratePath) :
    String.join (Item.textsOf path.tokens) = path.render := by
  rcases path with ⟨segments⟩
  simp only [tokens, render]
  induction segments with
  | nil => simp [Item.textsOf]
  | cons name names ih =>
      rw [List.flatMap_cons, Item.textsOf_append,
        String.join_append, ih, List.map_cons,
        String.join_cons]
      congr 1

namespace NodeStruct

open Item

/- The condition that a type be a node asks for the trait of
   all nodes. -/
theorem join_textsOf_nodeCondition
    (path : CratePath)
    (name : Tokens) :
    String.join (textsOf (nodeCondition path name)) =
      String.join (textsOf name) ++ ":" ++ path.node := by
  rw [nodeCondition, textsOf_append, String.join_append,
    textsOf, String.join_append,
    CratePath.join_textsOf_tokens]
  simp [TokenTree.texts, CratePath.node, CratePath.inside,
    String.append_assoc]

------------------------------------------------------------
-- Heads
------------------------------------------------------------

/- The head of an implementation of a trait for an item. -/
def head
    (g : Generics)
    (clause : Tokens)
    (item trait : String) : List String :=
  "impl" :: textsOf g.withoutDefaults.written ++
    [trait, "for", item] ++ textsOf g.applied ++
    textsOf clause

variable {d : Declared} {s : NodeStruct}

/- An accepted item keeps its name and its parameters. -/
theorem of_ofDeclared
    (hAccepted : ofDeclared d = .ok s) :
    s.name = d.name ∧ s.generics = d.generics := by
  unfold ofDeclared at hAccepted
  cases hBody : d.body with
  | other => simp [hBody] at hAccepted
  | fields fields =>
      simp only [hBody, bind, Except.bind] at hAccepted
      split at hAccepted
      case h_1 => cases hAccepted
      case h_2 =>
        split at hAccepted
        case h_1 => cases hAccepted
        case h_2 =>
          rw [← Except.ok.inj hAccepted]
          exact ⟨rfl, rfl⟩

/- A struct has the conditions of its parameters and those on
   its types; a comma comes last only if there are none on
   types. -/
theorem conditionTokens_bounded
    (s : NodeStruct)
    (path : CratePath) :
    let added :=
      s.generics.parameters.filterMap
        (Parameter.nodeCondition? path)
    (s.bounded path).conditionTokens =
      whereClause (s.generics.conditions ++ added)
        (added.isEmpty && s.generics.lastComma) := by
  intro added
  have hAdded :
      s.generics.typeNames.map (nodeCondition path) = added :=
    s.generics.map_typeNames path
  rw [Generics.conditionTokens_eq, bounded,
    Generics.conditions_require, Generics.lastComma_require,
    hAdded]

/- The texts of an implementation begin with its head. -/
theorem texts_implementation
    (s : NodeStruct)
    (path : CratePath)
    (trait : String)
    (methods : List Method) :
    (s.implementation path trait methods).texts =
      head s.generics (s.bounded path).conditionTokens s.name
          trait ++
        inBraces (methods.flatMap Method.texts) := by
  have hParameters :
      (s.bounded path).parameters = s.generics.parameters :=
    Generics.parameters_require _ _
  simp only [Implementation.texts, implementation, head,
    Generics.written_withoutDefaults, Generics.declared,
    Generics.applied, Generics.angled, hParameters]

/- No type is among parameters that give no condition. -/
theorem filterMap_nodeCondition?_eq_nil_iff
    {parameters : List Parameter}
    {path : CratePath} :
    parameters.filterMap (Parameter.nodeCondition? path) =
        [] ↔
      ∀ q ∈ parameters, q.isType = false := by
  rw [List.filterMap_eq_nil_iff]
  apply forall₂_congr
  intro q _
  unfold Parameter.nodeCondition? Parameter.isType
  cases q.kind with
  | lifetime bounds => simp
  | type bounds default => simp
  | constant of default => simp

/-
  The two implementations that are derived for a struct have
  the same parameters, those of the struct without their
  defaults, the same arguments and the same conditions.  These
  are the conditions of the struct and then, for every
  parameter that is a type, that it be a node.
-/
theorem code_bounds_types
    (hAccepted : ofDeclared d = .ok s)
    (m : Manifest) :
    ∃ path,
      m.cratePath nodeCrate = .ok path ∧
        let g := d.generics
        let added :=
          g.parameters.filterMap
            (Parameter.nodeCondition? path)
        let clause :=
          whereClause (g.conditions ++ added)
            (added.isEmpty && g.lastComma)
        s.codeBy m =
            .ok (glueAll
              (head g clause d.name path.node ++
                  inBraces
                    ((s.nodeMethods path).flatMap
                      Method.texts) ++
                (head g clause d.name path.fieldsTrait ++
                  inBraces
                    ([s.fieldMethod path,
                      s.fieldMutMethod path,
                      s.fieldNamesMethod path].flatMap
                        Method.texts)))) ∧
          (clause = [] ↔
            g.conditions = [] ∧
              ∀ q ∈ g.parameters, q.isType = false) ∧
            ∀ name,
              String.join (textsOf (nodeCondition path name)) =
                String.join (textsOf name) ++ ":" ++
                  path.node := by
  rcases of_ofDeclared hAccepted with ⟨hName, hGenerics⟩
  rcases
      Manifest.exists_resolves m
        (show Identifier.isSegment nodeCrate = true by decide)
    with ⟨path, hPath, _⟩
  refine ⟨path, hPath, ?_⟩
  intro g added clause
  have hClause :
      (s.bounded path).conditionTokens = clause := by
    rw [conditionTokens_bounded, hGenerics]
  refine ⟨?_, ?_, join_textsOf_nodeCondition path⟩
  · simp only [codeBy, hPath, Except.map, code,
      implementations, List.flatMap_cons, List.flatMap_nil,
      List.append_nil, texts_implementation, hClause, hName,
      hGenerics]
    rfl
  · rw [whereClause_eq_nil_iff, List.append_eq_nil_iff,
      filterMap_nodeCondition?_eq_nil_iff]

/-
  A lifetime and a constant give no condition; the default of
  a type is dropped, and the comma behind the last condition
  separates it from the new one.
-/
theorem code_bounds_types_mixed :
    let tick : Tokens := [.mark '\'' true, .name "a"]
    let g : Generics :=
      { parameters :=
          [⟨[], tick, .lifetime [], true⟩,
            ⟨[], [.name "T"],
              .type [.name "Clone"] [.name "u8"], true⟩,
            ⟨[], [.name "N"], .constant [.name "usize"] [],
              false⟩]
        conditions :=
          [[.name "T", .mark ':' false, .name "Send"]]
        lastComma := true }
    let d : Declared := ⟨[], "W", g, .fields []⟩
    let s : NodeStruct := ⟨"W", g, false, []⟩
    ofDeclared d = .ok s ∧
      ∃ rest,
        s.codeBy .empty =
          .ok (glueAll
            (["impl", "<", "'", "a", ",", "T", ":", "Clone",
                ",", "const", "N", ":", "usize", ">",
                "::vc_value::Node", "for", "W", "<", "'", "a",
                ",", "T", ",", "N", ">", "where", "T", ":",
                "Send", ",", "T", ":", ":", ":", "vc_value",
                ":", ":", "Node"] ++ rest)) := by
  intro tick g d s
  have hAccepted : ofDeclared d = .ok s := rfl
  refine ⟨hAccepted, ?_⟩
  rcases code_bounds_types hAccepted .empty with
    ⟨path, hPath, hCode, _⟩
  have hNone :
      ∀ other, ¬ Manifest.Gives [] nodeCrate other := by
    intro other hGives
    cases hGives with
    | own hListed => cases hListed
    | member _ hFacade _ => cases hFacade
  have hOwn :
      Manifest.empty.cratePath nodeCrate =
        .ok ⟨["vc_value"]⟩ := by
    rw [Manifest.cratePath_eq_ok_iff (by decide)]
    exact .bare hNone hNone
  rw [hOwn] at hPath
  rw [← Except.ok.inj hPath, List.append_assoc] at hCode
  exact ⟨_, hCode⟩

end NodeStruct

end TreePath
