import ClassLowering.Proofs.Heap.Steps
import ClassLowering.Semantics.Elaboration
import Mathlib.Data.List.Forall2

/-!
# Members and what they contribute

Every member of a class contributes a field or a definition. A definition
runs a function that is made for this member alone: no other member has it,
and it did not exist before. Nothing else happens to the heap while the
members are put together.
-/

namespace ClassLowering

/-- The role of a member that is no field. -/
def MemberKind.role? : MemberKind -> Option MemberRole
  | .method => some .method
  | .getter => some .getter
  | .setter => some .setter
  | .field => none

/-- The function of a member in a role. A missing procedure does nothing. -/
def memberFunction (scope : ScopeRef) (limits : Limits)
    (member : Member PropertyKey Expr)
    (key : PropertyKey) (role : MemberRole) : FunctionCell :=
  let name := match role with
    | .method => key.functionName
    | .getter => "get " ++ key.functionName
    | .setter => "set " ++ key.functionName
  let kind := match role with
    | .method => if member.isGenerator then .generator else .method
    | .getter => .getter
    | .setter => .setter
  ⟨name, kind, member.params, member.body.getD .nothing, some scope, limits⟩

/-- The initializer of a field. -/
def fieldFunction (scope : ScopeRef) (limits : Limits)
    (member : Member PropertyKey Expr)
    (key : PropertyKey) (body : Expr) : FunctionCell :=
  ⟨key.functionName, .fieldInitializer, member.params, body, some scope, limits⟩

section Contributions

variable (heap : Heap) (scope : ScopeRef) (limits : Limits)

/-- A definition is the one that a member makes under its key. -/
structure Definition.MadeBy (source : Member PropertyKey Expr × PropertyKey)
    (definition : Definition) : Prop where
  key_eq : definition.key = source.2
  role_eq : source.1.kind.role? = some definition.role
  held : heap.Holds (.function definition.function)
  function_eq : heap.function definition.function =
    memberFunction scope limits source.1 source.2 definition.role

/-- A field is the one that a member declares under its key. -/
structure FieldDeclaration.MadeBy
    (source : Member PropertyKey Expr × PropertyKey)
    (declaration : FieldDeclaration) : Prop where
  key_eq : declaration.key = source.2
  kind_eq : source.1.kind = .field
  bare : declaration.initializer? = none ↔ source.1.body = none
  held : ∀ function ∈ declaration.initializer?, heap.Holds (.function function)
  function_eq : ∀ function ∈ declaration.initializer?, ∀ body ∈ source.1.body,
    heap.function function = fieldFunction scope limits source.1 source.2 body

/-- What a member contributes to its class. -/
def MemberPart.MadeBy
    (source : Member PropertyKey Expr × PropertyKey) : MemberPart -> Prop
  | .field declaration => declaration.MadeBy heap scope limits source
  | .definition made => made.MadeBy heap scope limits source

end Contributions

namespace MemberPart

/-- The functions of a part. -/
def functions : MemberPart -> List FunctionRef
  | .field declaration => declaration.initializer?.toList
  | .definition made => [made.function]

variable {heap later : Heap} {scope : ScopeRef} {limits : Limits}
variable {source : Member PropertyKey Expr × PropertyKey}

/-- A contribution stays what it is when the heap is extended. -/
theorem MadeBy.mono
    {part : MemberPart}
    (made : part.MadeBy heap scope limits source)
    (extension : heap.Extends later) :
    part.MadeBy later scope limits source := by
  cases part with
  | field declaration =>
      obtain ⟨key_eq, kind_eq, bare, held, function_eq⟩ := made
      refine ⟨key_eq, kind_eq, bare, fun function present =>
        ?_, fun function present => ?_⟩
      · exact extension.holds _ (held function present)
      · rw [extension.function_eq function (held function present)]
        exact function_eq function present
  | definition made' =>
      obtain ⟨key_eq, role_eq, held, function_eq⟩ := made
      refine ⟨key_eq, role_eq, extension.holds _ held, ?_⟩
      rw [extension.function_eq _ held]
      exact function_eq

/-- The functions of a contribution are held. -/
theorem MadeBy.holds_functions
    {part : MemberPart}
    (made : part.MadeBy heap scope limits source) :
    ∀ function ∈ part.functions, heap.Holds (.function function) := by
  intro function present
  cases part with
  | field declaration =>
      exact FieldDeclaration.MadeBy.held made
        function (by simpa [functions] using present)
  | definition made' =>
      rw [List.mem_singleton.1 present]
      exact Definition.MadeBy.held made

end MemberPart

/-- What some members contribute, and how the heap changes meanwhile. -/
structure Contributions (scope : ScopeRef) (limits : Limits)
    (sources : List (Member PropertyKey Expr × PropertyKey)) (old : Heap)
    (parts : List MemberPart) (later : Heap) : Prop where
  extension : old.Extends later
  scopes_eq : later.scopes = old.scopes
  path : ∀ makes : FunctionCell -> Prop, (∀ cell, makes cell) ->
    old.Holds (.scope scope) -> old.Path makes later
  madeBy : List.Forall₂ (MemberPart.MadeBy later scope limits) sources parts
  nodup : (parts.flatMap MemberPart.functions).Nodup
  fresh : ∀ function ∈ parts.flatMap MemberPart.functions,
    ¬ old.Holds (.function function)

namespace Contributions

variable {scope : ScopeRef} {limits : Limits}

/-- No members contribute nothing. -/
theorem nil (heap : Heap) : Contributions scope limits [] heap [] heap :=
  ⟨.refl heap, rfl, fun _ _ _ => .refl heap, .nil, .nil, by simp⟩

/-- A member that needs no function. -/
theorem bare
    {source : Member PropertyKey Expr × PropertyKey}
    {part : MemberPart}
    {heap : Heap}
    (madeBy : part.MadeBy heap scope limits source)
    (functionless : part.functions = []) :
    Contributions scope limits [source] heap [part] heap :=
  ⟨.refl heap, rfl, fun _ _ _ =>
    .refl heap, .cons madeBy .nil, by simp [functionless],
    by simp [functionless]⟩

/-- A member for which one function is made. -/
theorem single
    {source : Member PropertyKey Expr × PropertyKey}
    {part : MemberPart}
    {heap : Heap}
    {cell : FunctionCell}
    (home : cell.scope = some scope)
    (madeBy : part.MadeBy (heap.newFunction cell).2 scope limits source)
    (own : part.functions = [(heap.newFunction cell).1]) :
    Contributions scope limits [source] heap [part]
      (heap.newFunction cell).2 where
  extension := heap.extends_newFunction cell
  scopes_eq := rfl
  path _ all held := by
    refine .single (.function cell (all cell) fun outer inside => ?_)
    rw [home, Option.mem_some_iff] at inside
    exact inside ▸ held
  madeBy := .cons madeBy .nil
  nodup := by simp [own]
  fresh := by simpa [own] using heap.not_holds_newFunction cell

/-- The contributions of one member and then of others. -/
theorem cons
    {source : Member PropertyKey Expr × PropertyKey}
    {sources : List (Member PropertyKey Expr × PropertyKey)}
    {part : MemberPart}
    {parts : List MemberPart}
    {old middle later : Heap}
    (first : Contributions scope limits [source] old [part] middle)
    (rest : Contributions scope limits sources middle parts later) :
    Contributions scope limits (source :: sources) old
      (part :: parts) later where
  extension := first.extension.trans rest.extension
  scopes_eq := rest.scopes_eq.trans first.scopes_eq
  path makes all held :=
    (first.path makes all held).trans
      (rest.path makes all (first.extension.holds _ held))
  madeBy := by
    obtain ⟨madeBy, -⟩ := List.forall₂_cons.1 first.madeBy
    exact .cons (madeBy.mono rest.extension) rest.madeBy
  nodup := by
    obtain ⟨madeBy, -⟩ := List.forall₂_cons.1 first.madeBy
    have own : part.functions.Nodup := by simpa using first.nodup
    rw [List.flatMap_cons, List.nodup_append]
    refine ⟨own, rest.nodup, ?_⟩
    rintro function inFirst other inRest rfl
    exact rest.fresh function inRest (madeBy.holds_functions function inFirst)
  fresh := by
    intro function present
    rw [List.flatMap_cons, List.mem_append] at present
    rcases present with inFirst | inRest
    · exact first.fresh function (by simpa using inFirst)
    · intro held
      exact rest.fresh function inRest (first.extension.holds _ held)

end Contributions

/-- A member that is no field makes a function and defines it in its role. -/
theorem elaborateMember_of_role
    (scope : ScopeRef)
    (limits : Limits)
    {member : Member PropertyKey Expr}
    {role : MemberRole}
    (key : PropertyKey)
    (state : State)
    (plays : member.kind.role? = some role) :
    let made := state.heap.newFunction
      (memberFunction scope limits member key role)
    elaborateMember scope limits member key state =
      .ok (.definition ⟨key, role, made.1⟩) { state with heap := made.2 } := by
  cases kind : member.kind <;> rw [kind] at plays <;> cases plays <;>
    simp [elaborateMember, kind, bind, EStateM.bind, memberFunction, pure,
      EStateM.pure]

/-- A member is put together by making its function, if it needs one. -/
theorem elaborateMember_apply
    (scope : ScopeRef)
    (limits : Limits)
    (member : Member PropertyKey Expr)
    (key : PropertyKey)
    (state : State) :
    ∃ part later,
      elaborateMember scope limits member key state =
        .ok part { state with heap := later } ∧
        Contributions scope limits [(member, key)] state.heap [part] later := by
  cases plays : member.kind.role? with
  | some role =>
      let cell := memberFunction scope limits member key role
      refine ⟨.definition ⟨key, role, (state.heap.newFunction cell).1⟩,
        (state.heap.newFunction cell).2,
        elaborateMember_of_role scope limits key state plays,
        .single rfl ?_ rfl⟩
      exact ⟨rfl, plays, state.heap.holds_newFunction cell,
        state.heap.function_newFunction_self cell⟩
  | none =>
      have field : member.kind = .field := by
        cases kind : member.kind <;> simp_all [MemberKind.role?]
      cases initial : member.body with
      | none =>
          refine ⟨.field ⟨key, none⟩, state.heap, ?_, .bare ?_ rfl⟩
          · simp [elaborateMember, field, initial, pure, EStateM.pure]
          · exact ⟨rfl, field, by simp [initial], by simp, by simp⟩
      | some body =>
          let cell := fieldFunction scope limits member key body
          refine ⟨.field ⟨key, some (state.heap.newFunction cell).1⟩,
            (state.heap.newFunction cell).2, ?_, .single rfl ?_ rfl⟩
          · simp [elaborateMember, field, initial, bind, EStateM.bind, cell,
              fieldFunction, pure, EStateM.pure]
          · refine ⟨rfl, field, by simp [initial], ?_, ?_⟩
            · rintro function ⟨⟩
              exact state.heap.holds_newFunction cell
            · rintro function ⟨⟩ other same
              rw [initial, Option.mem_some_iff] at same
              rw [← same]
              exact state.heap.function_newFunction_self cell

/-- Members are put together one after another. -/
theorem elaborateMembers_apply
    (scope : ScopeRef)
    (limits : Limits)
    (sources : List (Member PropertyKey Expr × PropertyKey))
    (state : State) :
    ∃ parts later,
      elaborateMembers scope limits sources state =
        .ok parts { state with heap := later } ∧
        Contributions scope limits sources state.heap parts later := by
  induction sources generalizing state with
  | nil => exact ⟨[], state.heap, rfl, .nil state.heap⟩
  | cons source rest hypothesis =>
      obtain ⟨member, key⟩ := source
      obtain ⟨part, middle, first, contributed⟩ :=
        elaborateMember_apply scope limits member key state
      obtain ⟨parts, later, others, contributions⟩ :=
        hypothesis { state with heap := middle }
      refine ⟨part :: parts, later, ?_, contributed.cons contributions⟩
      rw [elaborateMembers, RunM.bind_of_ok first, RunM.bind_of_ok others]
      rfl

end ClassLowering
