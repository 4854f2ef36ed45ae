import ClassLowering.Proofs.Elaboration.Keys
import ClassLowering.Proofs.Elaboration.Soundness
import ClassLowering.Semantics.Calls

/-!
# Keys are evaluated once

An elaboration asks its caller for what the evaluation of its keys asks for, and
for nothing else: putting the class together runs no body. The functions of
computed keys belong to no class, so an instantiation never asks for them again.
-/

namespace ClassLowering

section Instantiation

variable {first second : Invoker} {before : State}

/-- The initializers of fields are all that is asked for when fields are
defined. -/
theorem defineFields_congr
    {fields : List FieldDeclaration}
    (ref : ObjectRef)
    (depth : Depth)
    (agree : ∀ invocation state,
      invocation.function ∈ fields.filterMap FieldDeclaration.initializer? ->
        first invocation state = second invocation state) :
    defineFields first ref depth fields =
      defineFields second ref depth fields := by
  induction fields with
  | nil => rfl
  | cons field rest hypothesis =>
      have others := hypothesis fun invocation state present =>
          agree invocation state (by
            rw [List.filterMap_cons]
            split
            · exact present
            · exact List.mem_cons_of_mem _ present)
      rw [defineFields, defineFields, others]
      cases initial : field.initializer? with
      | none => rfl
      | some function =>
          have own : first ⟨function, .object ref, [], depth⟩ =
              second ⟨function, .object ref, [], depth⟩ := by
            funext state
            refine agree _ state ?_
            rw [List.filterMap_cons_some initial]
            exact List.mem_cons_self
          dsimp only
          rw [own]

/-- The functions of a class are all that is asked for when it is
instantiated. -/
theorem construct_congr
    {klass : ClassRef}
    (args : List Value)
    (depth : Depth)
    (agree : ∀ invocation state, invocation.function ∈
      (before.heap.klass klass).functions ->
      first invocation state = second invocation state) :
    construct first klass args depth before =
      construct second klass args depth before := by
  have fields (object : ObjectRef) :
      defineFields first object (depth + 1) (before.heap.klass klass).fields =
        defineFields second object (depth + 1)
          (before.heap.klass klass).fields :=
    defineFields_congr object _ fun invocation state present =>
      agree invocation state
      (List.mem_cons_of_mem _ (List.mem_append_left _ present))
  have constructor (object : ObjectRef) :
      first ⟨(before.heap.klass klass).constructor, .object object, args,
        depth + 1⟩ =
        second ⟨(before.heap.klass klass).constructor, .object object, args,
          depth + 1⟩ := by
    funext state
    exact agree _ state List.mem_cons_self
  rw [construct, construct, RunM.bind_of_ok (RunM.readHeap_apply _ _),
    RunM.bind_of_ok (RunM.readHeap_apply _ _)]
  simp only [fields, constructor]

end Instantiation

/-- Instantiating a class does not depend on what is done where a computed
key is asked for. -/
def LeavesKeysAlone (klass : ClassRef) (heap : Heap) : Prop :=
  ∀ later : State, heap.Extends later.heap -> ∀ first second : Invoker,
    (∀ invocation state,
      (later.heap.function invocation.function).kind ≠ .computedKey ->
        first invocation state = second invocation state) ->
      ∀ args depth,
        construct first klass args depth later =
          construct second klass args depth later

/-- What never changes about a class makes it leave keys alone in later heaps
too. -/
theorem LeavesKeysAlone.mono
    {klass : ClassRef}
    {heap later : Heap}
    (alone : LeavesKeysAlone klass heap)
    (extension : heap.Extends later) :
    LeavesKeysAlone klass later :=
  fun state further => alone state (extension.trans further)

/-- The function of a member is never the function of a computed key. -/
theorem memberFunction_kind
    {scope : ScopeRef}
    {limits : Limits}
    (member : Member PropertyKey Expr)
    (key : PropertyKey)
    (role : MemberRole) :
    (memberFunction scope limits member key role).kind ≠ .computedKey := by
  cases role with
  | method =>
      cases generates : member.isGenerator <;> simp [memberFunction, generates]
  | getter | setter => simp [memberFunction]

/-- No function of a class that is put together is the function of a computed
key. -/
theorem assembleClass_leavesKeysAlone
    (scope : ScopeRef)
    (limits : Limits)
    (internalName hint : Option String)
    (constructor : Option (ConstructorPart Expr))
    (sources : List (Member PropertyKey Expr × PropertyKey))
    (before : State) :
    ∃ klass later,
      assembleClass scope limits internalName hint constructor sources before =
          .ok klass { before with heap := later } ∧
            LeavesKeysAlone klass later := by
  obtain ⟨parts, middle, contributions, applied⟩ :=
    assembleClass_apply scope limits internalName hint constructor
      sources before
  let cell := constructorFunction scope limits
    (displayName internalName hint) constructor
  let own := middle.newFunction cell
  let klass := assembledClass scope limits internalName hint parts own.1
  let finished := (own.2.newClass klass).2.bindSelf scope internalName
    (own.2.newClass klass).1
  have functions := assembledClass_functions
    (motive := fun cell => cell.kind ≠ .computedKey) internalName hint own.1
    (contributions.madeBy.imp fun source part made =>
      made.mono (middle.extends_newFunction cell))
    (middle.holds_newFunction cell)
    (by rw [middle.function_newFunction_self]; nofun)
    (fun _ _ _ => nofun) memberFunction_kind
  have binds := Heap.extends_bindSelf
    (own.2.newClass klass).2 scope internalName (own.2.newClass klass).1
  refine ⟨(own.2.newClass klass).1, finished, applied, ?_⟩
  intro later extension first second agree args depth
  refine construct_congr args depth fun invocation state asked =>
    agree invocation state ?_
  have whole : own.2.Extends later.heap :=
    ((own.2.extends_newClass klass).trans binds).trans extension
  have same : later.heap.klass (own.2.newClass klass).1 = klass := by
    rw [(binds.trans extension).klass_eq _ (own.2.holds_newClass klass),
      own.2.klass_newClass_self klass]
  rw [same] at asked
  obtain ⟨held, other⟩ := functions _ asked
  rw [whole.function_eq _ held]
  exact other

/--
How an elaboration asks for the bodies of computed keys: in the order of the
members, each at most once, and for nothing else but conversions of their
values.
-/
structure EvaluatesKeysOnce (call : Caller) (held : Holding)
    (ordered : List (Member PropertyKey Expr))
    (elaborates : Caller -> RunM ClassRef)
    (before : State) (requests : List KeyRequest)
    (ended : EStateM.Result Interruption State (List PropertyKey)) : Prop where
  /-- Bodies are asked for in order, and each at most once. -/
  inOrder : requests.filterMap KeyRequest.computed? <+:
    computedBodies 0 (ordered.map Member.key)
  /-- The elaboration depends on its caller by the requests alone. -/
  alone : ∀ other : Caller,
    (∀ request ∈ requests, request.answer (other held) =
      request.answer (call held)) ->
      elaborates other before = elaborates call before
  /-- The first failure ends the elaboration, with its cause, in the state
  that it leaves. -/
  stops : ∀ interruption after, ended = .error interruption after ->
    elaborates call before = .error interruption after ∧
      ∃ index cause, interruption = cause.atKey index ∧
        FailsLast (call held) requests index cause after
  /-- If all keys are evaluated, each body was asked for exactly once, and
  constructions ask for none. -/
  completes : ∀ keys after, ended = .ok keys after ->
    requests.filterMap KeyRequest.computed? =
      computedBodies 0 (ordered.map Member.key) ∧
      match declarationFault? ((ordered.map Member.kind).zip keys) with
      | some cause => elaborates call before = .error (.fault cause) after
      | none => ∃ klass later,
          elaborates call before = .ok klass { after with heap := later } ∧
            LeavesKeysAlone klass later

/--
An elaboration evaluates the computed keys of its members in the stable order of
their positions, each from the state that the one before it left, and stops at
the first failure. It asks for each body once, and an instantiation never does.
-/
theorem keys_of_elaborateAs
    {draft : ClassDraft}
    {binding : ClassBinding}
    (call : Caller)
    (holding : Holding)
    (limits : Limits)
    (before : State)
    (named : binding = .declaration -> draft.name.isSome = true) :
    let held := holding.holdScope
      (before.heap.openClassScope draft.scope draft.name).1
    ∃ requests ended, draft.RequestsKeys call holding limits before
      requests ended ∧
      EvaluatesKeysOnce call held (ClassBody.inOrder draft.body.members)
        (fun call => elaborateAs call holding limits draft binding) before
        requests ended := by
  intro held
  let opening := before.heap.openClassScope draft.scope draft.name
  let ordered := ClassBody.inOrder draft.body.members
  obtain ⟨requests, evaluates⟩ :=
    exists_keysEvaluate (call held) opening.1 limits 0
    (ordered.map Member.key) { before with heap := opening.2 }
  refine ⟨requests, _, evaluates, evaluates.computed_prefix, ?_, ?_, ?_⟩
  · intro other agrees
    rw [elaborateAs_apply other holding limits before named,
      elaborateAs_apply call holding limits before named, elaborate_apply,
      elaborate_apply, evaluates.ends agrees]
  · intro interruption after stopped
    rw [stopped] at evaluates
    refine ⟨?_, evaluates.failsLast⟩
    rw [elaborateAs_apply call holding limits before named,
      elaborate_apply, stopped]
  · intro keys after evaluated
    rw [evaluated] at evaluates
    refine ⟨evaluates.computed_eq, ?_⟩
    rw [elaborateAs_apply call holding limits before named,
      elaborate_apply, evaluated]
    dsimp only
    cases declarationFault?
        (((ClassBody.inOrder draft.body.members).map Member.kind).zip keys) with
    | some cause => rfl
    | none =>
        obtain ⟨klass, later, assembled, alone⟩ :=
          assembleClass_leavesKeysAlone opening.1 limits
          draft.name binding.hint? draft.body.constructor
          (ordered.zip keys) after
        dsimp only
        rw [assembled]
        exact ⟨klass, _, rfl, alone.mono
          (binding.extends_settle draft klass later)⟩

end ClassLowering
