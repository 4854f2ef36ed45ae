import ClassLowering.Proofs.Depths.HostCalls
import ClassLowering.Proofs.Depths.Regress

/-!
# Recursion through fresh entries

A body that elaborates a class or copies fields enters the engine afresh: the
bodies that this runs start at the first depth again. So a function that calls
itself on such a way never gets deeper than the second level. No limit stops it,
and as many of its bodies become active as the host has room for.

There are two such ways. The key of a class may call the function that
elaborates the class, and a copy may run the setter that does the copying.
-/

namespace ClassLowering

/-- A host call nests any number of bodies, all of them deep inside their
limits. -/
def NestsWithoutBound (request : HostCall) (before : State) : Prop :=
  ∀ bound, ∃ after newer older,
    request.run (callWithin bound .none) before = .error .stalled after ∧
      after.record = newer ++ older ++ before.record ∧
        (active older).length = bound ∧
        ∀ entry ∈ active older, entry.depth ≤ 2 ∧ entry.limit after.heap = 256

/-- An entry that runs on one of the first two levels, in a function with the
standard limit. -/
structure BodyEntry.Unlimited (heap : Heap) (entry : BodyEntry) : Prop where
  held : heap.Holds (.function entry.function)
  depth : entry.depth ≤ 2
  limit : entry.limit heap = 256

/-- What is far from its limit stays so. -/
theorem BodyEntry.Unlimited.mono
    {heap later : Heap}
    {entry : BodyEntry}
    (unlimited : entry.Unlimited heap)
    (extension : heap.Extends later) :
    entry.Unlimited later := by
  refine ⟨extension.holds _ unlimited.held, unlimited.depth, ?_⟩
  rw [BodyEntry.limit, extension.function_eq entry.function unlimited.held]
  exact unlimited.limit

/-- What is about to run far from its limit is not beyond it. -/
theorem BodyEntry.Unlimited.shallow
    {heap : Heap}
    {invocation : Invocation}
    (unlimited : invocation.entry.Unlimited heap) :
    invocation.depth ≤
      (heap.function invocation.function).limits.callDepth := by
  have limit : (heap.function invocation.function).limits.callDepth = 256 :=
    unlimited.limit
  rw [limit]
  exact UInt32.le_trans unlimited.depth (by decide)

/-- A regress of bodies that are far from their limits nests without bound. -/
theorem Regress.nestsWithoutBound
    {moment : List BodyEntry -> Invocation -> State -> Prop}
    {request : HostCall}
    {invocation : Invocation}
    {before : State}
    (regress : Regress moment)
    (now : moment [] invocation before)
    (unlimited : ∀ entries next state, moment entries next state ->
      ∀ entry ∈ entries, entry.Unlimited state.heap)
    (runs : ∀ (call : Invoker) (after : State),
      call invocation before = .error .stalled after ->
      request.run call before = .error .stalled after) :
    NestsWithoutBound request before := by
  intro bound
  obtain ⟨newer, next, between, long, reached, recorded, stalls⟩ :=
    regress.stalls bound now
  rw [List.append_nil] at reached
  refine ⟨between.cutOff bound, List.replicate bound (.left (some .stalled)),
    newer.map BodyEvent.entered, runs _ _ (stalls .none), ?_, ?_, ?_⟩
  · rw [State.cutOff, recorded, List.append_assoc]
  · rw [active_entered, long]
  · rw [active_entered]
    intro entry present
    have far := unlimited newer next between reached entry present
    exact ⟨far.depth, far.limit⟩

section Elaboration

/-- The body of a key that calls the function in a variable. -/
def callingKey : Expr := .apply (.frame .call)
    [.apply (.storage (.variable "again")) []]

/-- A body that elaborates a class whose only key calls the function in a
variable. -/
def elaborating : Expr :=
  .klass {
    blueprint := {
      name := none
      scope := none
      body := ⟨[⟨.method, .computed callingKey, false, none, [], 0⟩], none⟩ }
    binding := .expression
    limits := .standard }

/-- The function of a key that calls the function in a variable. -/
def callingKeyCell (scope : ScopeRef) : FunctionCell :=
  ⟨"", .computedKey, [], callingKey, some scope, .standard⟩

/-- The function that elaborates a class. -/
def elaboratingCell : FunctionCell :=
    ⟨"again", .ordinary, [], elaborating, none, .standard⟩

variable {call : Caller} {frame : Frame} {holding : Holding}
  {before after : State}

/-- An elaboration is interrupted where its first key is. -/
theorem elaborate_of_error
    {hint : Option String}
    {draft : ClassDraft}
    {limits : Limits}
    {body : Expr}
    {rest : List (MemberKey PropertyKey Expr)}
    (first : (ClassBody.inOrder draft.body.members).map Member.key =
      .computed body :: rest)
    (stalls :
      let opened := before.heap.openClassScope draft.scope draft.name
      let made := opened.2.newFunction
        ⟨"", .computedKey, [], body, some opened.1, limits⟩
      ∀ held, call held ⟨made.1, .undefined, [], 1⟩
        { before with heap := made.2 } = .error .stalled after) :
    elaborate call holding limits hint draft before =
      .error .stalled after := by
  let opened := before.heap.openClassScope draft.scope draft.name
  let inScope := call (holding.holdScope opened.1)
  have key : evaluateKey inScope opened.1 limits (.computed body)
      { before with heap := opened.2 } = .error .stalled after := by
    rw [evaluateKey, RunM.bind_of_ok (RunM.allocate_apply _ _)]
    exact RunM.bind_of_error (stalls _)
  have wrapped : RunM.mapFault (.keyEvaluation 0)
      (evaluateKey inScope opened.1 limits (.computed body))
      { before with heap := opened.2 } =
        .error .stalled after := by
    rw [RunM.mapFault, key]
  rw [elaborate, RunM.bind_of_ok (RunM.allocate_apply _ _), first]
  exact RunM.bind_of_error (RunM.bind_of_error wrapped)

/-- A body that elaborates the class stalls where the key of the class does. -/
theorem start_elaborating
    (stalls :
      let opened := before.heap.newScope (some frame.scope)
      let made := opened.2.newFunction (callingKeyCell opened.1)
      ∀ held, call held ⟨made.1, .undefined, [], 1⟩
        { before with heap := made.2 } = .error .stalled after) :
    BodyM.start (evaluate call ⟨some frame, holding⟩ elaborating) before =
      .error .stalled after := by
  let draft : ClassDraft :=
    ⟨none, ⟨[⟨.method, .computed callingKey, false, none, [], 0⟩], none⟩,
      frame.scope⟩
  obtain ⟨held, next, asks⟩ : ∃ held next,
      evaluate call ⟨some frame, holding⟩ elaborating ⟨before, ∅, .empty⟩ =
        ((BodyM.lift (elaborate call held .standard none draft)) >>= next)
          ⟨before, ∅, .empty⟩ :=
    ⟨_, _, rfl⟩
  have elaborates : elaborate call held .standard none draft before =
      .error .stalled after :=
    elaborate_of_error rfl stalls
  exact BodyM.start_of_error
    (asks.trans (BodyM.bind_of_error (BodyM.lift_of_error elaborates)))

/-- A key that calls the function in a variable stalls where the
function does. -/
theorem start_callingKey
    {function : FunctionRef}
    (stored : before.session.storedValues.find? "again" =
      some (.function function))
    (stalls : ∀ held, call held
      ⟨function, .undefined, [], frame.depth + 1⟩ before =
      .error .stalled after) :
    BodyM.start (evaluate call ⟨some frame, holding⟩ callingKey) before =
      .error .stalled after := by
  obtain ⟨held, asks⟩ : ∃ held, evaluate call ⟨some frame, holding⟩ callingKey
      ⟨before, ∅, .empty⟩ =
        BodyM.lift (callValue (call held)
          ((before.session.storedValues.find? "again").getD .undefined)
          .undefined [] (frame.depth + 1)) ⟨before, ∅, .empty⟩ := ⟨_, rfl⟩
  rw [stored, Option.getD_some] at asks
  exact BodyM.start_of_error (asks.trans (BodyM.lift_of_error (stalls held)))

/-- The function in the variable, or the key that calls it, is about to run. -/
structure CallsBack (function : FunctionRef) (entries : List BodyEntry)
    (invocation : Invocation) (state : State) : Prop where
  entered : ∀ entry ∈ invocation.entry :: entries, entry.Unlimited state.heap
  stored : state.session.storedValues.find? "again" = some (.function function)
  held : state.heap.Holds (.function function)
  cell : state.heap.function function = elaboratingCell
  role : invocation.function = function ∨
    invocation.depth = 1 ∧
      ∃ scope, state.heap.function invocation.function = callingKeyCell scope

/-- The function asks for the key of the class that it elaborates, in a new
scope. -/
theorem CallsBack.leadsTo_key
    {function : FunctionRef}
    {entries : List BodyEntry}
    {invocation : Invocation}
    (now : CallsBack function entries invocation before)
    (same : invocation.function = function) :
    ∃ next between, invocation.LeadsTo before next between ∧
      CallsBack function (invocation.entry :: entries) next between := by
  have cell : before.heap.function invocation.function = elaboratingCell := by
    rw [same]
    exact now.cell
  let own := before.heap.newScope none
  let opened := own.2.newScope (some own.1)
  let made := opened.2.newFunction (callingKeyCell opened.1)
  let next : Invocation := ⟨made.1, .undefined, [], 1⟩
  let between : State :=
    { before with heap := made.2, record := .entered invocation.entry ::
      before.record }
  have enters : enterScope (before.heap.function invocation.function) before =
      .ok own.1 { before with heap := own.2 } := by
    rw [cell]
    rfl
  have extension : before.heap.Extends made.2 :=
    ((before.heap.extends_newScope none).trans
      (own.2.extends_newScope (some own.1))).trans
      (opened.2.extends_newFunction (callingKeyCell opened.1))
  have key : made.2.function made.1 = callingKeyCell opened.1 :=
    opened.2.function_newFunction_self (callingKeyCell opened.1)
  have shallow := (now.entered invocation.entry List.mem_cons_self).shallow
  refine ⟨next, between, Invocation.leadsTo_of_start shallow enters rfl ?_,
    ?_, now.stored, extension.holds _ now.held, ?_, .inr ⟨rfl, opened.1, key⟩⟩
  · intro call frame holding after _ _ _ home stalls
    rw [cell]
    refine start_elaborating ?_
    rw [home]
    exact stalls
  · intro entry present
    rcases List.mem_cons.1 present with rfl | older
    · have early : (1 : Depth) ≤ 2 := by decide
      refine ⟨opened.2.holds_newFunction (callingKeyCell opened.1), early, ?_⟩
      exact congrArg (fun cell => cell.limits.callDepth) key
    · exact (now.entered entry older).mono extension
  · exact (extension.function_eq function now.held).trans now.cell

/-- The key asks for the function, on the second level. -/
theorem CallsBack.leadsTo_function
    {function : FunctionRef}
    {entries : List BodyEntry}
    {invocation : Invocation}
    {scope : ScopeRef}
    (now : CallsBack function entries invocation before)
    (first : invocation.depth = 1)
    (cell : before.heap.function invocation.function = callingKeyCell scope) :
    ∃ next between, invocation.LeadsTo before next between ∧
      CallsBack function (invocation.entry :: entries) next between := by
  let next : Invocation := ⟨function, .undefined, [], 2⟩
  let between : State :=
    { before with record := .entered invocation.entry :: before.record }
  have enters : enterScope (before.heap.function invocation.function) before =
      .ok scope before := by
    rw [cell]
    rfl
  have shallow := (now.entered invocation.entry List.mem_cons_self).shallow
  refine ⟨next, between, Invocation.leadsTo_of_start shallow enters rfl ?_,
    ?_, now.stored, now.held, now.cell, .inl rfl⟩
  · intro call frame holding after _ _ depth _ stalls
    rw [cell]
    refine start_callingKey now.stored ?_
    rw [depth, first]
    exact stalls
  · intro entry present
    rcases List.mem_cons.1 present with rfl | older
    · exact ⟨now.held, UInt32.le_refl 2,
        congrArg (fun cell => cell.limits.callDepth) now.cell⟩
    · exact now.entered entry older

/-- The function and the keys of its classes call each other for good. -/
theorem regress_callsBack
    (function : FunctionRef) :
    Regress (CallsBack function) := by
  intro entries invocation before now
  rcases now.role with same | ⟨first, scope, cell⟩
  · exact now.leadsTo_key same
  · exact now.leadsTo_function first cell

/-- The state in which the function is in the variable. -/
def elaboratingState : State :=
  Program.endState (callWithin 0) Program.initialState
    [.evaluate (.function "again" elaborating) (some "again")]

/-- Calling the function nests without bound. -/
theorem nestsWithoutBound_elaborating :
    NestsWithoutBound (.call ⟨0⟩ .undefined []) elaboratingState := by
  have held : elaboratingState.heap.Holds (.function ⟨0⟩) := by
    show 0 < elaboratingState.heap.functions.size
    decide +kernel
  have cell : elaboratingState.heap.function ⟨0⟩ = elaboratingCell := rfl
  have now : CallsBack ⟨0⟩ [] ⟨⟨0⟩, .undefined, [], 1⟩ elaboratingState := by
    refine ⟨fun entry present => ?_, by decide +kernel, held, cell, .inl rfl⟩
    rw [List.mem_singleton.1 present]
    exact ⟨held, by decide, congrArg (fun cell => cell.limits.callDepth) cell⟩
  refine (regress_callsBack ⟨0⟩).nestsWithoutBound now ?_
    fun _ _ stalls => stalls
  exact fun _ _ _ later entry present =>
    later.entered entry (List.mem_cons_of_mem _ present)

end Elaboration

section Copying

/-- A body that copies the object in a variable to its receiver. -/
def copying : Expr :=
  let source : Expr := .apply (.storage (.variable "source")) []
  .apply (.host .copyFields) [.apply (.frame .receiver) [], source]

/-- The key of the setter that copies. -/
def copiedKey : PropertyKey := .ofText "own"

/-- The setter that copies. -/
def copyingCell (scope : ScopeRef) : FunctionCell :=
  ⟨"set own", .setter, [], copying, some scope, .standard⟩

/-- An object has a setter that copies a second object, which has a field
of the same key. -/
structure CopiesItself (heap : Heap) (session : Session) (setter : FunctionRef)
    (target : ObjectRef) : Prop where
  held : heap.Holds (.function setter)
  cell : ∃ scope, heap.function setter = copyingCell scope
  plan : heap.writePlan target copiedKey = .run setter
  source : ∃ source, session.storedValues.find? "source" =
    some (.object source) ∧ (heap.object source).fields.keys = [copiedKey]

variable {before after : State}

/-- A write is interrupted where its setter is. -/
theorem writeObject_of_error
    {call : Invoker}
    {ref : ObjectRef}
    {key : PropertyKey}
    {value : Value}
    {depth : Depth}
    {setter : FunctionRef}
    (plan : before.heap.writePlan ref key = .run setter)
    (stalls : call ⟨setter, .object ref, [value], depth⟩ before =
      .error .stalled after) :
    writeObject call ref key value depth before = .error .stalled after := by
  rw [writeObject_apply, plan]
  exact RunM.bind_of_error stalls

/-- A copy is interrupted where the setter for its first key is. -/
theorem copyFields_of_error
    {call : Invoker}
    {target source : ObjectRef}
    {key : PropertyKey}
    {rest : List PropertyKey}
    {setter : FunctionRef}
    (keys : (before.heap.object source).fields.keys = key :: rest)
    (plan : before.heap.writePlan target key = .run setter)
    (stalls : call ⟨setter, .object target,
      [before.heap.fieldValue source key], 1⟩ before = .error .stalled after) :
    copyFields call target (.object source) before = .error .stalled after := by
  have writes := writeObject_of_error plan stalls
  rw [copyFields, RunM.bind_of_ok (RunM.readHeap_apply _ _), keys, copyKeys,
    RunM.bind_of_ok (RunM.readHeap_apply _ _)]
  exact RunM.bind_of_error writes

/-- A body that copies to an object stalls where the copy does. -/
theorem start_copying
    {call : Caller}
    {frame : Frame}
    {holding : Holding}
    {target : ObjectRef}
    {source : Value}
    (receiver : frame.receiver = .object target)
    (stored : before.session.storedValues.find? "source" = some source)
    (stalls : ∀ held, copyFields (call held) target source before =
      .error .stalled after) :
    BodyM.start (evaluate call ⟨some frame, holding⟩ copying) before =
      .error .stalled after := by
  obtain ⟨held, asks⟩ : ∃ held, evaluate call ⟨some frame, holding⟩ copying
      ⟨before, ∅, .empty⟩ =
        BodyM.lift (performHost (call held) frame.depth .copyFields
          [frame.receiver, (before.session.storedValues.find? "source").getD
            .undefined])
          ⟨before, ∅, .empty⟩ := ⟨_, rfl⟩
  rw [stored, receiver, Option.getD_some] at asks
  have copies :
      performHost (call held) frame.depth .copyFields
        [.object target, source] before =
      .error .stalled after := by
    show (copyFields (call held) target source >>= fun _ =>
      pure (Value.object target)) before = _
    exact RunM.bind_of_error (stalls held)
  exact BodyM.start_of_error (asks.trans (BodyM.lift_of_error copies))

/-- The setter that copies is about to run. -/
structure SetsAgain (setter : FunctionRef) (target : ObjectRef)
    (entries : List BodyEntry)
    (invocation : Invocation) (state : State) : Prop where
  entered : ∀ entry ∈ invocation.entry :: entries, entry.Unlimited state.heap
  function : invocation.function = setter
  receiver : invocation.receiver = .object target
  copies : CopiesItself state.heap state.session setter target

/-- The setter runs itself for good. -/
theorem regress_setsAgain (setter : FunctionRef) (target : ObjectRef) :
    Regress (SetsAgain setter target) := by
  intro entries invocation before now
  obtain ⟨scope, cell⟩ := now.copies.cell
  obtain ⟨source, stored, keys⟩ := now.copies.source
  let next : Invocation :=
    ⟨setter, .object target, [before.heap.fieldValue source copiedKey], 1⟩
  let between : State :=
    { before with record := .entered invocation.entry :: before.record }
  have own : before.heap.function invocation.function = copyingCell scope := by
    rw [now.function, cell]
  have enters : enterScope (before.heap.function invocation.function) before =
      .ok scope before := by
    rw [own]
    rfl
  have shallow := (now.entered invocation.entry List.mem_cons_self).shallow
  refine ⟨next, between, Invocation.leadsTo_of_start shallow enters rfl ?_,
    ?_, rfl, rfl, now.copies⟩
  · intro call frame holding after _ receiver _ _ stalls
    rw [own]
    exact start_copying (receiver.trans now.receiver) stored
      fun held => copyFields_of_error keys now.copies.plan (stalls held)
  · intro entry present
    rcases List.mem_cons.1 present with rfl | older
    · have early : (1 : Depth) ≤ 2 := by decide
      exact ⟨now.copies.held, early,
        congrArg (fun cell => cell.limits.callDepth) cell⟩
    · exact now.entered entry older

/-- The state in which there is a class with the setter. -/
def setterState : State :=
  let form : ClassForm Expr := {
    blueprint := {
      name := none
      scope := none
      body :=
        { members :=
            [⟨.setter, .literal (.text "own"), false, some copying, [], 0⟩]
          constructor := none } }
    binding := .expression
    limits := .standard }
  Program.endState (callUntil (fun _ => false) 0) Program.initialState
    [.evaluate (.klass form) (some "made")]

/-- The state in which there are an object of the class, and one to copy. -/
def copyingState : State :=
  let made : Expr := .apply (.storage (.variable "made")) []
  let source : Expr := .apply (.storage (.variable "source")) []
  Program.endState (callUntil (fun _ => false) 1) setterState
    [.evaluate (.apply (.host .construct) [made]) none,
      .evaluate (.apply (.host .newObject) []) (some "source"),
      .evaluate (.apply (.host .writeProperty)
        [source, .literal (.string "own")]) none]

/-- The object of the class copies the other one to itself. -/
theorem copiesItself_copyingState :
    CopiesItself copyingState.heap copyingState.session ⟨0⟩ ⟨0⟩ := by
  have held : setterState.heap.Holds (.function ⟨0⟩) := by
    show 0 < setterState.heap.functions.size
    decide +kernel
  have sound : setterState.Sound :=
    Program.sound_endState _ 0 _ Program.sound_initialState
  have extension : setterState.heap.Extends copyingState.heap :=
    (Program.moves_endState _ 1 _ sound).path.extension
  refine ⟨extension.holds _ held,
    ⟨⟨1⟩, ?_⟩, by decide +kernel, ⟨1⟩, by decide +kernel,
    by decide +kernel⟩
  rw [extension.function_eq ⟨0⟩ held]
  rfl

/-- Setting the property nests without bound. -/
theorem nestsWithoutBound_copying :
    NestsWithoutBound (.set ⟨0⟩ copiedKey .null) copyingState := by
  have copies := copiesItself_copyingState
  obtain ⟨scope, cell⟩ := copies.cell
  have now :
      SetsAgain ⟨0⟩ ⟨0⟩ [] ⟨⟨0⟩, .object ⟨0⟩, [.null], 1⟩ copyingState := by
    refine ⟨fun entry present => ?_, rfl, rfl, copies⟩
    rw [List.mem_singleton.1 present]
    exact ⟨copies.held, by
      decide, congrArg (fun cell => cell.limits.callDepth) cell⟩
  refine (regress_setsAgain ⟨0⟩ ⟨0⟩).nestsWithoutBound now ?_ ?_
  · exact fun _ _ _ later entry present =>
      later.entered entry (List.mem_cons_of_mem _ present)
  · exact fun _ _ stalls =>
      RunM.bind_of_error (writeObject_of_error copies.plan stalls)

end Copying

end ClassLowering
