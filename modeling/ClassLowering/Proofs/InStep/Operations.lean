import ClassLowering.Evaluation.FrameOperation
import ClassLowering.Proofs.HostSubjects
import ClassLowering.Proofs.InStep.SessionOperations

/-!
# Operations in step

The operations of the host and of running bodies are in step in two runs when
the bodies are that they ask for. What a body sees of its call is the same in
both, but for how often it may yield.
-/

namespace ClassLowering

section Bodies

variable {likeness : Likeness} {coupling : Coupling likeness} {given : Prop}

/-- A local variable takes a value that bodies may get hold of. -/
theorem inStep_setLocal
    {value : Value}
    (name : String)
    (seen : given -> likeness.visible value) :
    coupling.InStep given (BodyM.setLocal name value)
      (BodyM.setLocal name value) (Agree fun _ => True) :=
  coupling.settled
    { quiet := fun _ => .refl _
      alike := fun before further facts like => by
        refine .ok ⟨rfl, trivial⟩ ⟨like.state, ?_, like.yields,
          like.seenLocals.insert name (seen facts), like.seenYields⟩
        exact congrArg (·.insert name value) like.locals }

/-- A local variable yields what it took. -/
theorem inStep_getLocal (name : String) :
    coupling.InStep given (BodyM.getLocal name) (BodyM.getLocal name)
      (Agree likeness.visible) :=
  coupling.settled
    { quiet := fun _ => .refl _
      alike := fun before further _ like => by
        refine .ok ⟨?_, BodyState.Like.seenLocals like |>.find? name⟩ like
        exact congrArg (fun locals =>
          (OrderedMap.find? locals name).getD .undefined) like.locals }

/-- What a body holds is the same in both runs. -/
theorem inStep_holding (context : Context) (operands : List Value) :
    coupling.InStep given (BodyM.holding context operands)
      (BodyM.holding context operands) (Agree fun _ => True) :=
  coupling.settled
    { quiet := fun _ => .refl _
      alike := fun before further _ like => by
        refine .ok ⟨?_, trivial⟩ like
        rw [like.locals, like.yields] }

/-- Rounds that are in step make a loop that is. -/
theorem inStep_countUp
    {action further : Nat -> BodyM Unit}
    (rounds index : Nat)
    (each : ∀ index, coupling.InStep given (action index) (further index)
      (Agree fun _ => True)) :
    coupling.InStep given (BodyM.countUp action rounds index)
      (BodyM.countUp further rounds index) (Agree fun _ => True) := by
  induction rounds generalizing index with
  | zero => exact .pure fun _ => trivial
  | succ rounds hypothesis =>
      exact .bind (each index) fun _ => (hypothesis (index + 1)).mono And.left

/-- Operations on variables, symbols or the log. -/
theorem inStep_performStorage
    {operands : List Value}
    (holding : Holding)
    (operation : StorageOperation)
    (seen : given -> likeness.AllVisible operands) :
    coupling.InStep given (performStorage holding operation operands)
      (performStorage holding operation operands) (Agree likeness.visible) := by
  have first (facts : given) : likeness.visible (operand operands 0) :=
    (seen facts).getD 0
  cases operation with
  | symbol name =>
      exact .bind (coupling.lift (inStep_symbolNamed name)) fun _ => .value
  | freshSymbol name description =>
      refine .bind
        (coupling.lift
          (.allocate' (fun heap => ⟨heap.extends_newSymbol description, rfl⟩)
            fun _ _ _ like => like.newSymbol description)) fun symbol => ?_
      exact .bind (coupling.lift (inStep_storeSymbol name symbol))
        fun _ => .value
  | «variable» name =>
      have reads : coupling.InStep given (RunM.readSession (·.storedValues))
          (RunM.readSession (·.storedValues))
          (Agree fun values => likeness.AllVisible values.values) :=
        .readSession fun _ stored => stored
      exact .bind (coupling.lift reads) fun values => .pure fun facts =>
        facts.2.find? name
  | setVariable name =>
      refine .bind (coupling.lift (.changeSession (fun _ => List.suffix_rfl)
        fun facts _ stored => ?_)) fun _ => .pure fun facts => first facts.1
      exact stored.insert name (first facts)
  | localVariable name => exact inStep_getLocal name
  | setLocalVariable name =>
      exact .bind (inStep_setLocal name first) fun _ => .pure fun facts =>
        first facts.1
  | log =>
      refine .bind (coupling.lift (inStep_showValue _)) fun shown => ?_
      exact .bind (coupling.lift (inStep_log (.value shown))) fun _ =>
        .pure fun facts => first facts.1.1
  | release name => exact coupling.lift (inStep_releaseClass holding name)

end Bodies

section Host

variable {likeness : Likeness} {coupling : Coupling likeness} {given : Prop}
variable {call other : Invoker}

/-- Looking up a shared function of a class. -/
theorem inStep_lookUpMember
    {find : Prototype -> PropertyKey -> Option FunctionRef}
    (calls : coupling.Calls call other)
    (keyDepth : Depth)
    (klass key : Value)
    (finds : ∀ {prototype key function}, find prototype key = some function ->
      function ∈ prototype.functions) :
    coupling.InStep given (lookUpMember call keyDepth klass key find)
      (lookUpMember other keyDepth klass key find)
      (Agree likeness.visible) := by
  refine .bind (inStep_asClass klass) fun ref => ?_
  refine .bind (inStep_toKey calls key keyDepth) fun key => ?_
  have reads : coupling.InStep ((given ∧ True) ∧ True)
      (RunM.readHeap fun heap => (heap.klass ref).prototype)
      (RunM.readHeap fun heap => (heap.klass ref).prototype)
      (Agree fun prototype => ∀ function ∈ prototype.functions,
        likeness.visible (.function function)) :=
    .readHeap fun _ _ _ like =>
      ⟨(like.klass ref).prototype, (like.shows.klass ref).shared⟩
  refine .bind reads fun prototype => .pure fun facts => ?_
  cases found : find prototype key with
  | none => exact likeness.visible_undefined
  | some function => exact facts.2 function (finds found)

/-- Looking at an object. -/
theorem Coupling.InStep.readObject (ref : ObjectRef) :
    coupling.InStep given (RunM.readHeap (·.object ref))
      (RunM.readHeap (·.object ref))
      (Agree fun cell => cell.Shows likeness.visible) :=
  .readHeap fun _ _ _ like =>
    ⟨congrFun like.object_eq ref, like.shows.object ref⟩

/-- A generator hands out what bodies may get hold of. -/
theorem Heap.Shows.nextValue
    {heap : Heap}
    (shows : heap.Shows likeness.visible)
    (ref : GeneratorRef) :
    likeness.visible (heap.nextYield ref).1.value := by
  have seen := shows.generator ref
  unfold Heap.nextYield
  generalize heap.generator ref = cell at seen
  obtain ⟨pending, completion⟩ := cell
  rcases pending with _ | ⟨first, rest⟩
  · cases completion with
    | none => exact likeness.visible_undefined
    | some value =>
        exact seen value (List.mem_append_right _ List.mem_cons_self)
  · exact seen first List.mem_cons_self

section Subjects

variable {operation : HostOperation} {operands : List Value}

/-- Making things and calling them. -/
theorem inStep_calls
    (serves : coupling.Serves call other)
    (keyDepth : Depth)
    (seen : given -> likeness.AllVisible operands)
    (about : operation.subject = .call) :
    coupling.InStep given (performHost call keyDepth operation operands)
      (performHost other keyDepth operation operands)
      (Agree likeness.visible) := by
  cases operation with
  | newObject =>
      exact .bind (.allocate' (fun heap => ⟨heap.extends_newObject none, rfl⟩)
        fun _ _ _ like => like.newObject none)
        fun _ => .value
  | construct =>
      exact .bind (inStep_asClass _) fun klass =>
        (serves.constructs klass _ 1).mono fun facts => (seen facts.1).drop 1
  | callClass => exact .bind (inStep_asClass _) fun klass => .guard klass
  | callFunction =>
      exact .bind (inStep_asFunction _) fun function => serves.calls.inStep
        (fun facts => facts.2 ▸ (seen facts.1).getD 0)
        (fun facts => (seen facts.1).getD 1) fun facts => (seen facts.1).drop 2
  | _ => cases about

/-- Asking for classes. -/
theorem inStep_classes
    (keyDepth : Depth)
    (about : operation.subject = .klass) :
    coupling.InStep given (performHost call keyDepth operation operands)
      (performHost other keyDepth operation operands)
      (Agree likeness.visible) := by
  cases operation with
  | sameClass =>
      exact .bind (inStep_asClass _) fun _ =>
        .bind (inStep_asClass _) fun _ => .value
  | classOf =>
      refine .bind (inStep_asObject _) fun object =>
        .bind (.readObject object) fun cell => ?_
      refine .value fun ref => ?_
      cases cell.klass <;> nofun
  | samePrototype =>
      refine .bind (inStep_asObject _) fun left =>
        .bind (.readObject left) fun leftCell => ?_
      refine .bind (inStep_asObject _) fun right =>
        .bind (.readObject right) fun rightCell => ?_
      cases leftCell.klass with
      | none => exact .value
      | some leftClass => cases rightCell.klass <;> exact .value
  | prototypeClass => exact .bind (inStep_asClass _) fun _ => .value
  | isInstance =>
      refine .bind (inStep_asClass _) fun klass => ?_
      exact .bind (.readHeap' fun _ _ like =>
        congrFun₂ like.isInstance_eq _ klass) fun _ => .value
  | _ => cases about

/-- Looking up what a class shares. -/
theorem inStep_members
    (calls : coupling.Calls call other)
    (keyDepth : Depth)
    (about : operation.subject = .member) :
    coupling.InStep given (performHost call keyDepth operation operands)
      (performHost other keyDepth operation operands)
      (Agree likeness.visible) := by
  cases operation with
  | prototypeMethod =>
      exact inStep_lookUpMember calls keyDepth _ _
        Prototype.mem_functions_of_method?
  | prototypeGetter =>
      exact inStep_lookUpMember calls keyDepth _ _
        Prototype.mem_functions_of_getter?
  | prototypeSetter =>
      exact inStep_lookUpMember calls keyDepth _ _
        Prototype.mem_functions_of_setter?
  | fieldInitializer =>
      refine .bind (inStep_asClass _) fun klass =>
        .readKlass_bind fun cell _ => ?_
      refine .pure fun facts => ?_
      cases found : (cell.fields[(operand operands 1).toCount]?).bind
          FieldDeclaration.initializer? with
      | none => exact likeness.visible_undefined
      | some function =>
          obtain ⟨field, declared, initial⟩ := Option.bind_eq_some_iff.1 found
          exact facts.2.2.initializer field (List.mem_of_getElem? declared)
            function initial
  | _ => cases about

/-- Working on the properties of objects. -/
theorem inStep_properties
    (calls : coupling.Calls call other)
    (keyDepth : Depth)
    (seen : given -> likeness.AllVisible operands)
    (about : operation.subject = .property) :
    coupling.InStep given (performHost call keyDepth operation operands)
      (performHost other keyDepth operation operands)
      (Agree likeness.visible) := by
  cases operation with
  | readProperty =>
      refine .bind (inStep_asObject _) fun object => ?_
      exact .bind (inStep_toKey calls _ keyDepth) fun key =>
        inStep_readObject calls object key 1
  | writeProperty =>
      refine .bind (inStep_asObject _) fun object => ?_
      refine .bind (inStep_toKey calls _ keyDepth) fun key => ?_
      exact .bind (inStep_writeObject calls object key 1 fun facts =>
        (seen facts.1.1).getD 2) fun _ => .value
  | invokeProperty =>
      refine .bind (inStep_asObject _) fun object => ?_
      refine .bind (inStep_toKey calls _ keyDepth) fun key => ?_
      exact inStep_invokeObject calls object key fun facts =>
        (seen facts.1.1).drop 2
  | ownField =>
      refine .bind (inStep_asObject _) fun object => ?_
      refine .bind (inStep_toKey calls _ keyDepth) fun key => ?_
      refine .bind (.readObject object) fun cell => .pure fun facts => ?_
      cases found : cell.fields.find? key with
      | none => exact likeness.visible_of_not_function _ nofun
      | some value => exact facts.2 value (OrderedMap.mem_values_of_find? found)
  | hasOwnField =>
      refine .bind (inStep_asObject _) fun object => ?_
      refine .bind (inStep_toKey calls _ keyDepth) fun key => ?_
      exact .bind (.readObject object) fun _ => .value
  | copyFields =>
      refine .bind (inStep_asObject _) fun object => ?_
      exact .bind (inStep_copyFields calls object _) fun _ =>
        .pure fun facts => (seen facts.1.1).getD 0
  | toKey =>
      refine .bind (inStep_toKey calls _ keyDepth) fun key => ?_
      cases key with
      | ofText text => exact .value
      | ofSymbol symbol => exact .value
  | _ => cases about

/-- Taking what generators hold. -/
theorem inStep_generators
    (keyDepth : Depth)
    (about : operation.subject = .generator) :
    coupling.InStep given (performHost call keyDepth operation operands)
      (performHost other keyDepth operation operands)
      (Agree likeness.visible) := by
  cases operation with
  | nextYield =>
      refine .bind (inStep_asGenerator _) fun generator => ?_
      have yields :
          coupling.InStep (given ∧ True) (RunM.allocate (·.nextYield generator))
          (RunM.allocate (·.nextYield generator))
          (Agree fun delivery => likeness.visible delivery.value) :=
        .allocate (fun heap => ⟨heap.extends_nextYield generator, rfl⟩)
            fun _ _ _ like =>
          ⟨like.nextYield generator, like.shows.nextValue generator⟩
      exact .bind yields fun _ => .pure And.right
  | isExhausted =>
      refine .bind (inStep_asGenerator _) fun generator => ?_
      exact .bind (.readHeap' fun _ _ like =>
        congrFun like.generator_eq generator) fun _ => .value
  | drainCount =>
      refine .bind (inStep_asGenerator _) fun generator => ?_
      exact .bind
        (.allocate' (fun heap => ⟨heap.extends_drainYields generator, rfl⟩)
          fun _ _ _ like => like.drainYields generator)
        fun _ => .value
  | _ => cases about

/-- Operations of the host, whatever they work on. -/
theorem inStep_performHost
    (serves : coupling.Serves call other)
    (keyDepth : Depth)
    (operation : HostOperation)
    (seen : given -> likeness.AllVisible operands) :
    coupling.InStep given (performHost call keyDepth operation operands)
      (performHost other keyDepth operation operands)
      (Agree likeness.visible) := by
  cases about : operation.subject with
  | call => exact inStep_calls serves keyDepth seen about
  | klass => exact inStep_classes keyDepth about
  | member => exact inStep_members serves.calls keyDepth about
  | property => exact inStep_properties serves.calls keyDepth seen about
  | generator => exact inStep_generators keyDepth about

end Subjects

end Host

section Frame

variable {likeness : Likeness} {coupling : Coupling likeness} {given : Prop}
variable {call other : Invoker}

/-- What a body sees of its call. In another run it may yield as often as
a limit allows. -/
structure Frame.Shows (likeness : Likeness) (frame : Frame)
    (limit : Option Nat) : Prop where
  receiver : likeness.visible frame.receiver
  args : likeness.AllVisible frame.args
  yields : likeness.YieldLimits frame.yieldLimit limit

/-- Operations that enter the engine from a frame. -/
theorem inStep_enterFrom
    {operands : List Value}
    {frame : Frame}
    {limit : Option Nat}
    (serves : coupling.Serves call other)
    (operation : FrameOperation)
    (sees : given -> frame.Shows likeness limit)
    (callee : given -> operation = .callee ->
      likeness.visible (.function frame.callee))
    (seen : given -> likeness.AllVisible operands) :
    coupling.InStep given (enterFrom call frame operation operands)
      (enterFrom other { frame with yieldLimit := limit } operation operands)
      (Agree likeness.visible) := by
  have calls := serves.calls
  have at' (index : Nat) (facts : given) :
      likeness.visible (operand operands index) :=
    (seen facts).getD index
  cases operation with
  | receiver => exact .pure fun facts => (sees facts).receiver
  | receiverObject =>
      simp only [enterFrom]
      cases frame.receiver with
      | object ref => exact .value
      | _ =>
          exact .readFunction_bind fun _ _ _ => .failType _
  | argument => exact .pure fun facts => (sees facts).args.getD _
  | argumentCount => exact .value
  | callee => exact .pure fun facts => callee facts rfl
  | depth => exact .value
  | read =>
      exact .bind (inStep_toKey calls _ _) fun key =>
        inStep_readProperty calls _ key _
  | write =>
      refine .bind (inStep_toKey calls _ _) fun key => ?_
      exact .bind (inStep_writeProperty calls _ key _ fun facts =>
        at' 2 facts.1) fun _ => .value
  | readReceiver =>
      exact .bind (inStep_toKey calls _ _) fun key =>
        inStep_readProperty calls _ key _
  | writeReceiver =>
      refine .bind (inStep_toKey calls _ _) fun key => ?_
      exact .bind (inStep_writeProperty calls _ key _ fun facts =>
        at' 1 facts.1) fun _ => .value
  | invoke =>
      exact .bind (inStep_toKey calls _ _) fun key =>
        inStep_invokeProperty calls key _
        (fun facts => at' 0 facts.1) fun facts => (seen facts.1).drop 2
  | call =>
      exact inStep_callValue calls _ (at' 0)
        (fun _ => likeness.visible_undefined) fun facts => (seen facts).drop 1
  | callWithReceiver =>
      exact inStep_callValue calls _ (at' 0) (at' 1) fun facts =>
        (seen facts).drop 2
  | construct =>
      exact inStep_constructValue serves _ _ fun facts => (seen facts).drop 1
  | yield => exact .value

/-- Operations of a running body. -/
theorem inStep_performInFrame
    {operands : List Value}
    {frame : Frame}
    {limit : Option Nat}
    (serves : coupling.Serves call other)
    (operation : FrameOperation)
    (sees : given -> frame.Shows likeness limit)
    (callee : given -> operation = .callee ->
      likeness.visible (.function frame.callee))
    (seen : given -> likeness.AllVisible operands) :
    coupling.InStep given (performInFrame call frame operation operands)
      (performInFrame other { frame with yieldLimit := limit }
        operation operands)
      (Agree likeness.visible) := by
  cases operation with
  | yield =>
      exact .bind (coupling.yields (fun facts => (sees facts).yields)
        fun facts => (seen facts).getD 0) fun _ => .value
  | _ => exact coupling.lift (inStep_enterFrom serves _ sees callee seen)

end Frame

end ClassLowering
