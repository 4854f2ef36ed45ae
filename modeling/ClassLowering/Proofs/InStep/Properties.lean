import ClassLowering.Proofs.InStep.Coupling
import ClassLowering.Semantics.Enumeration

/-!
# The engine in step

When bodies run in step, so do the operations of the engine that ask for them:
reads and writes of properties, conversions of keys, calls and constructions.
They hand out nothing but what bodies may get hold of, and ask for no other
function but the constructor of a class.
-/

namespace ClassLowering

/-- What a read comes to may be handed out, or run. -/
def ReadPlan.Shows (visible : Value -> Prop) : ReadPlan -> Prop
  | .value contents => visible contents
  | .run getter => visible (.function getter)
  | .noGetter => True

/-- What a write comes to may be run. -/
def WritePlan.Shows (visible : Value -> Prop) : WritePlan -> Prop
  | .run setter => visible (.function setter)
  | _ => True

namespace Heap.Shows

variable {heap : Heap} {likeness : Likeness}
  (shows : heap.Shows likeness.visible)

include shows

/-- A field holds nothing but what bodies may get hold of. -/
theorem fieldValue (ref : ObjectRef) (key : PropertyKey) :
    likeness.visible (heap.fieldValue ref key) := by
  unfold Heap.fieldValue
  cases found : (heap.object ref).fields.find? key with
  | none => exact likeness.visible_undefined
  | some value =>
      exact shows.object ref value (OrderedMap.mem_values_of_find? found)

/-- Reads come to what bodies may get hold of. -/
theorem readPlan (ref : ObjectRef) (key : PropertyKey) :
    (heap.readPlan ref key).Shows likeness.visible := by
  have otherwise : likeness.visible .undefined := likeness.visible_undefined
  unfold Heap.readPlan
  cases own : (heap.object ref).fields.find? key with
  | some value =>
      exact shows.object ref value (OrderedMap.mem_values_of_find? own)
  | none =>
      cases (heap.object ref).klass with
      | none => exact otherwise
      | some klass =>
          have shared := (shows.klass klass).shared
          dsimp only
          cases found : (heap.klass klass).prototype.lookup key with
          | none => exact otherwise
          | some entry =>
              cases entry with
              | constructor => exact likeness.visible_of_not_function _ nofun
              | method function =>
                  exact shared function
                    (Prototype.mem_functions_of_method found)
              | accessor getter setter =>
                  cases getter with
                  | none => trivial
                  | some getter =>
                      exact shared getter
                        (Prototype.mem_functions_of_getter found)

/-- Writes come to what bodies may get hold of. -/
theorem writePlan (ref : ObjectRef) (key : PropertyKey) :
    (heap.writePlan ref key).Shows likeness.visible := by
  unfold Heap.writePlan
  split
  · trivial
  · unfold Heap.sharedMember? Heap.prototype?
    cases (heap.object ref).klass with
    | none => trivial
    | some klass =>
        simp only [Option.map_some, Option.bind_some]
        cases found : (heap.klass klass).prototype.lookup key with
        | none => trivial
        | some entry =>
            cases entry with
            | constructor => trivial
            | method function => trivial
            | accessor getter setter =>
                cases setter with
                | none => trivial
                | some setter =>
                    exact (shows.klass klass).shared setter
                      (Prototype.mem_functions_of_setter found)

end Heap.Shows

section Engine

variable {likeness : Likeness} {coupling : Coupling likeness}
  {call other : Invoker}
variable {given : Prop}

/-- Nothing is in step with itself but for what bodies may get hold of. -/
theorem Coupling.InStep.value
    {σ : Type}
    [Stage σ]
    {value : Value}
    (plain : ∀ ref, value ≠ .function ref := by nofun) :
    coupling.InStep given (Pure.pure value : EStateM Interruption σ Value)
      (Pure.pure value) (Agree likeness.visible) :=
  .pure fun _ => likeness.visible_of_not_function value plain

/-- A body that bodies may get hold of is called in step. -/
theorem Coupling.Calls.inStep
    {function : FunctionRef}
    {receiver : Value}
    {args : List Value}
    {depth : Depth}
    (calls : coupling.Calls call other)
    (callee : given -> likeness.visible (.function function))
    (seen : given -> likeness.visible receiver)
    (seenArgs : given -> likeness.AllVisible args) :
    coupling.InStep given (call ⟨function, receiver, args, depth⟩)
      (other ⟨function, receiver, args, depth⟩) (Agree likeness.visible) :=
  (calls ⟨function, receiver, args, depth⟩).mono fun facts =>
    ⟨callee facts, seen facts, seenArgs facts⟩

/-- Reading a property of an object. -/
theorem inStep_readObject
    (calls : coupling.Calls call other)
    (ref : ObjectRef)
    (key : PropertyKey)
    (depth : Depth) :
    coupling.InStep given (readObject call ref key depth)
      (readObject other ref key depth) (Agree likeness.visible) := by
  refine .bind (.readHeap fun _ _ _ like => ⟨congrFun₂ like.readPlan_eq ref key,
    like.shows.readPlan ref key⟩) fun plan => ?_
  cases plan with
  | value value => exact .pure And.right
  | run getter =>
      exact calls.inStep And.right (fun _ => likeness.visible_object _)
        fun _ => .nil
  | noGetter => exact .fail _ rfl

/-- Writing a property of an object. -/
theorem inStep_writeObject
    {value : Value}
    (calls : coupling.Calls call other)
    (ref : ObjectRef)
    (key : PropertyKey)
    (depth : Depth)
    (seen : given -> likeness.visible value) :
    coupling.InStep given (writeObject call ref key value depth)
      (writeObject other ref key value depth) (Agree fun _ => True) := by
  refine .bind (.readHeap fun _ _ _ like =>
    ⟨congrFun₂ like.writePlan_eq ref key,
      like.shows.writePlan ref key⟩) fun plan => ?_
  cases plan with
  | store =>
      exact .changeHeap (fun heap =>
        ⟨heap.extends_defineField ref key value, rfl⟩)
        fun facts _ _ like => like.defineField ref key (seen facts.1)
  | run setter =>
      refine .bind (calls.inStep And.right (fun _ => likeness.visible_object _)
        fun facts => ?_) fun _ => .pure fun _ => trivial
      exact fun held present => List.mem_singleton.1 present ▸ seen facts.1
  | noSetter => exact .fail _ rfl
  | readOnly => exact .fail _ rfl

/-- Neither property of a class or a function is a function. -/
theorem namedProperty_ne_function
    (key : PropertyKey)
    (name : String)
    (length : Nat)
    (ref : FunctionRef) :
    namedProperty key name length ≠ .function ref := by
  unfold namedProperty
  split
  · nofun
  · split <;> nofun

/-- Heaps are alike when they are looked at. -/
theorem Coupling.InStep.readWhole :
    coupling.InStep given (RunM.readHeap id) (RunM.readHeap id)
      (Heap.Like likeness) :=
  coupling.settled
    { quiet := fun _ => .refl _
      alike := fun _ _ _ like => .ok like.heap like }

/-- Reading a property of any value. -/
theorem inStep_readProperty
    (calls : coupling.Calls call other)
    (target : Value)
    (key : PropertyKey)
    (depth : Depth) :
    coupling.InStep given (readProperty call target key depth)
      (readProperty other target key depth) (Agree likeness.visible) := by
  refine coupling.bind .readWhole fun heap further => ?_
  cases target with
  | object ref => exact inStep_readObject calls ref key depth
  | klass ref =>
      refine coupling.replace (.value (namedProperty_ne_function _ _ _))
        fun facts => ?_
      obtain ⟨-, like⟩ := facts
      simp only [(like.klass ref).name, (like.klass ref).constructor,
        (like.function _).params]
  | function ref =>
      refine coupling.replace (.value (namedProperty_ne_function _ _ _))
        fun facts => ?_
      obtain ⟨-, like⟩ := facts
      simp only [(like.function ref).name, (like.function ref).params]
  | string text =>
      refine .value fun ref => ?_
      split <;> nofun
  | undefined | null =>
      refine coupling.replace (.failType _) fun facts => ?_
      rw [facts.2.text_eq]
  | _ => exact .value

/-- Writing a property of any value. -/
theorem inStep_writeProperty
    {value : Value}
    (calls : coupling.Calls call other)
    (target : Value)
    (key : PropertyKey)
    (depth : Depth)
    (seen : given -> likeness.visible value) :
    coupling.InStep given (writeProperty call target key value depth)
      (writeProperty other target key value depth) (Agree fun _ => True) := by
  cases target with
  | object ref => exact inStep_writeObject calls ref key depth seen
  | _ => exact .failType _

/-- The text of a value. -/
theorem Coupling.InStep.readText (value : Value) :
    coupling.InStep given (RunM.readHeap (·.text value))
      (RunM.readHeap (·.text value)) (Agree fun _ => True) :=
  .readHeap' fun _ _ like => congrFun like.text_eq value

/-- Converting the result of a conversion method. -/
theorem inStep_keyOfPrimitive (result : Value) :
    coupling.InStep given (keyOfPrimitive result) (keyOfPrimitive result)
      (Agree fun _ => True) := by
  unfold keyOfPrimitive
  split
  · exact .pure fun _ => trivial
  · split
    · exact .failType _
    · exact .bind (.readText _) fun _ => .pure fun _ => trivial

/-- Converting a value to a key. -/
theorem inStep_toKey
    (calls : coupling.Calls call other)
    (value : Value)
    (depth : Depth) :
    coupling.InStep given (toKey call value depth) (toKey other value depth)
      (Agree fun _ => True) := by
  cases value with
  | symbol symbol => exact .pure fun _ => trivial
  | object ref =>
      refine .bind (.readHeap' fun _ _ like =>
        congrFun like.hasConversion_eq ref) fun converts => ?_
      cases converts with
      | false => exact .pure fun _ => trivial
      | true =>
          refine .bind (inStep_readObject calls ref toStringKey depth)
            fun found => ?_
          cases found with
          | function function =>
              refine .bind (calls.inStep And.right
                (fun _ => likeness.visible_object _) fun _ =>
                  .nil) fun result => ?_
              exact inStep_keyOfPrimitive result
          | _ => exact .pure fun _ => trivial
  | _ => exact .bind (.readText _) fun _ => .pure fun _ => trivial

/-- Calling a class. -/
theorem Coupling.InStep.guard
    {α : Type}
    {claim : α -> α -> Prop}
    (klass : ClassRef) :
    coupling.InStep given
      (do RunM.fail (← RunM.readHeap (·.guardFault klass)) : RunM α)
      (do RunM.fail (← RunM.readHeap (·.guardFault klass))) claim := by
  have faults : coupling.InStep given (RunM.readHeap (·.guardFault klass))
      (RunM.readHeap (·.guardFault klass))
      (Agree fun cause => cause.isWrapped = false) :=
    .readHeap fun _ _ _ like => ⟨congrFun like.guardFault_eq klass, rfl⟩
  refine .bind faults fun cause => ?_
  cases cause with
  | keyEvaluation index cause =>
      exact coupling.settled
        { quiet := fun _ => .refl _
          alike := fun _ _ facts => nomatch facts.2 }
  | _ => exact .fail _ rfl

/-- Calling a value with a receiver. -/
theorem inStep_callValue
    {callee receiver : Value}
    {args : List Value}
    (calls : coupling.Calls call other)
    (depth : Depth)
    (seen : given -> likeness.visible callee)
    (seenReceiver : given -> likeness.visible receiver)
    (seenArgs : given -> likeness.AllVisible args) :
    coupling.InStep given (callValue call callee receiver args depth)
      (callValue other callee receiver args depth)
      (Agree likeness.visible) := by
  cases callee with
  | function ref => exact calls.inStep seen seenReceiver seenArgs
  | klass ref => exact .guard ref
  | _ => exact .bind (.readText _) fun _ => .failType _

/-- Reading a property of a value and calling it. -/
theorem inStep_invokeProperty
    {target : Value}
    {args : List Value}
    (calls : coupling.Calls call other)
    (key : PropertyKey)
    (depth : Depth)
    (seen : given -> likeness.visible target)
    (seenArgs : given -> likeness.AllVisible args) :
    coupling.InStep given (invokeProperty call target key args depth)
      (invokeProperty other target key args depth)
      (Agree likeness.visible) := by
  refine .bind (inStep_readProperty calls target key depth) fun callee => ?_
  have called : coupling.InStep (given ∧ likeness.visible callee)
      (callValue call callee target args depth)
      (callValue other callee target args depth) (Agree likeness.visible) :=
    inStep_callValue calls depth And.right (fun facts => seen facts.1)
      fun facts => seenArgs facts.1
  cases callee with
  | function _ => exact called
  | klass _ => exact called
  | _ => exact .failType _

/-- Reading a property of an object and calling it at the first depth. -/
theorem inStep_invokeObject
    {args : List Value}
    (calls : coupling.Calls call other)
    (ref : ObjectRef)
    (key : PropertyKey)
    (seenArgs : given -> likeness.AllVisible args) :
    coupling.InStep given (invokeObject call ref key args)
      (invokeObject other ref key args) (Agree likeness.visible) := by
  refine .bind (inStep_readObject calls ref key 1) fun callee => ?_
  cases callee with
  | function _ =>
      exact calls.inStep And.right (fun _ => likeness.visible_object _)
        fun facts => seenArgs facts.1
  | klass klass => exact .guard klass
  | _ => exact .failType _

/-- Giving an object the fields of a class. -/
theorem inStep_defineFields
    (calls : coupling.Calls call other)
    (ref : ObjectRef)
    (depth : Depth)
    (fields : List FieldDeclaration)
    (seen : given -> ∀ field ∈ fields, ∀ initial ∈ field.initializer?,
      likeness.visible (.function initial)) :
    coupling.InStep given (defineFields call ref depth fields)
      (defineFields other ref depth fields) (Agree fun _ => True) := by
  induction fields generalizing given with
  | nil => exact .pure fun _ => trivial
  | cons field rest hypothesis =>
      have continues (value : Value) :
          coupling.InStep (given ∧ likeness.visible value)
            (do RunM.changeHeap (·.defineField ref field.key value)
                defineFields call ref depth rest)
            (do RunM.changeHeap (·.defineField ref field.key value)
                defineFields other ref depth rest) (Agree fun _ => True) := by
        refine .bind (.changeHeap (fun heap =>
          ⟨heap.extends_defineField ref field.key value, rfl⟩)
            fun facts _ _ like =>
          like.defineField ref field.key facts.2) fun _ => ?_
        exact hypothesis fun facts field present =>
          seen facts.1.1 field (List.mem_cons_of_mem _ present)
      rw [defineFields, defineFields]
      cases initial : field.initializer? with
      | none =>
          exact (continues .undefined).mono fun facts =>
            ⟨facts, likeness.visible_undefined⟩
      | some function =>
          refine .bind (calls.inStep (fun facts => ?_)
            (fun _ => likeness.visible_object _) fun _ => .nil) continues
          exact seen facts field List.mem_cons_self function initial

/-- Constructing with a value. -/
theorem inStep_constructValue
    {args : List Value}
    (serves : coupling.Serves call other)
    (callee : Value)
    (depth : Depth)
    (seenArgs : given -> likeness.AllVisible args) :
    coupling.InStep given (constructValue call callee args depth)
      (constructValue other callee args depth) (Agree likeness.visible) := by
  cases callee with
  | klass ref => exact (serves.constructs ref args depth).mono seenArgs
  | _ => exact .bind (.readText _) fun _ => .failType _

/-- Copying the fields under some keys. -/
theorem inStep_copyKeys
    (calls : coupling.Calls call other)
    (target source : ObjectRef)
    (keys : List PropertyKey) :
    coupling.InStep given (copyKeys call target source keys)
      (copyKeys other target source keys) (Agree fun _ => True) := by
  induction keys generalizing given with
  | nil => exact .pure fun _ => trivial
  | cons key rest hypothesis =>
      refine .bind (.readHeap fun _ _ _ like =>
        ⟨congrFun₂ like.fieldValue_eq source key,
          like.shows.fieldValue source key⟩) fun value => ?_
      exact .bind (inStep_writeObject calls target key 1 And.right)
        fun _ => hypothesis

/-- Copying the fields of a value. -/
theorem inStep_copyFields
    (calls : coupling.Calls call other)
    (target : ObjectRef)
    (source : Value) :
    coupling.InStep given (copyFields call target source)
      (copyFields other target source) (Agree fun _ => True) := by
  cases source with
  | object ref =>
      refine .bind (.readHeap' fun _ _ like => congrFun like.object_eq ref)
        fun cell => ?_
      exact inStep_copyKeys calls target ref _
  | _ => exact .pure fun _ => trivial

end Engine

section Construction

variable {likeness : Likeness} {coupling : Coupling likeness}
  {call other : Invoker}
variable {given : Prop}

/-- What follows a look at a class sees the class of one reference, but
for its limits. -/
theorem Coupling.InStep.readKlass_bind
    {α : Type}
    {next last : ClassCell -> RunM α}
    {claim : α -> α -> Prop}
    {ref : ClassRef}
    (rest : ∀ (cell : ClassCell) (limits : Limits),
      coupling.InStep
        (given ∧ likeness.limits cell.limits limits ∧
          cell.Shows likeness.visible)
        (next cell) (last { cell with limits := limits }) claim) :
    coupling.InStep given (RunM.readHeap (·.klass ref) >>= next)
      (RunM.readHeap (·.klass ref) >>= last) claim := by
  have cells :
      coupling.InStep given (RunM.readHeap (·.klass ref))
        (RunM.readHeap (·.klass ref))
      fun cell further => cell.Like likeness further ∧
      cell.Shows likeness.visible :=
    coupling.settled
      { quiet := fun _ => .refl _
        alike := fun _ _ _ like =>
          .ok ⟨like.heap.klass ref, like.heap.shows.klass ref⟩ like }
  refine coupling.bind cells fun cell further => ?_
  refine coupling.replace ((rest cell further.limits).mono ?_) ?_
  · exact fun facts => ⟨facts.1, facts.2.1.limits, facts.2.2⟩
  · intro facts
    rw [← facts.2.1.eq]

/-- What follows a look at a function sees the function, but for its body
and its limits. -/
theorem Coupling.InStep.readFunction_bind
    {α : Type}
    {next last : FunctionCell -> RunM α}
    {claim : α -> α -> Prop}
    {ref : FunctionRef}
    (rest : ∀ (cell : FunctionCell) (body : Expr) (limits : Limits),
      coupling.InStep
        (given ∧ likeness.body cell.body body ∧
          likeness.limits cell.limits limits)
        (next cell) (last { cell with body := body, limits := limits }) claim) :
    coupling.InStep given (RunM.readHeap (·.function ref) >>= next)
      (RunM.readHeap (·.function ref) >>= last) claim := by
  have cells : coupling.InStep given (RunM.readHeap (·.function ref))
      (RunM.readHeap (·.function ref)) (FunctionCell.Like likeness) :=
    coupling.settled
      { quiet := fun _ => .refl _
        alike := fun _ _ _ like => .ok (like.heap.function ref) like }
  refine coupling.bind cells fun cell further => ?_
  refine coupling.replace ((rest cell further.body further.limits).mono ?_) ?_
  · exact fun facts => ⟨facts.1, facts.2.body, facts.2.limits⟩
  · intro facts
    rw [← facts.2.eq]

/-- Constructing an object, where it is given that bodies may get hold
of everything. -/
theorem inStep_construct
    (seen : given -> ∀ value, likeness.visible value)
    (calls : coupling.Calls call other)
    (klass : ClassRef)
    (args : List Value)
    (depth : Depth) :
    coupling.InStep given (construct call klass args depth)
      (construct other klass args depth) (Agree likeness.visible) := by
  refine .readKlass_bind fun cell limits =>
    coupling.within depth (fun facts => facts.2.1) ?_
  refine .bind
    (.allocate' (fun heap => ⟨heap.extends_newObject (some klass), rfl⟩)
      fun _ _ _ like => like.newObject (some klass)) fun object => ?_
  refine .bind (inStep_defineFields calls object (depth + 1) cell.fields
    fun facts _ _ _ _ => seen facts.1.1 _) fun _ => ?_
  refine .bind (calls.inStep (fun facts => seen facts.1.1.1 _)
    (fun facts => seen facts.1.1.1 _)
    fun facts _ _ => seen facts.1.1.1 _) fun result => ?_
  exact .pure fun facts => seen facts.1.1.1.1 _

end Construction

end ClassLowering
