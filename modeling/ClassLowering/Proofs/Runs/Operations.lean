import ClassLowering.Evaluation.FrameOperation
import ClassLowering.Evaluation.SessionOperation
import ClassLowering.Proofs.HostSubjects
import ClassLowering.Proofs.Runs.Bodies
import ClassLowering.Proofs.Runs.KeepsToFrame
import ClassLowering.Proofs.Runs.Properties

/-!
# Runs of operations

Operations on a frame ask for bodies one level below the frame, and for the
bodies of a construction one level deeper still. Operations of the host ask for
bodies at the first depth; those among them that run none but to convert keys
keep to the frame that uses them.
-/

namespace ClassLowering

namespace Demand

/-- All that is asked for below a depth: calls one level deeper, and
constructions there. -/
structure CoversBelow (demand : Demand) (depth : Depth) : Prop where
  calls : demand.Covers (depth + 1)
  constructions : demand.CoversClass (depth + 1)

/-- All that is asked for outside of all bodies. -/
structure CoversFresh (demand : Demand) : Prop where
  calls : demand.Covers 1
  constructions : demand.CoversClass 1
  conversions : demand.Covers 2

end Demand

section Operands

variable {progress : Progress} {before : State} {α : Type}
  {claim : α -> State -> Prop}

/-- What follows a look for an object has an object of the heap. -/
theorem Progress.Runs.asObject_bind
    {value : Value}
    {next : ObjectRef -> RunM α}
    (within : value.Within before.heap)
    (rest : ∀ ref, before.heap.Holds (.object ref) ->
      progress.Runs (next ref) before claim) :
    progress.Runs (asObject value >>= next) before claim := by
  cases value with
  | object ref => exact rest ref ((Value.within_object ref).1 within)
  | _ => exact .failType _

/-- What follows a look for a class has a class of the heap. -/
theorem Progress.Runs.asClass_bind
    {value : Value}
    {next : ClassRef -> RunM α}
    (within : value.Within before.heap)
    (rest : ∀ ref, before.heap.Holds (.klass ref) ->
      progress.Runs (next ref) before claim) :
    progress.Runs (asClass value >>= next) before claim := by
  cases value with
  | klass ref => exact rest ref ((Value.within_klass ref).1 within)
  | _ => exact .failType _

/-- What follows a look for a function has a function of the heap. -/
theorem Progress.Runs.asFunction_bind
    {value : Value}
    {next : FunctionRef -> RunM α}
    (within : value.Within before.heap)
    (rest : ∀ ref, before.heap.Holds (.function ref) ->
      progress.Runs (next ref) before claim) :
    progress.Runs (asFunction value >>= next) before claim := by
  cases value with
  | function ref => exact rest ref ((Value.within_function ref).1 within)
  | _ => exact .failType _

/-- What follows a look for a generator has a generator of the heap. -/
theorem Progress.Runs.asGenerator_bind
    {value : Value}
    {next : GeneratorRef -> RunM α}
    (within : value.Within before.heap)
    (rest : ∀ ref, before.heap.Holds (.generator ref) ->
      progress.Runs (next ref) before claim) :
    progress.Runs (asGenerator value >>= next) before claim := by
  cases value with
  | generator ref => exact rest ref ((Value.within_generator ref).1 within)
  | _ => exact .failType _

/-- A value that is an object is found. -/
theorem runs_asObject (value : Value) :
    progress.Runs (asObject value) before fun _ _ => True := by
  cases value with
  | object ref => exact .pure trivial
  | _ => exact .failType _

/-- A value that is a class is found. -/
theorem runs_asClass (value : Value) :
    progress.Runs (asClass value) before fun _ _ => True := by
  cases value with
  | klass ref => exact .pure trivial
  | _ => exact .failType _

/-- A value that is a function is found. -/
theorem runs_asFunction (value : Value) :
    progress.Runs (asFunction value) before fun _ _ => True := by
  cases value with
  | function ref => exact .pure trivial
  | _ => exact .failType _

/-- A value that is a generator is found. -/
theorem runs_asGenerator (value : Value) :
    progress.Runs (asGenerator value) before fun _ _ => True := by
  cases value with
  | generator ref => exact .pure trivial
  | _ => exact .failType _

end Operands

section Host

variable {progress : Progress} {demand : Demand} {before : State}
  {call : Invoker}

/-- Looking up a shared function of a class yields one of the heap. -/
theorem runs_lookUpMember
    {keyDepth : Depth}
    {klass key : Value}
    {find : Prototype -> PropertyKey -> Option FunctionRef}
    (serves : progress.Serves demand call)
    (conversions : demand.Covers (keyDepth + 1))
    (sound : before.Sound)
    (klassWithin : klass.Within before.heap)
    (keyWithin : key.Within before.heap)
    (finds : ∀ prototype key function, find prototype key = some function ->
      function ∈ prototype.functions) :
    progress.Runs (lookUpMember call keyDepth klass key find) before
      Value.Known := by
  refine .asClass_bind klassWithin fun ref held => ?_
  refine .bind sound (runs_toKey serves conversions sound keyWithin) ?_
  intro key between soundBetween extension _
  refine .readHeap_bind (.pure ?_)
  cases found : find (between.heap.klass ref).prototype key with
  | none => exact Value.within_undefined
  | some function =>
      have shared := finds _ key function found
      have cell := soundBetween.heap.klass ref (extension.holds _ held)
      exact (Value.within_function function).2 (cell.shared function shared).1

/-- What follows a look for an object and a key of it has both. -/
theorem Progress.Runs.objectKey_bind
    {α : Type}
    {keyDepth : Depth}
    {value written : Value}
    {next : ObjectRef -> PropertyKey -> RunM α}
    {claim : α -> State -> Prop}
    (serves : progress.Serves demand call)
    (conversions : demand.Covers (keyDepth + 1))
    (sound : before.Sound)
    (valueWithin : value.Within before.heap)
    (writtenWithin : written.Within before.heap)
    (rest : ∀ ref key (between : State), between.Sound ->
      before.heap.Extends between.heap ->
      between.heap.Holds (.object ref) ->
        progress.Runs (next ref key) between claim) :
    progress.Runs (do
      let ref ← asObject value
      next ref (← toKey call written keyDepth)) before claim := by
  refine .asObject_bind valueWithin fun ref held => ?_
  refine .bind sound (runs_toKey serves conversions sound writtenWithin) ?_
  intro key between soundBetween extension _
  exact rest ref key between soundBetween extension (extension.holds _ held)

/-- The next answer of a generator is a value of the heap. -/
theorem within_nextYield
    {heap : Heap}
    (sound : heap.Sound)
    (ref : GeneratorRef) :
    (heap.nextYield ref).1.value.Within heap := by
  have cell := sound.generator ref
  unfold Heap.nextYield GeneratorCell.next
  unfold GeneratorCell.Sound at cell
  cases pending : (heap.generator ref).pending with
  | cons value rest =>
      rw [pending] at cell
      exact cell value List.mem_cons_self
  | nil =>
      cases completion : (heap.generator ref).completion with
      | none => simp
      | some value =>
          rw [pending, completion] at cell
          simpa using cell value (by simp)

section Subjects

variable {keyDepth : Depth} {operation : HostOperation} {operands : List Value}

/-- Making things and calling them makes progress. -/
theorem runs_calls
    (serves : progress.Serves demand call)
    (fresh : operation.keepsToFrame = true ∨ demand.CoversFresh)
    (sound : before.Sound)
    (within : AllWithin before.heap operands)
    (about : operation.subject = .call) :
    progress.Runs (performHost call keyDepth operation operands) before
      Value.Known := by
  have first : (operand operands 0).Within before.heap := within.getD 0
  cases operation with
  | newObject =>
      have step :
          before.heap.Step progress.Makes (before.heap.newObject none).2 :=
        .object none (by simp)
      refine .allocate_bind (.single step) (.pure ?_)
      exact (Value.within_object _).2 (before.heap.holds_newObject none)
  | construct =>
      refine .asClass_bind first fun klass held => ?_
      have covers := fresh.resolve_left (by decide)
      exact runs_construct serves covers.constructions sound held
        (within.drop 1)
  | callClass =>
      exact .asClass_bind first fun klass held => .readHeap_bind (.fail _)
  | callFunction =>
      refine .asFunction_bind first fun function held => ?_
      have covers := fresh.resolve_left (by decide)
      exact serves _ before sound ⟨held, within.getD 1, within.drop 2⟩
        (covers.calls _ _ rfl)
  | _ => cases about

/-- Asking for classes makes progress. -/
theorem runs_classes
    (sound : before.Sound)
    (within : AllWithin before.heap operands)
    (about : operation.subject = .klass) :
    progress.Runs (performHost call keyDepth operation operands) before
      Value.Known := by
  have first : (operand operands 0).Within before.heap := within.getD 0
  have second : (operand operands 1).Within before.heap := within.getD 1
  cases operation with
  | sameClass =>
      refine .asClass_bind first fun left _ => ?_
      exact .asClass_bind second fun right _ => .pure (Value.within_bool _)
  | classOf =>
      refine .asObject_bind first fun object held => .readHeap_bind (.pure ?_)
      cases linked : (before.heap.object object).klass with
      | none => exact Value.within_null
      | some klass =>
          exact (Value.within_klass klass).2
            ((sound.heap.object object).klass klass linked)
  | samePrototype =>
      refine .asObject_bind first fun left _ => .readHeap_bind ?_
      refine .asObject_bind second fun right _ => .readHeap_bind ?_
      cases (before.heap.object left).klass with
      | none => exact .pure Value.within_null
      | some leftClass =>
          cases (before.heap.object right).klass with
          | none => exact .pure Value.within_null
          | some rightClass => exact .pure (Value.within_bool _)
  | prototypeClass =>
      exact .asClass_bind first fun klass held =>
        .pure ((Value.within_klass klass).2 held)
  | isInstance =>
      exact .asClass_bind second fun klass _ =>
        .readHeap_bind (.pure (Value.within_bool _))
  | _ => cases about

/-- Looking up what a class shares makes progress. -/
theorem runs_members
    (serves : progress.Serves demand call)
    (conversions : demand.Covers (keyDepth + 1))
    (sound : before.Sound)
    (within : AllWithin before.heap operands)
    (about : operation.subject = .member) :
    progress.Runs (performHost call keyDepth operation operands) before
      Value.Known := by
  have first : (operand operands 0).Within before.heap := within.getD 0
  have second : (operand operands 1).Within before.heap := within.getD 1
  cases operation with
  | prototypeMethod =>
      refine runs_lookUpMember serves conversions sound first second ?_
      exact fun _ _ _ found => Prototype.mem_functions_of_method? found
  | prototypeGetter =>
      refine runs_lookUpMember serves conversions sound first second ?_
      exact fun _ _ _ found => Prototype.mem_functions_of_getter? found
  | prototypeSetter =>
      refine runs_lookUpMember serves conversions sound first second ?_
      exact fun _ _ _ found => Prototype.mem_functions_of_setter? found
  | fieldInitializer =>
      refine .asClass_bind first fun klass held => .readHeap_bind (.pure ?_)
      cases found :
          ((before.heap.klass klass).fields[(operand operands 1).toCount]?).bind
          FieldDeclaration.initializer? with
      | none => exact Value.within_undefined
      | some function =>
          obtain ⟨field, declared, initial⟩ := Option.bind_eq_some_iff.1 found
          have cell := sound.heap.klass klass held
          exact (Value.within_function function).2
            (cell.initializer field (List.mem_of_getElem? declared)
              function initial).1
  | _ => cases about

/-- Working on the properties of objects makes progress. -/
theorem runs_properties
    (serves : progress.Serves demand call)
    (conversions : demand.Covers (keyDepth + 1))
    (fresh : operation.keepsToFrame = true ∨ demand.CoversFresh)
    (sound : before.Sound)
    (within : AllWithin before.heap operands)
    (about : operation.subject = .property) :
    progress.Runs (performHost call keyDepth operation operands) before
      Value.Known := by
  have first : (operand operands 0).Within before.heap := within.getD 0
  have second : (operand operands 1).Within before.heap := within.getD 1
  cases operation with
  | readProperty =>
      have covers := fresh.resolve_left (by decide)
      refine .objectKey_bind serves conversions sound first second ?_
      intro object key between soundBetween _ held
      exact runs_readObject serves covers.calls soundBetween held
  | writeProperty =>
      have covers := fresh.resolve_left (by decide)
      refine .objectKey_bind serves conversions sound first second ?_
      intro object key between soundBetween extension held
      refine .bind soundBetween
        (runs_writeObject serves covers.calls soundBetween held
          ((within.getD 2).mono extension)) ?_
      exact fun _ _ _ _ _ => .pure Value.within_undefined
  | invokeProperty =>
      have covers := fresh.resolve_left (by decide)
      refine .objectKey_bind serves conversions sound first second ?_
      intro object key between soundBetween extension held
      exact runs_invokeObject serves covers.calls soundBetween held
        ((within.drop 2).mono extension)
  | ownField =>
      refine .objectKey_bind serves conversions sound first second ?_
      intro object key between soundBetween _ _
      refine .readHeap_bind (.pure ?_)
      cases found : (between.heap.object object).fields.find? key with
      | none => exact Value.within_string _
      | some value =>
          exact (soundBetween.heap.object object).values value
            (OrderedMap.mem_values_of_find? found)
  | hasOwnField =>
      refine .objectKey_bind serves conversions sound first second ?_
      exact fun _ _ _ _ _ _ => .readHeap_bind (.pure (Value.within_bool _))
  | copyFields =>
      refine .asObject_bind first fun object held => ?_
      have covers := fresh.resolve_left (by decide)
      refine .bind sound (runs_copyFields _ serves covers.calls sound held) ?_
      exact fun _ _ _ extension _ => .pure (first.mono extension)
  | toKey =>
      refine .bind sound (runs_toKey serves conversions sound first) ?_
      intro key between _ _ _
      cases key with
      | ofText text => exact .pure (Value.within_string text)
      | ofSymbol symbol => exact .pure (Value.within_symbol symbol)
  | _ => cases about

/-- Taking what generators hold makes progress. -/
theorem runs_generators
    (sound : before.Sound)
    (within : AllWithin before.heap operands)
    (about : operation.subject = .generator) :
    progress.Runs (performHost call keyDepth operation operands) before
      Value.Known := by
  have first : (operand operands 0).Within before.heap := within.getD 0
  cases operation with
  | nextYield =>
      refine .asGenerator_bind first fun generator _ => ?_
      have step :
          before.heap.Step progress.Makes (before.heap.nextYield generator).2 :=
        .next generator
      refine .allocate_bind (.single step) (.pure ?_)
      exact (within_nextYield sound.heap generator).mono step.extension
  | isExhausted =>
      exact .asGenerator_bind first fun generator _ =>
        .readHeap_bind (.pure (Value.within_bool _))
  | drainCount =>
      refine .asGenerator_bind first fun generator _ => ?_
      exact .allocate_bind (.single (.drain generator))
        (.pure (Value.within_ofNat _))
  | _ => cases about

/-- Operations of the host make progress, whatever they work on. -/
theorem runs_performHost
    (serves : progress.Serves demand call)
    (conversions : demand.Covers (keyDepth + 1))
    (fresh : operation.keepsToFrame = true ∨ demand.CoversFresh)
    (sound : before.Sound)
    (within : AllWithin before.heap operands) :
    progress.Runs (performHost call keyDepth operation operands) before
      Value.Known := by
  cases about : operation.subject with
  | call => exact runs_calls serves fresh sound within about
  | klass => exact runs_classes sound within about
  | member => exact runs_members serves conversions sound within about
  | property =>
      exact runs_properties serves conversions fresh sound within about
  | generator => exact runs_generators sound within about

end Subjects

end Host

section Frame

variable {progress : Progress} {demand : Demand} {call : Invoker}
  {frame : Frame}
variable {operands : List Value}

/-- Constructing with a value makes progress. -/
theorem runs_constructValue
    {before : State}
    {depth : Depth}
    {callee : Value}
    {args : List Value}
    (serves : progress.Serves demand call)
    (covers : demand.CoversClass depth)
    (sound : before.Sound)
    (within : callee.Within before.heap)
    (argsWithin : AllWithin before.heap args) :
    progress.Runs (constructValue call callee args depth) before
      Value.Known := by
  cases callee with
  | klass ref =>
      exact runs_construct serves covers sound
        ((Value.within_klass ref).1 within) argsWithin
  | _ => exact .readHeap_bind (.failType _)

/-- Operations that enter the engine from a frame make progress. -/
theorem runs_enterFrom
    {before : State}
    {operation : FrameOperation}
    (serves : progress.Serves demand call)
    (covers : demand.CoversBelow frame.depth)
    (sound : before.Sound)
    (frameWithin : frame.Within before.heap)
    (within : AllWithin before.heap operands) :
    progress.Runs (enterFrom call frame operation operands) before
      Value.Known := by
  have first : (operand operands 0).Within before.heap := within.getD 0
  have second : (operand operands 1).Within before.heap := within.getD 1
  cases operation with
  | receiver => exact .pure frameWithin.receiver
  | receiverObject =>
      have receiver := frameWithin.receiver
      simp only [enterFrom]
      cases object : frame.receiver with
      | object ref =>
          rw [object] at receiver
          exact .pure receiver
      | _ => exact .readHeap_bind (.failType _)
  | argument => exact .pure (frameWithin.args.getD _)
  | argumentCount => exact .pure (Value.within_ofNat _)
  | callee => exact .pure ((Value.within_function _).2 frameWithin.callee)
  | depth => exact .pure (Value.within_ofNat _)
  | read =>
      refine .bind sound (runs_toKey serves covers.calls sound second) ?_
      intro key between soundBetween extension _
      exact runs_readProperty serves covers.calls soundBetween
        (first.mono extension)
  | write =>
      refine .bind sound (runs_toKey serves covers.calls sound second) ?_
      intro key between soundBetween extension _
      refine .bind soundBetween
        (runs_writeProperty serves covers.calls soundBetween
          (first.mono extension) ((within.getD 2).mono extension)) ?_
      exact fun _ _ _ _ _ => .pure Value.within_undefined
  | readReceiver =>
      refine .bind sound (runs_toKey serves covers.calls sound first) ?_
      intro key between soundBetween extension _
      exact runs_readProperty serves covers.calls soundBetween
        (frameWithin.receiver.mono extension)
  | writeReceiver =>
      refine .bind sound (runs_toKey serves covers.calls sound first) ?_
      intro key between soundBetween extension _
      refine .bind soundBetween
        (runs_writeProperty serves covers.calls soundBetween
          (frameWithin.receiver.mono extension) (second.mono extension)) ?_
      exact fun _ _ _ _ _ => .pure Value.within_undefined
  | invoke =>
      refine .bind sound (runs_toKey serves covers.calls sound second) ?_
      intro key between soundBetween extension _
      exact runs_invokeProperty serves covers.calls soundBetween
        (first.mono extension) ((within.drop 2).mono extension)
  | call =>
      exact runs_callValue serves covers.calls sound first
        Value.within_undefined (within.drop 1)
  | callWithReceiver =>
      exact runs_callValue serves covers.calls sound first second
        (within.drop 2)
  | construct =>
      exact runs_constructValue serves covers.constructions sound first
        (within.drop 1)
  | yield => exact .pure Value.within_undefined

/-- A yield outside of generators is refused. -/
theorem yieldValue_of_none
    {frame : Frame}
    (value : Value)
    (before : BodyState)
    (limit : frame.yieldLimit = none) :
    yieldValue frame value before =
      .error (.fault
        (.type (.strayYield (before.state.heap.function frame.callee).name)))
          before := by
  rw [yieldValue, limit]
  rfl

/-- A yield is collected below the limit. -/
theorem yieldValue_of_some
    {frame : Frame}
    {limit : Nat}
    (value : Value)
    (before : BodyState)
    (limited : frame.yieldLimit = some limit) :
    yieldValue frame value before =
      if limit ≤ before.yields.count
        then .error (.fault (.generatorOverflow limit)) before
      else .ok () ⟨before.state, before.locals, before.yields.push value⟩ := by
  rw [yieldValue, limited]
  change (ite (limit ≤ before.yields.count) _ _ : BodyM Unit) before = _
  split <;> rfl

/-- A yield of a value of the heap makes progress. -/
theorem runs_yieldValue
    {before : BodyState}
    {value : Value}
    (sound : before.Sound)
    (within : value.Within before.state.heap) :
    progress.RunsBody (yieldValue frame value) before fun _ _ => True := by
  unfold yieldValue
  cases frame.yieldLimit with
  | none => exact .readHeap_bind (.lift sound (.failType _))
  | some limit =>
      refine .get_bind ?_
      by_cases full : limit ≤ before.yields.count
      · rw [if_pos full]
        exact .lift sound (.fail _)
      · rw [if_neg full]
        refine ⟨progress.refl before.state,
          ⟨sound.state, sound.locals, ?_⟩, trivial⟩
        exact AllWithin.cons_iff.2 ⟨within, sound.yields⟩

/-- Operations of a running body make progress. -/
theorem runs_performInFrame
    {before : BodyState}
    {operation : FrameOperation}
    (serves : progress.Serves demand call)
    (covers : demand.CoversBelow frame.depth)
    (sound : before.Sound)
    (frameWithin : frame.Within before.state.heap)
    (within : AllWithin before.state.heap operands) :
    progress.RunsBody (performInFrame call frame operation operands) before
      Value.Known := by
  have enters :
      progress.Runs (enterFrom call frame operation operands) before.state
        Value.Known :=
    runs_enterFrom serves covers sound.state frameWithin within
  cases operation with
  | yield =>
      refine .bind (runs_yieldValue sound (within.getD 0)) ?_
      exact fun _ _ soundAfter _ _ => .pure soundAfter Value.within_undefined
  | _ => exact .lift sound enters

end Frame

end ClassLowering
