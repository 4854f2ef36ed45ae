import ClassLowering.Proofs.Elaboration.Keys
import ClassLowering.Proofs.Objects.SharedEntries

/-!
# Objects as property keys

An object becomes a key by a method of its class, or by a function that is one
of its fields. Whether there is anything to convert with is tested first, and
then it is read the way any property is read, which may run a getter.

No getter runs there. An object whose class has an accessor under the name of
the conversion never has such a field, so the test fails for it. Hence at most
one body runs, one level below the depth of the conversion, and everything else
becomes the text that all objects share.
-/

namespace ClassLowering

namespace Heap

/-- The function that converts an object to a key: a method of its class,
or else a field. -/
inductive ConvertsBy (heap : Heap) (ref : ObjectRef)
    (function : FunctionRef) : Prop
  | method : heap.sharedMember? ref toStringKey = some (.method function) ->
      ConvertsBy heap ref function
  | field : (heap.object ref).fields.find? toStringKey =
      some (.function function) -> ConvertsBy heap ref function

variable {heap : Heap} {ref : ObjectRef} {function : FunctionRef}

/-- With a field under the name of the conversion, the field converts if it
is a function. -/
theorem converter?_of_owned
    {value : Value}
    (owned : (heap.object ref).fields.find? toStringKey = some value) :
    heap.converter? (.object ref) = some function ↔
      value = .function function := by
  have converts : heap.hasConversion ref = true := by
    rw [hasConversion, Bool.or_eq_true]
    exact .inr ((OrderedMap.mem_iff_find? _ _).2 ⟨value, owned⟩)
  rw [converter?, if_pos converts, Heap.readPlan, owned]
  cases value <;> simp

/-- Without such a field, the method of the class converts. -/
theorem converter?_of_unowned
    (unowned : toStringKey ∉ (heap.object ref).fields) :
    heap.converter? (.object ref) = some function ↔
      heap.sharedMember? ref toStringKey = some (.method function) := by
  have absent : (heap.object ref).fields.contains toStringKey = false :=
    Bool.eq_false_iff.2 unowned
  rw [converter?, hasConversion, absent, Bool.or_false, Heap.readPlan,
    (OrderedMap.find?_eq_none_iff _ _).2 unowned, sharedMember?, prototype?]
  cases linked : (heap.object ref).klass with
  | none => simp
  | some klass =>
      dsimp only
      rw [Option.map_some, Option.bind_some, Option.bind_some,
        Prototype.method?]
      cases found : (heap.klass klass).prototype.lookup toStringKey with
      | none => simp
      | some entry => cases entry <;> simp [entryReadPlan]

/-- What a conversion asks for is the function that converts the object. -/
theorem Sound.converter?_eq_some_iff
    (sound : heap.Sound) :
    heap.converter? (.object ref) = some function ↔
      heap.ConvertsBy ref function := by
  cases own : (heap.object ref).fields.find? toStringKey with
  | none =>
      rw [converter?_of_unowned ((OrderedMap.find?_eq_none_iff _ _).1 own)]
      refine ⟨.method, fun converts => ?_⟩
      cases converts with
      | method shared => exact shared
      | field owned => exact nomatch own.symm.trans owned
  | some value =>
      rw [converter?_of_owned own]
      refine ⟨fun same => .field (same ▸ own), fun converts => ?_⟩
      cases converts with
      -- The test prefers the field, but no object has both.
      | method shared =>
          have unowned := sound.unowned_of_shared shared
          exact nomatch own.symm.trans
            ((OrderedMap.find?_eq_none_iff _ _).2 unowned)
      | field owned => exact Option.some.inj (own.symm.trans owned)

/-- The function that converts an object is one of the heap. -/
theorem Sound.holds_converter
    (sound : heap.Sound)
    (converts : heap.ConvertsBy ref function) :
    heap.Holds (.function function) := by
  cases converts with
  | method shared =>
      obtain ⟨klass, linked, found⟩ := sharedMember?_eq_some_iff.1 shared
      exact sound.holds_shared linked (Prototype.mem_functions_of_method found)
  | field owned =>
      exact (Value.within_function function).1
        ((sound.object ref).values _ (OrderedMap.mem_values_of_find? owned))

end Heap

/--
How an object becomes a key at a depth, where the next number is the depth of
the body that converts it.
-/
structure State.ConvertsToKey (state : State) (ref : ObjectRef)
    (depth below : Depth) : Prop where
  /-- An object of a class with such a method has no field of this name. -/
  unowned : ∀ function, state.heap.sharedMember? ref toStringKey =
    some (.method function) -> toStringKey ∉ (state.heap.object ref).fields
  /-- The function is asked for once. Its result is made a key, and its fault
  stays as it is. -/
  asks : ∀ function, state.heap.ConvertsBy ref function -> ∀ call : Invoker,
    toKey call (.object ref) depth state =
      match call ⟨function, .object ref, [], below⟩ state with
      | .ok result after => RunM.ofExcept (after.heap.convertedKey result) after
      | .error interruption after => .error interruption after
  /-- Its body runs once, and no other does, unless it may not run so deep. -/
  once : ∀ function, state.heap.ConvertsBy ref function ->
    ∀ (stop : State -> Bool) (bound : Nat) (holding : Holding),
      let call := enterFunction (callUntil stop bound) holding
      let invocation : Invocation := ⟨function, .object ref, [], below⟩
      let convert := toKey call (.object ref) depth
      let limit := (state.heap.function function).limits.callDepth
      if limit < below then convert state =
        .error (.fault (.callDepthExceeded limit)) state
      else invocation.entry.RunsOnce
      ((call invocation).interruption? state) state
        (convert.endState state)
  /-- What nothing converts becomes the text that all objects share. No body
  runs. -/
  otherwise : (∀ function, ¬ state.heap.ConvertsBy ref function) ->
    ∀ call : Invoker,
    toKey call (.object ref) depth state = .ok (.ofText objectText) state
  /-- Accessors convert nothing, other fields do not, and neither does
  what is not there. -/
  unconverted :
    (∃ getter setter,
        state.heap.sharedMember? ref toStringKey =
          some (.accessor getter setter)) ∨
      (∃ value, (state.heap.object ref).fields.find? toStringKey = some value ∧
        ∀ function, value ≠ .function function) ∨
      (state.heap.sharedMember? ref toStringKey = none ∧
        toStringKey ∉ (state.heap.object ref).fields) ->
      ∀ function, ¬ state.heap.ConvertsBy ref function

section Conversions

variable {state : State} {ref : ObjectRef} {function : FunctionRef}

/-- A conversion asks for the function that converts the object, and then makes
its result a key. -/
theorem State.Sound.toKey_of_convertsBy
    (sound : state.Sound)
    (converts : state.heap.ConvertsBy ref function)
    (call : Invoker)
    (depth : Depth) :
    toKey call (.object ref) depth state =
      match call ⟨function, .object ref, [], depth + 1⟩ state with
      | .ok result after => RunM.ofExcept (after.heap.convertedKey result) after
      | .error interruption after => .error interruption after := by
  rw [toKey_apply, sound.heap.converter?_eq_some_iff.2 converts]
  dsimp only
  cases ended : call ⟨function, .object ref, [], depth + 1⟩ state with
  | error interruption after => exact RunM.bind_of_error ended
  | ok result after =>
      exact (RunM.bind_of_ok ended).trans (keyOfPrimitive_apply result after)

/-- A conversion ends where the body of the function that converts is left. -/
theorem State.Sound.endState_toKey
    (sound : state.Sound)
    (converts : state.heap.ConvertsBy ref function)
    (call : Invoker)
    (depth : Depth) :
    (toKey call (.object ref) depth).endState state =
      (call ⟨function, .object ref, [], depth + 1⟩).endState state := by
  rw [RunM.endState, sound.toKey_of_convertsBy converts, RunM.endState]
  cases call ⟨function, .object ref, [], depth + 1⟩ state with
  | error interruption after => rfl
  | ok result after =>
      dsimp only
      cases after.heap.convertedKey result <;> rfl

/-- What converts nothing becomes the text that all objects share. -/
theorem State.Sound.toKey_of_unconverted
    (sound : state.Sound)
    (unconverted : ∀ function, ¬ state.heap.ConvertsBy ref function)
    (call : Invoker)
    (depth : Depth) :
    toKey call (.object ref) depth state = .ok (.ofText objectText) state := by
  rw [toKey_apply]
  cases found : state.heap.converter? (.object ref) with
  | none => rfl
  | some function =>
      exact absurd (sound.heap.converter?_eq_some_iff.1 found)
        (unconverted function)

/-- The body of the function that converts an object runs once within its
limit. -/
theorem State.Sound.runsConverterOnce
    {call : Caller}
    {depth : Depth}
    (serves : ∀ asked holding,
      (Progress.recording asked).Serves (Demand.asking asked) (call holding))
    (holding : Holding)
    (sound : state.Sound)
    (held : state.heap.Holds (.object ref))
    (converts : state.heap.ConvertsBy ref function)
    (bounded : depth + 1 ≤ (state.heap.function function).limits.callDepth) :
    let invocation : Invocation := ⟨function, .object ref, [], depth + 1⟩
    invocation.entry.RunsOnce
      ((enterFunction call holding invocation).interruption? state) state
      ((toKey (enterFunction call holding) (.object ref) depth).endState
        state) := by
  intro invocation
  have within : invocation.Within state.heap :=
    ⟨sound.heap.holds_converter converts,
      (Value.within_object ref).2 held, .nil⟩
  rw [sound.endState_toKey converts]
  exact (enterFunction_once serves holding bounded sound within).runsOnce

/--
At every moment of every run, an object becomes a key by at most one body, which
runs one level below the conversion. No accessor is ever asked.
-/
theorem convertsToKey_of_reaches
    (reached : Program.initialState.Reaches state)
    (held : state.heap.Holds (.object ref))
    {depth : Depth}
    (shallow : depth < 4294967295) :
    ∃ below : Depth, below.toNat = depth.toNat + 1 ∧
      state.ConvertsToKey ref depth below := by
  have sound := reached.sound Program.sound_initialState
  refine ⟨depth + 1, Depth.toNat_add_one shallow, ?_, ?_, ?_, ?_, ?_⟩
  · exact fun function shared => sound.heap.unowned_of_shared shared
  · exact fun function converts call =>
      sound.toKey_of_convertsBy converts call depth
  · intro function converts stop bound holding call invocation convert limit
    split
    next deep =>
      have entered : call ⟨function, .object ref, [], depth + 1⟩ state =
          .error (.fault (.callDepthExceeded limit)) state :=
        enterFunction_of_deep _ _ deep
      have asked := sound.toKey_of_convertsBy converts call depth
      rw [entered] at asked
      exact asked
    next shallow =>
      exact sound.runsConverterOnce
        (serves_callUntil stop bound) holding held converts
        (UInt32.not_lt.1 shallow)
  · exact fun unconverted call =>
      sound.toKey_of_unconverted unconverted call depth
  · intro other function converts
    have asked := sound.heap.converter?_eq_some_iff.2 converts
    rcases other with ⟨getter, setter, accessor⟩ | ⟨value, own,
      different⟩ | ⟨unshared, unowned⟩
    · have unowned := sound.heap.unowned_of_shared accessor
      exact nomatch accessor.symm.trans
        ((Heap.converter?_of_unowned unowned).1 asked)
    · exact different function ((Heap.converter?_of_owned own).1 asked)
    · exact nomatch unshared.symm.trans
        ((Heap.converter?_of_unowned unowned).1 asked)

/-- An object that a method converts, and one whose class has a getter in place
of the method. -/
def convertingSteps : List Step :=
  let made (entry : BlueprintEntry WrittenKey Expr) : Step :=
    .evaluate (.apply (.host .construct) [.klass {
      blueprint := { name := none, scope := none, body := .ofEntries [entry] }
      binding := .expression
      limits := .standard }]) none
  [made (.method (.literal (.text "toString")) (.literal .null)),
    made (.getter (.literal (.text "toString")) (.literal .null))]

/-- At the last depth at which the method may run, the one object is
converted by it. -/
theorem convertsToKey_of_reaches_convertingSteps :
    let before :=
      Program.endState (callUntil (fun _ => false) 1) Program.initialState
        convertingSteps
    let key? (ref : ObjectRef) : Option PropertyKey :=
      match toKey (enterFunction (callUntil (fun _ => false) 0) .none)
        (.object ref) 255 before with
      | .ok key _ => some key
      | .error _ _ => none
    (key? ⟨0⟩ = some (.ofText "null") ∧ key? ⟨1⟩ = some (.ofText objectText)) ∧
      ∃ below : Depth, below.toNat = (255 : Depth).toNat + 1 ∧
        before.ConvertsToKey ⟨0⟩ 255 below := by
  intro before key?
  refine ⟨by decide +kernel, ?_⟩
  apply convertsToKey_of_reaches
  · exact Program.reaches_endState _ 1 convertingSteps .refl
  · show 0 < Store.size _
    decide +kernel
  · decide

end Conversions
end ClassLowering
