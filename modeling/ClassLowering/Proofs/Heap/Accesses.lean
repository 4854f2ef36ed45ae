import ClassLowering.Semantics.KeyConversion

/-!
# Reads and writes of properties

What a read or a write of an object comes to is settled by the heap.
Where a getter or a setter has to run, the access is its run; everywhere
else nothing runs.

An object that can be converted to a key has a value under the key of its
conversion, so that no getter runs there.
-/

namespace ClassLowering

/-- A read is settled by the heap, or else is what the getter does. -/
theorem readObject_apply
    (call : Invoker)
    (ref : ObjectRef)
    (key : PropertyKey)
    (depth : Depth)
    (state : State) :
    readObject call ref key depth state =
      match state.heap.readPlan ref key with
      | .value value => .ok value state
      | .run getter => call ⟨getter, .object ref, [], depth⟩ state
      | .noGetter => .error (.fault (.accessorMissing key .get)) state := by
  rw [readObject, RunM.bind_of_ok (RunM.readHeap_apply _ _)]
  cases state.heap.readPlan ref key <;> rfl

/-- A write is settled by the heap, or else is what the setter does. -/
theorem writeObject_apply
    (call : Invoker)
    (ref : ObjectRef)
    (key : PropertyKey)
    (value : Value)
    (depth : Depth)
    (state : State) :
    writeObject call ref key value depth state =
      match state.heap.writePlan ref key with
      | .store =>
          .ok () { state with heap := state.heap.defineField ref key value }
      | .run setter =>
          (discard (call ⟨setter, .object ref, [value], depth⟩) : RunM Unit)
            state
      | .noSetter => .error (.fault (.accessorMissing key .set)) state
      | .readOnly => .error (.fault (.readOnlyMember key)) state := by
  rw [writeObject, RunM.bind_of_ok (RunM.readHeap_apply _ _)]
  cases state.heap.writePlan ref key <;> rfl

/-- An object that can be converted is never read through a getter. -/
theorem Heap.readPlan_of_hasConversion
    {heap : Heap}
    {ref : ObjectRef}
    (converts : heap.hasConversion ref = true) :
    ∃ value, heap.readPlan ref toStringKey = .value value := by
  unfold readPlan
  cases own : (heap.object ref).fields.find? toStringKey with
  | some value => exact ⟨value, rfl⟩
  | none =>
      have absent : (heap.object ref).fields.contains toStringKey = false := by
        rw [OrderedMap.find?_eq_none_iff] at own
        exact Bool.eq_false_iff.2 own
      rw [hasConversion, absent, Bool.or_false] at converts
      cases linked : (heap.object ref).klass with
      | none => exact ⟨.undefined, rfl⟩
      | some klass =>
          rw [prototype?, linked, Option.map_some, Option.bind_some,
            Prototype.method?] at converts
          split at converts
          next function found =>
            exact ⟨.function function, by simp [found, entryReadPlan]⟩
          next => cases converts

end ClassLowering
