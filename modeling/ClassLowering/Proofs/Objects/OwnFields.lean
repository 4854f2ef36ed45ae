import ClassLowering.Proofs.Heap.Fields
import ClassLowering.Proofs.Objects.ConstructorLink
import Mathlib.Logic.Relation

/-!
# Own fields along runs

Along every run the own fields of an object only grow at their end, and whatever
stores a field stores it in one object and leaves all others as they are.

A copy notes the keys of its source before it writes the first of them. The
writes may run setters, and these may change the source, but they can take no
key away from it. So every key that was noted is there when its value is read,
and what a copy would do without it is never done.
-/

namespace ClassLowering

namespace Heap

/-- A field is stored in one object, and all other objects are left as they
are. -/
structure Stores (heap later : Heap) (ref : ObjectRef) (key : PropertyKey)
    (value : Value) :
    Prop where
  fields : (later.object ref).fields = (heap.object ref).fields.insert key value
  others : ∀ other, other ≠ ref -> later.object other = heap.object other

/-- A change leaves every object that is there as it is, or it stores a field
in one of them. -/
inductive StoresInOne (heap later : Heap) : Prop
  | none :
      (∀ ref, heap.Holds (.object ref) -> later.object ref = heap.object ref) ->
      StoresInOne heap later
  | one (ref : ObjectRef) (key : PropertyKey) (value : Value) :
      heap.Stores later ref key value -> StoresInOne heap later

/-- Heaps with the same objects store nothing. -/
theorem StoresInOne.of_objects_eq
    {heap later : Heap}
    (same : later.objects = heap.objects) :
    heap.StoresInOne later :=
  .none fun ref _ => by rw [object, object, same]

/-- To define a field is to store it. -/
theorem stores_defineField
    {heap : Heap}
    {ref : ObjectRef}
    (held : heap.Holds (.object ref))
    (key : PropertyKey)
    (value : Value) :
    heap.Stores (heap.defineField ref key value) ref key value where
  fields := by rw [object_defineField_self held]
  others other different :=
    (heap.object_defineField ref other key value).resolve_right fun same =>
      different same.1

/-- A field is defined in one object, if the object is there at all. -/
theorem storesInOne_defineField
    (heap : Heap)
    (ref : ObjectRef)
    (key : PropertyKey)
    (value : Value) :
    heap.StoresInOne (heap.defineField ref key value) := by
  by_cases held : heap.Holds (.object ref)
  · exact .one ref key value (stores_defineField held key value)
  · refine .none fun other _ =>
      (heap.object_defineField ref other key value).resolve_right ?_
    exact fun same => held same.2.1

/-- No step stores in more than one object. -/
theorem Step.storesInOne
    {makes : FunctionCell -> Prop}
    {heap later : Heap}
    (step : Step makes heap later) :
    heap.StoresInOne later := by
  cases step with
  | object klass known => exact .none fun ref held => object_newObject held
  | write ref key value free within =>
      exact storesInOne_defineField heap ref key value
  | define ref klass field value linked declared within =>
      exact storesInOne_defineField heap ref field.key value
  | assign ref name value later within assigned =>
      obtain ⟨owner, binding, -, -, -, rfl⟩ := assign_eq_ok assigned
      exact .of_objects_eq rfl
  | classScope outer internalName held =>
      cases internalName <;> exact .of_objects_eq rfl
  | _ => exact .of_objects_eq rfl

/-- A path leads from change to change, none of which stores in more
than one object. -/
theorem Path.storesInTurn
    {makes : FunctionCell -> Prop}
    {heap later : Heap}
    (path : Path makes heap later) :
    Relation.ReflTransGen StoresInOne heap later := by
  induction path with
  | refl heap => exact .refl
  | tail _ step earlier => exact earlier.tail step.storesInOne
  | @elaboration _ outside inside outer cell _ _ _ _ _ earlier inner =>
      have opens :
          outside.StoresInOne
            (outside.openClassScope outer cell.internalName).2 := by
        cases cell.internalName <;> exact .of_objects_eq rfl
      have finishes : inside.StoresInOne (inside.finishClass cell).2 := by
        unfold finishClass bindSelf
        cases cell.internalName <;> exact .of_objects_eq rfl
      exact ((earlier.tail opens).trans inner).tail finishes

end Heap

section Copies

variable (missing : PropertyKey -> RunM Value) (call : Invoker)
  (target : ObjectRef)

/-- Copy the fields under some keys, with a run of its own for each key
that has no value. -/
def copyKeysOr (source : ObjectRef) : List PropertyKey -> RunM Unit
  | [] => return ()
  | key :: rest => do
      let object ← RunM.readHeap (·.object source)
      let value ← match object.fields.find? key with
        | some value => pure value
        | none => missing key
      writeObject call target key value 1
      copyKeysOr source rest

/-- Copy the own fields of a value, with a run of its own for each key
that has no value. -/
def copyFieldsOr (source : Value) : RunM Unit := do
  match source with
  | .object ref =>
      let keys := (← RunM.readHeap (·.object ref)).fields.keys
      copyKeysOr missing call target ref keys
  | _ => return ()

variable {missing call target}

/-- A key with a value is copied, whatever would be done without one. -/
theorem copyKeysOr_cons
    {source : ObjectRef}
    {key : PropertyKey}
    {rest : List PropertyKey}
    {state : State}
    (present : key ∈ (state.heap.object source).fields) :
    copyKeysOr missing call target source (key :: rest) state =
      (do writeObject call target key (state.heap.fieldValue source key) 1
          copyKeysOr missing call target source rest : RunM Unit) state := by
  obtain ⟨value, found⟩ := (OrderedMap.mem_iff_find? _ _).1 present
  rw [copyKeysOr, RunM.bind_of_ok (RunM.readHeap_apply _ _), found,
    Heap.fieldValue, found]
  rfl

end Copies

/-- Keys that a source has are copied, whatever would be done without one of
them. -/
theorem copyKeysOr_eq
    {state : State}
    {target source : ObjectRef}
    {keys : List PropertyKey}
    (missing : PropertyKey -> RunM Value)
    (stop : State -> Bool)
    (bound : Nat)
    (holding : Holding)
    (sound : state.Sound)
    (held : state.heap.Holds (.object target))
    (present : keys ⊆ (state.heap.object source).fields.keys) :
    copyKeysOr missing (callUntil stop bound holding) target source keys state =
      copyKeys (callUntil stop bound holding) target source keys state := by
  induction keys generalizing state with
  | nil => rfl
  | cons key rest hypothesis =>
      obtain ⟨isPresent, restPresent⟩ := List.cons_subset.1 present
      rw [copyKeysOr_cons (OrderedMap.mem_of_mem_keys isPresent), copyKeys,
        RunM.bind_of_ok (RunM.readHeap_apply _ _)]
      cases written : writeObject (callUntil stop bound holding) target key
          (state.heap.fieldValue source key) 1 state with
      | error interruption after =>
          rw [RunM.bind_of_error written, RunM.bind_of_error written]
      | ok result after =>
          rw [RunM.bind_of_ok written, RunM.bind_of_ok written]
          -- A setter that ran may have changed the source, but all its keys
          -- are still there.
          have moves := moves_writeObject sound held
            sound.heap.within_fieldValue written
          have extension := moves.path.extension
          exact hypothesis (moves.sound sound) (extension.holds _ held)
            (List.Subset.trans restPresent (moves.keepsFields source).subset)

/-- What holds of own fields between two states, and of what is done to them in
the second one. -/
structure State.KeepsOwnFields (before now : State) : Prop where
  /-- The keys that an object had are the first ones that it has, in the same
  order. -/
  keys : ∀ ref, (before.heap.object ref).fields.keys <+:
    (now.heap.object ref).fields.keys
  /-- No key comes twice, and no symbol under two descriptions. -/
  apart : ∀ ref, (now.heap.object ref).fields.keys.Pairwise fun key other =>
    key.identity ≠ other.identity
  /-- What happens in between stores in one object at a time. -/
  changes : Relation.ReflTransGen Heap.StoresInOne before.heap now.heap
  /-- A field that is defined is stored in its object, and in no other one. -/
  stores : ∀ ref key value, now.heap.Holds (.object ref) ->
    now.heap.Stores (now.defining ref key value).heap ref key value
  /-- A write that runs no setter defines the field and does nothing else. -/
  writes : ∀ (call : Invoker) ref key value depth,
    now.heap.writePlan ref key = .store ->
    writeObject call ref key value depth now =
      .ok () (now.defining ref key value)
  /-- A declared field is defined when it has its initial value. -/
  defines : ∀ (call : Invoker) ref depth (field : FieldDeclaration) rest
    (asked : State) value,
    InitialValue call (field.invocation? ref depth) asked value now ->
      defineFields call ref depth (field :: rest) asked =
        defineFields call ref depth rest (now.defining ref field.key value)
  /-- A copy finds a value under every key that it notes. -/
  copies : ∀ (missing : PropertyKey -> RunM Value) (stop : State -> Bool)
    (bound : Nat)
    (holding : Holding) target source, now.heap.Holds (.object target) ->
      copyFieldsOr missing (callUntil stop bound holding) target source now =
        copyFields (callUntil stop bound holding) target source now

/--
Between any two states of any run, objects keep their own fields in order, every
store is one to a single object, and a copy never misses a key.
-/
theorem ownFields_of_reaches
    {before now : State}
    (reached : Program.initialState.Reaches before)
    (reaches : before.Reaches now) :
    before.KeepsOwnFields now := by
  have sound := reached.sound Program.sound_initialState
  have moves := reaches.moves sound
  have apart (ref : ObjectRef) :
      (now.heap.object ref).fields.keys.Pairwise fun key other =>
      key.identity ≠ other.identity :=
    (OrderedMap.pairwise_keys _).imp (mt PropertyKey.beq_iff_identity_eq.2)
  refine ⟨moves.keepsFields, apart, moves.path.storesInTurn,
    fun ref key value held =>
      Heap.stores_defineField held key value, ?_, ?_, ?_⟩
  · intro call ref key value depth plan
    rw [writeObject_apply, plan, State.defining]
  · intro call ref depth field rest asked value initial
    rw [defineFields]
    generalize same : field.invocation? ref depth = invocation? at initial
    cases declared : field.initializer? with
    | none =>
        rw [FieldDeclaration.invocation?, declared] at same
        cases same
        cases initial
        rfl
    | some function =>
        rw [FieldDeclaration.invocation?, declared] at same
        cases same
        cases initial with
        | initialized ended => exact RunM.bind_of_ok ended
  · intro missing stop bound holding target source held
    cases source with
    | object ref =>
        rw [copyFieldsOr, copyFields, RunM.bind_of_ok (RunM.readHeap_apply _ _),
          RunM.bind_of_ok (RunM.readHeap_apply _ _)]
        exact copyKeysOr_eq missing stop bound holding (moves.sound sound) held
          (List.Subset.refl _)
    | _ => rfl

/-- An object, and one of a class with a setter that writes to the former. -/
def refillingSteps : List Step :=
  let stored (name : String) : Expr := .apply (.storage (.variable name)) []
  let write (key : String) : Expr :=
    .apply (.host .writeProperty)
      [stored "source", .literal (.string key), .literal .null]
  let refill : Expr := .sequence [write "late", write "added"]
  let form : ClassForm Expr := {
    blueprint := {
      name := some "Refilling"
      scope := none
      body :=
        ⟨[⟨.setter, .literal (.text "early"), false, some refill, ["value"],
          0⟩], none⟩ }
    binding := .expression
    limits := .standard }
  [.evaluate (.apply (.host .newObject) []) (some "source"),
    .evaluate (.sequence [write "early", write "late"]) none,
    .evaluate (.klass form) (some "made"),
    .evaluate (.apply (.host .construct) [stored "made"]) (some "target")]

/-- A copy whose first write adds a field to its source keeps the fields that
the source had. -/
theorem ownFields_of_reaches_refillingSteps :
    let call := callUntil (fun _ => false) 1
    let before := Program.endState call Program.initialState refillingSteps
    let stored (name : String) : Expr := .apply (.storage (.variable name)) []
    let copy : Step :=
      .evaluate (.apply (.host .copyFields) [stored "target", stored "source"])
        none
    let now := (copy.run call before).2
    ((before.heap.object ⟨0⟩).fields.keys = [.ofText "early", .ofText "late"] ∧
      (now.heap.object ⟨0⟩).fields.keys =
        [.ofText "early", .ofText "late", .ofText "added"] ∧
        (now.heap.object ⟨1⟩).fields.keys = [.ofText "late"]) ∧
      before.KeepsOwnFields now := by
  intro call before stored copy now
  refine ⟨by decide +kernel, ?_⟩
  apply ownFields_of_reaches
  · exact Program.reaches_endState _ 1 refillingSteps .refl
  · exact .step _ 1 copy .refl

end ClassLowering
