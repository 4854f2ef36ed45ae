import ClassLowering.Proofs.Objects.OwnFields
import ClassLowering.Proofs.Objects.SharedEntries

/-!
# Copies of fields

A copy notes the keys of its source and writes them to its target one after
another. A write may run a setter, which may change the source, so each key is
written with the value that the source has when its turn comes. The first write
that fails ends the copy.

An object of no class has no setters. It gets the fields of the source that it
lacks behind its own ones, and nothing of what the class of the source shares.
-/

namespace ClassLowering

/-- Defining a field with the value that it has changes nothing. -/
theorem Heap.defineField_of_find?
    {heap : Heap}
    {ref : ObjectRef}
    {key : PropertyKey}
    {value : Value}
    (found : (heap.object ref).fields.find? key = some value) :
    heap.defineField ref key value = heap := by
  have same : (heap.objects.modify ref fun cell =>
      { cell with fields := cell.fields.insert key value }) = heap.objects := by
    refine heap.objects.modify_of_fixed fun cell isCell => ?_
    rw [Heap.object, isCell, Option.getD_some] at found
    rw [OrderedMap.insert_of_find? found]
  rw [defineField, same]

section Courses

variable (call : Invoker) (target source : ObjectRef)

/-- Keys are written in turn, each with the value that the source has then, and
no write fails. -/
inductive WritesInTurn : List PropertyKey -> State -> State -> Prop
  | nil (state : State) : WritesInTurn [] state state
  | cons {key : PropertyKey} {rest : List PropertyKey} {value : Value}
      {before between after : State} :
      (before.heap.object source).fields.find? key = some value ->
        writeObject call target key value 1 before = .ok () between ->
          WritesInTurn rest between after ->
            WritesInTurn (key :: rest) before after

/-- How a copy of some keys ends: with all of them written, or at the first
that is refused. -/
inductive CopyEnds (keys : List PropertyKey) (before : State) :
    EStateM.Result Interruption State Unit -> Prop
  | written {after : State} :
      WritesInTurn call target source keys before after ->
        CopyEnds keys before (.ok () after)
  | refused {earlier later : List PropertyKey} {key : PropertyKey}
      {value : Value}
      {between after : State} {interruption : Interruption} :
      keys = earlier ++ key :: later ->
        WritesInTurn call target source earlier before between ->
        (between.heap.object source).fields.find? key = some value ->
          writeObject call target key value 1 between =
            .error interruption after ->
            CopyEnds keys before (.error interruption after)

end Courses

/-- Fields of a source are copied to a target, and nothing else is different
in two states. -/
structure State.CopiesKeys (before : State) (target source : ObjectRef)
    (keys : List PropertyKey) (after : State) : Prop where
  /-- All fields stay in their places, and the new ones come last in the
  order of the keys. -/
  keys_eq : (after.heap.object target).fields.keys =
    (before.heap.object target).fields.keys ++
      keys.filter fun key => key ∉ (before.heap.object target).fields
  copied : ∀ key ∈ keys, (after.heap.object target).fields.find? key =
    (before.heap.object source).fields.find? key
  kept : ∀ key, (∀ copied ∈ keys, ¬copied == key) ->
    (after.heap.object target).fields.find? key =
      (before.heap.object target).fields.find? key
  klass_eq : (after.heap.object target).klass =
    (before.heap.object target).klass
  others : ∀ other, other ≠ target ->
    after.heap.object other = before.heap.object other
  rest_eq : after = { before with heap :=
    { before.heap with objects := after.heap.objects } }

section Writes

variable {before between after : State} {target source : ObjectRef}
  {key : PropertyKey}
variable {value : Value} {rest : List PropertyKey}

/-- A field that is copied leaves the values of its source as they are, even
in the target. -/
theorem State.WritesField.find?_source
    (writes : before.WritesField target key value between)
    (found : (before.heap.object source).fields.find? key = some value)
    (other : PropertyKey) :
    (between.heap.object source).fields.find? other =
      (before.heap.object source).fields.find? other := by
  by_cases same : source = target
  · rw [same] at found ⊢
    rw [writes.find?_eq]
    split
    next isKey => rw [← OrderedMap.find?_congr _ isKey, found]
    next => rfl
  · rw [writes.others source same]

/-- A field is copied, and then others are. -/
theorem State.CopiesKeys.cons
    (writes : before.WritesField target key value between)
    (found : (before.heap.object source).fields.find? key = some value)
    (isNew : ∀ other ∈ rest, ¬key == other)
    (copies : between.CopiesKeys target source rest after) :
    before.CopiesKeys target source (key :: rest) after where
  keys_eq := by
    rw [copies.keys_eq, writes.keys_eq]
    have sameRest : ∀ other ∈ rest,
        decide (other ∉ (between.heap.object target).fields) =
        decide (other ∉ (before.heap.object target).fields) := by
      intro other inRest
      rw [decide_eq_decide, ← OrderedMap.find?_eq_none_iff, ←
        OrderedMap.find?_eq_none_iff, writes.find?_eq,
        if_neg (isNew other inRest)]
    rw [List.filter_congr sameRest]
    by_cases owned : key ∈ (before.heap.object target).fields
    · rw [if_pos owned, List.filter_cons_of_neg (by simpa using owned)]
    · rw [if_neg owned, List.filter_cons_of_pos (by simpa using owned),
        List.append_assoc]
      rfl
  copied other isCopied := by
    rcases List.mem_cons.1 isCopied with rfl | inRest
    · rw [copies.kept other fun later inRest same =>
        isNew later inRest (BEq.symm same), writes.find?_eq,
        if_pos BEq.rfl, found]
    · rw [copies.copied other inRest, writes.find?_source found]
  kept other isKept := by
    obtain ⟨different, notInRest⟩ := List.forall_mem_cons.1 isKept
    rw [copies.kept other notInRest, writes.find?_eq, if_neg different]
  klass_eq := copies.klass_eq.trans writes.klass_eq
  others other different :=
    (copies.others other different).trans (writes.others other different)
  rest_eq := by
    have rest := copies.rest_eq
    rw [writes.rest_eq] at rest
    exact rest

end Writes

section Keys

variable {state : State} {target source : ObjectRef} {keys : List PropertyKey}

/-- A key with a value is written with the value before the others are
copied. -/
theorem copyKeys_cons
    {key : PropertyKey}
    {value : Value}
    (found : (state.heap.object source).fields.find? key = some value)
    (call : Invoker)
    (rest : List PropertyKey) :
    copyKeys call target source (key :: rest) state =
      (do writeObject call target key value 1
          copyKeys call target source rest : RunM Unit) state := by
  rw [copyKeys, RunM.bind_of_ok (RunM.readHeap_apply _ _),
    Heap.fieldValue, found]
  rfl

/-- A copy of keys that the source has writes them in turn, up to the first
that is refused. -/
theorem copyEnds_of_copyKeys
    (stop : State -> Bool)
    (bound : Nat)
    (holding : Holding)
    (sound : state.Sound)
    (held : state.heap.Holds (.object target))
    (present : keys ⊆ (state.heap.object source).fields.keys) :
    let call := callUntil stop bound holding
    CopyEnds call target source keys state
      (copyKeys call target source keys state) := by
  intro call
  induction keys generalizing state with
  | nil => exact .written (.nil state)
  | cons key rest hypothesis =>
      obtain ⟨isPresent, restPresent⟩ := List.cons_subset.1 present
      obtain ⟨value, found⟩ :=
        (OrderedMap.mem_iff_find? _ _).1 (OrderedMap.mem_of_mem_keys isPresent)
      rw [copyKeys_cons found]
      cases written : writeObject call target key value 1 state with
      | error interruption after =>
          rw [RunM.bind_of_error written]
          have split : key :: rest = [] ++ key :: rest := rfl
          exact .refused split (.nil state) found written
      | ok result between =>
          rw [RunM.bind_of_ok written]
          have known := (sound.heap.object source).values value
            (OrderedMap.mem_values_of_find? found)
          have moves := moves_writeObject sound held known written
          -- A setter that ran may have changed the source, but all its keys
          -- are still there.
          have stillPresent := List.Subset.trans restPresent
            (moves.keepsFields source).subset
          have ends := hypothesis (moves.sound sound)
            (moves.path.extension.holds _ held) stillPresent
          generalize copyKeys call target source rest between = ended at ends ⊢
          cases ends with
          | written others => exact .written (.cons found written others)
          | refused split others laterFound refused =>
              exact .refused (congrArg (List.cons key) split)
                (.cons found written others) laterFound refused

/-- A copy to an object whose prototype lacks all keys writes them, and no body
runs. -/
theorem exists_copiesKeys
    (held : state.heap.Holds (.object target))
    (distinct : keys.Pairwise fun key other => ¬key == other)
    (present : keys ⊆ (state.heap.object source).fields.keys)
    (free : ∀ key ∈ keys, state.heap.sharedMember? target key = none) :
    ∃ after, state.CopiesKeys target source keys after ∧
      ∀ call : Invoker, copyKeys call target source keys state =
        .ok () after := by
  induction keys generalizing state with
  | nil =>
      refine ⟨state,
        ⟨by simp, by simp, fun _ _ => rfl, rfl, fun _ _ => rfl, rfl⟩,
        fun call => rfl⟩
  | cons key rest hypothesis =>
      obtain ⟨isNew, restDistinct⟩ := List.pairwise_cons.1 distinct
      obtain ⟨isPresent, restPresent⟩ := List.cons_subset.1 present
      obtain ⟨value, found⟩ :=
        (OrderedMap.mem_iff_find? _ _).1 (OrderedMap.mem_of_mem_keys isPresent)
      let between := state.defining target key value
      have writes : state.WritesField target key value between :=
        State.writesField_defining held key value
      have stillHeld : between.heap.Holds (.object target) :=
        (Heap.extends_defineField _ _ _ _).holds _ held
      have stillPresent : rest ⊆ (between.heap.object source).fields.keys :=
        List.Subset.trans restPresent
          (Heap.keepsFields_defineField _ _ _ _ source).subset
      have stillFree : ∀ other ∈ rest,
          between.heap.sharedMember? target other = none := by
        intro other inRest
        rw [writes.sharedMember?_eq]
        exact free other (List.mem_cons_of_mem _ inRest)
      obtain ⟨after, copies, ends⟩ :=
        hypothesis stillHeld restDistinct stillPresent stillFree
      refine ⟨after, .cons writes found isNew copies, fun call => ?_⟩
      have plan := (state.heap.writePlan_eq_store_iff target key).2
        (.inr (free key List.mem_cons_self))
      have written : writeObject call target key value 1 state =
          .ok () between := by
        rw [writeObject_apply, plan]
        rfl
      rw [copyKeys_cons found, RunM.bind_of_ok written, ends call]

/-- A copy of fields that the target has with the same values changes
nothing. -/
theorem copyKeys_of_same
    (present : keys ⊆ (state.heap.object source).fields.keys)
    (same : ∀ key ∈ keys, (state.heap.object target).fields.find? key =
      (state.heap.object source).fields.find? key)
    (call : Invoker) :
    copyKeys call target source keys state = .ok () state := by
  induction keys with
  | nil => rfl
  | cons key rest hypothesis =>
      obtain ⟨isPresent, restPresent⟩ := List.cons_subset.1 present
      obtain ⟨sameFirst, sameRest⟩ := List.forall_mem_cons.1 same
      obtain ⟨value, found⟩ :=
        (OrderedMap.mem_iff_find? _ _).1 (OrderedMap.mem_of_mem_keys isPresent)
      have owned : key ∈ (state.heap.object target).fields :=
        (OrderedMap.mem_iff_find? _ _).2 ⟨value, sameFirst.trans found⟩
      have plan := (state.heap.writePlan_eq_store_iff target key).2 (.inl owned)
      have written : writeObject call target key value 1 state =
          .ok () state := by
        rw [writeObject_apply, plan]
        dsimp only
        rw [Heap.defineField_of_find? (sameFirst.trans found)]
      rw [copyKeys_cons found, RunM.bind_of_ok written,
        hypothesis restPresent sameRest]

end Keys

/-- How fields are copied to an object. -/
structure State.CopiesFields (state : State) (target : ObjectRef) : Prop where
  /-- The keys that the source has at the start are written in turn, up to the
  first refusal. -/
  inTurn : ∀ (stop : State -> Bool) (bound : Nat) (holding : Holding) source,
    let call := callUntil stop bound holding
    CopyEnds call target source (state.heap.object source).fields.keys state
      (copyFields call target (.object source) state)
  /--
  All of them are copied to an object of no class, and none of what the class of
  the source shares. No body runs, and another such copy changes nothing.
  -/
  plain : (state.heap.object target).klass = none -> ∀ source, ∃ after,
    state.CopiesKeys target source
      (state.heap.object source).fields.keys after ∧
      (∀ key entry, state.heap.sharedMember? source key = some entry ->
        (after.heap.object target).fields.find? key =
          (state.heap.object target).fields.find? key) ∧
        ∀ call : Invoker, copyFields call target (.object source) state =
          .ok () after ∧
          copyFields call target (.object source) after = .ok () after
  /-- What is no object has no fields to copy. -/
  nothing : ∀ (call : Invoker) source, (∀ ref, source ≠ .object ref) ->
    copyFields call target source state = .ok () state

section Fields

variable {state : State} {target : ObjectRef}

/-- The fields of an object are copied under the keys that it has. -/
theorem copyFields_object
    (call : Invoker)
    (source : ObjectRef) :
    copyFields call target (.object source) state =
      copyKeys call target source
        (state.heap.object source).fields.keys state := by
  rw [copyFields, RunM.bind_of_ok (RunM.readHeap_apply _ _)]

/--
At every moment of every run, a copy writes the keys of its source in order,
each with the value that it has then, and copies to an object of no class all
fields and nothing else.
-/
theorem copiesFields_of_reaches
    (reached : Program.initialState.Reaches state)
    (held : state.heap.Holds (.object target)) :
    state.CopiesFields target := by
  have sound := reached.sound Program.sound_initialState
  refine ⟨?_, ?_, ?_⟩
  · intro stop bound holding source call
    rw [copyFields_object]
    exact copyEnds_of_copyKeys stop bound holding sound held
      (List.Subset.refl _)
  · intro plain source
    have free : ∀ key ∈ (state.heap.object source).fields.keys,
        state.heap.sharedMember? target key = none := by
      intro key _
      rw [Heap.sharedMember?, Heap.prototype?, plain]
      rfl
    obtain ⟨after, copies, ends⟩ :=
      exists_copiesKeys held (OrderedMap.pairwise_keys _)
      (List.Subset.refl _) free
    refine ⟨after, copies, ?_, fun call => ⟨?_, ?_⟩⟩
    · refine fun key entry shared => copies.kept key fun own isOwn same => ?_
      exact sound.heap.unowned_of_shared shared
        (OrderedMap.mem_iff_keys.2 ⟨own, isOwn, same⟩)
    · rw [copyFields_object, ends call]
    · rw [copyFields_object]
      refine copyKeys_of_same (List.Subset.refl _) (fun key owned => ?_) call
      -- An object that is copied to itself agrees with itself, and another
      -- source is left alone.
      by_cases same : source = target
      · rw [same]
      · rw [copies.others source same] at owned ⊢
        exact copies.copied key owned
  · intro call source isNone
    cases source with
    | object ref => exact absurd rfl (isNone ref)
    | _ => rfl

/-- An object with three fields, one of a class that refuses the second of them,
and a plain one. -/
def refusingSteps : List Step :=
  let write (key : String) : Expr :=
    .apply (.host .writeProperty)
      [.apply (.storage (.variable "source")) [], .literal (.string key),
        .literal .null]
  let form : ClassForm Expr := {
    blueprint := {
      name := some "Refusing"
      scope := none
      body := .ofEntries [.getter (.literal (.text "second")) .nothing] }
    binding := .expression
    limits := .standard }
  [.evaluate (.apply (.host .newObject) []) (some "source"),
    .evaluate (.sequence [write "first", write "second", write "third"]) none,
    .evaluate (.apply (.host .construct) [.klass form]) none,
    .evaluate (.apply (.host .newObject) []) none]

/-- A copy that is refused keeps what it has written, and a plain object
gets all fields. -/
theorem copiesFields_of_reaches_refusingSteps :
    let call := callUntil (fun _ => false) 1
    let before := Program.endState call Program.initialState refusingSteps
    let copy (target : ObjectRef) :=
      copyFields (call .none) target (.object ⟨0⟩)
    let keys (target : ObjectRef) :=
      (((copy target).endState before).heap.object target).fields.keys
    ((copy ⟨1⟩).interruption? before =
          some (.fault (.accessorMissing (.ofText "second") .set)) ∧
        keys ⟨1⟩ = [.ofText "first"] ∧
          keys ⟨2⟩ = [.ofText "first", .ofText "second", .ofText "third"]) ∧
      before.CopiesFields ⟨1⟩ := by
  intro call before copy keys
  refine ⟨by decide +kernel, ?_⟩
  apply copiesFields_of_reaches
  · exact Program.reaches_endState _ 1 refusingSteps .refl
  · show 1 < Store.size _
    decide +kernel

end Fields
end ClassLowering
