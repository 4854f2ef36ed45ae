import ClassLowering.Proofs.Elaboration.Soundness
import ClassLowering.Proofs.Heap.Accesses
import ClassLowering.Proofs.Objects.Protocol
import ClassLowering.Proofs.Runs.Moments

/-!
# The link from an object to its class

An object that was constructed keeps its class. It shares the prototype of the
class, and under the key `constructor` the prototype leads back to the class. No
own field ever hides this link, since writes to a key of the prototype are
refused and no class declares such a field. No definition replaces it, since the
key is reserved.

So the link tells to the end of every run which class an object was
constructed from.
-/

namespace ClassLowering

/-- Some moment of a run came after the construction of an object of a
class had started. -/
def State.Constructed (now : State) (object : ObjectRef)
    (klass : ClassRef) : Prop :=
  ∃ before : State, Program.initialState.Reaches before ∧
    before.heap.Holds (.klass klass) ∧
    (before.heap.newObject (some klass)).1 = object ∧
      State.Reaches { before with heap :=
        (before.heap.newObject (some klass)).2 } now

/-- An object leads back to its class by the key `constructor`, and nothing
can change that. -/
structure State.LinksBack (now : State) (object : ObjectRef)
    (klass : ClassRef) : Prop where
  /-- The object has the class, and with it the very prototype of the class. -/
  klass_eq : (now.heap.object object).klass = some klass
  prototype?_eq : now.heap.prototype? object =
    some (now.heap.klass klass).prototype
  entry_eq : (now.heap.klass klass).prototype.lookup .constructor =
    some .constructor
  /-- Reading the key yields the class, and runs nothing. -/
  reads : ∀ call depth, readObject call object .constructor depth now =
    .ok (.klass klass) now
  readsValue : ∀ call depth,
    readProperty call (.object object) .constructor depth now =
      .ok (.klass klass) now
  /-- The object is an instance of the class and of no other. -/
  isInstance_iff :
      ∀ other, now.heap.isInstance (.object object) other = true ↔ other = klass
  /-- Writing the key is refused, and leaves everything as it is. -/
  refuses : ∀ call value depth,
    writeObject call object .constructor value depth now =
    .error (.fault (.readOnlyMember .constructor)) now
  refusesValue : ∀ call value depth,
    writeProperty call (.object object) .constructor value depth
    now = .error (.fault (.readOnlyMember .constructor)) now
  /-- So is copying a field of this key to the object. -/
  refusesCopy : ∀ call source rest,
    copyKeys call object source (.constructor :: rest) now =
    .error (.fault (.readOnlyMember .constructor)) now

section Link

variable {state : State} {object : ObjectRef} {klass : ClassRef}

/-- No field of an object hides the link to its class. -/
theorem State.HasObject.unhidden (has : state.HasObject object klass) :
    .constructor ∉ (state.heap.object object).fields := by
  have link := (has.sound.heap.klass klass has.holds_klass).link
  intro hidden
  -- No field has a key of the prototype, and the link is one of its entries.
  refine (has.sound.heap.object object).apart klass has.linked _ hidden ?_
  by_contra absent
  rw [(Prototype.lookup_eq_none_iff _ _).2 absent] at link
  cases link

/-- Reading the key of the link comes to the class. -/
theorem State.HasObject.readPlan_constructor
    (has : state.HasObject object klass) :
    state.heap.readPlan object .constructor = .value (.klass klass) := by
  have link := (has.sound.heap.klass klass has.holds_klass).link
  rw [Heap.readPlan, (OrderedMap.find?_eq_none_iff _ _).2
    has.unhidden, has.linked]
  dsimp only
  rw [link]
  rfl

/-- Writing the key of the link is refused. -/
theorem State.HasObject.writePlan_constructor
    (has : state.HasObject object klass) :
    state.heap.writePlan object .constructor = .readOnly := by
  have link := (has.sound.heap.klass klass has.holds_klass).link
  have shared : state.heap.sharedMember? object .constructor =
      some .constructor := by
    rw [Heap.sharedMember?, Heap.prototype?, has.linked]
    exact link
  rw [Heap.writePlan, if_neg
    (OrderedMap.mem_iff_contains.not.1 has.unhidden), shared]
  rfl

/-- An object of a class in a sound state leads back to the class. -/
theorem State.HasObject.linksBack (has : state.HasObject object klass) :
    state.LinksBack object klass := by
  have reads : ∀ call depth,
      readObject call object .constructor depth state =
        .ok (.klass klass) state := by
    intro call depth
    rw [readObject_apply, has.readPlan_constructor]
  have refuses : ∀ call value depth,
      writeObject call object .constructor value depth state =
      .error (.fault (.readOnlyMember .constructor)) state := by
    intro call value depth
    rw [writeObject_apply, has.writePlan_constructor]
  refine ⟨has.linked, ?_, (has.sound.heap.klass klass has.holds_klass).link,
    reads, reads, fun other => ?_, refuses, refuses, ?_⟩
  · rw [Heap.prototype?, has.linked]
    rfl
  · rw [Heap.isInstance, has.linked]
    simp [eq_comm]
  · intro call source rest
    rw [copyKeys, RunM.bind_of_ok (RunM.readHeap_apply _ _)]
    exact RunM.bind_of_error (refuses call _ 1)

/-- Whatever becomes of a run, an object that was constructed is an
object of its class. -/
theorem State.Constructed.hasObject
    (constructed : state.Constructed object klass) :
    state.HasObject object klass := by
  obtain ⟨before, reached, held, rfl, later⟩ := constructed
  have has := (reached.sound Program.sound_initialState).hasNewObject held
  exact has.moves (later.moves has.sound)

/-- What is reached after a construction started comes after it. -/
theorem State.Constructed.moves
    {later : State}
    (constructed : state.Constructed object klass)
    (moves : state.Moves (fun _ => True) later) :
    later.Constructed object klass := by
  obtain ⟨before, reached, held, isObject, after⟩ := constructed
  exact ⟨before, reached, held, isObject, .move after moves⟩

/-- However a construction ends that is not refused, its object was
constructed. -/
theorem State.constructed_construct
    {before : State}
    {args : List Value}
    {depth : Depth}
    (stop : State -> Bool)
    (bound : Nat)
    (holding : Holding)
    (reached : Program.initialState.Reaches before)
    (held : before.heap.Holds (.klass klass))
    (argsWithin : AllWithin before.heap args)
    (below : depth < (before.heap.klass klass).limits.callDepth) :
    (RunM.lastState
      (construct (enterFunction (callUntil stop bound) holding) klass args depth
        before)).Constructed (before.heap.newObject (some klass)).1 klass := by
  obtain ⟨bodies, -, ran⟩ :=
    construct_inTurn (serves_callUntil stop bound) holding
    (reached.sound Program.sound_initialState) held argsWithin below
  exact ⟨before, reached, held, rfl, .move .refl ran.moves⟩

/-- Copying keys is copying the first of them and then the others. -/
theorem copyKeys_append
    (call : Invoker)
    (target source : ObjectRef)
    (earlier later : List PropertyKey) :
    copyKeys call target source (earlier ++ later) =
      (copyKeys call target source earlier >>= fun _ =>
        copyKeys call target source later) := by
  induction earlier with
  | nil => rfl
  | cons key rest hypothesis =>
      simp only [List.cons_append, copyKeys, hypothesis, bind_assoc]

/-- Writing a property of an object that is held is a move. -/
theorem moves_writeObject
    {stop : State -> Bool}
    {bound : Nat}
    {holding : Holding}
    {ref : ObjectRef}
    {key : PropertyKey}
    {value : Value}
    {depth : Depth}
    {before after : State}
    (sound : before.Sound)
    (held : before.heap.Holds (.object ref))
    (known : value.Within before.heap)
    (written : writeObject (callUntil stop bound holding) ref key value
      depth before = .ok () after) :
    before.Moves (fun _ => True) after := by
  have runs : (Progress.recording fun _ _ => True).Runs
      (writeObject (callUntil stop bound holding) ref key value depth) before
      fun _ _ => True :=
    runs_writeObject (serves_callUntil stop bound (fun _ _ => True) holding)
      (fun _ _ _ => Demand.total_asking _ _) sound held known
  unfold Progress.Runs at runs
  rw [written] at runs
  exact Progress.moves _ runs.1

/-- Copying keys to an object that is held is a move. -/
theorem moves_copyKeys
    {stop : State -> Bool}
    {bound : Nat}
    {holding : Holding}
    {target source : ObjectRef}
    {keys : List PropertyKey}
    {before after : State}
    (sound : before.Sound)
    (held : before.heap.Holds (.object target))
    (copied : copyKeys (callUntil stop bound holding) target source keys
      before = .ok () after) :
    before.Moves (fun _ => True) after := by
  have runs : (Progress.recording fun _ _ => True).Runs
      (copyKeys (callUntil stop bound holding) target source keys) before
      fun _ _ => True :=
    runs_copyKeys (serves_callUntil stop bound (fun _ _ => True) holding)
      (fun _ _ _ => Demand.total_asking _ _) sound held
  unfold Progress.Runs at runs
  rw [copied] at runs
  exact Progress.moves _ runs.1

/--
At every moment of every run, an object that was constructed from a class leads
back to this class and to no other, and all that would change it is refused. A
copy that reaches the key stops there with what it has copied, and no
elaboration makes a class without the link.
-/
theorem linksBack_of_constructed
    (constructed : state.Constructed object klass) :
    state.LinksBack object klass ∧
      (∀ (stop : State -> Bool) (bound : Nat) (holding : Holding)
          (source : ObjectRef)
          (earlier later : List PropertyKey) (between : State),
        (state.heap.object source).fields.keys = earlier ++
          .constructor :: later ->
          copyKeys (callUntil stop bound holding) object source earlier state =
            .ok () between ->
            copyFields (callUntil stop bound holding) object
                (.object source) state =
                .error (.fault (.readOnlyMember .constructor)) between ∧
              between.LinksBack object klass) ∧
      ∀ (call : Caller) (holding : Holding) (limits : Limits)
          (draft : ClassDraft)
          (binding : ClassBinding) (made : ClassRef) (after : State),
        elaborateAs call holding limits draft binding state = .ok made after ->
          (after.heap.klass made).prototype.lookup .constructor =
            some .constructor := by
  have has := constructed.hasObject
  refine ⟨has.linksBack, ?_, fun _ _ _ _ _ _ _ => link_of_elaborateAs⟩
  intro stop bound holding source earlier later between keys copied
  have moves := moves_copyKeys has.sound has.held copied
  have linksBetween := (constructed.moves moves).hasObject.linksBack
  refine ⟨?_, linksBetween⟩
  rw [copyFields, RunM.bind_of_ok (RunM.readHeap_apply _ _), keys,
    copyKeys_append, RunM.bind_of_ok copied]
  exact linksBetween.refusesCopy _ source later

end Link

/-- A class, and an object of no class with a field that has the key of the
link. -/
def imitatingSteps : List Step :=
  let form : ClassForm Expr := {
    blueprint := { name := some "Linked", scope := none, body := .empty }
    binding := .expression
    limits := .standard }
  let imitation : Expr := .apply (.storage (.variable "imitation")) []
  let write (key : String) : Expr :=
    .apply (.host .writeProperty)
      [imitation, .literal (.string key), .literal .null]
  [.evaluate (.klass form) none,
    .evaluate (.apply (.host .newObject) []) (some "imitation"),
    .evaluate (.sequence [write "own", write "constructor"]) none]

/-- An object that the host constructs keeps its link when the field is copied
to it. -/
theorem linksBack_of_constructed_imitatingSteps :
    let before := Program.endState
      (callUntil (fun _ => false) 0) Program.initialState imitatingSteps
    let call := enterFunction (callUntil (fun _ => false) 0) .none
    let now := RunM.lastState (construct call ⟨0⟩ [] 1 before)
    now.Constructed ⟨1⟩ ⟨0⟩ ∧ now.LinksBack ⟨1⟩ ⟨0⟩ ∧
      ∃ between,
        copyKeys (callUntil (fun _ => false) 0 .none) ⟨1⟩ ⟨0⟩
            [.ofText "own"] now = .ok () between ∧
          copyFields (callUntil (fun _ => false) 0 .none) ⟨1⟩
            (.object ⟨0⟩) now =
            .error (.fault (.readOnlyMember .constructor)) between := by
  intro before call now
  have held : before.heap.Holds (.klass ⟨0⟩) := by
    show 0 < Store.size _
    decide +kernel
  have below : 1 < (before.heap.klass ⟨0⟩).limits.callDepth := by decide +kernel
  have next : (before.heap.newObject (some ⟨0⟩)).1 = ⟨1⟩ := by decide +kernel
  have constructed : now.Constructed ⟨1⟩ ⟨0⟩ :=
    next ▸ State.constructed_construct _ 0 .none
    (Program.reaches_endState _ 0 imitatingSteps .refl) held .nil below
  have keys : (now.heap.object ⟨0⟩).fields.keys = [.ofText "own"] ++
      [.constructor] := by
    decide +kernel
  have endsWell :
      RunM.endsWell (copyKeys (callUntil (fun _ => false) 0 .none) ⟨1⟩ ⟨0⟩
        [.ofText "own"]) now = true := by decide +kernel
  obtain ⟨⟨⟩, between, copied⟩ := RunM.exists_of_endsWell endsWell
  obtain ⟨linksBack, copies, -⟩ := linksBack_of_constructed constructed
  exact ⟨constructed, linksBack, between, copied,
    (copies _ _ _ _ _ _ between keys copied).1⟩

end ClassLowering
