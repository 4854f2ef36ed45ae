import ClassLowering.Proofs.Heap.Fields
import ClassLowering.Proofs.Objects.Construction
import ClassLowering.Proofs.Runs.Programs
import ClassLowering.Proofs.Runs.SingleBodies

/-!
# The protocol of constructions

While an object is constructed, the bodies of its class may do whatever they
like with it: write its fields early, let it leak, construct other objects. They
cannot take a field away from it or change its class. So the fields that are
declared before a field are there when its initializer starts, and all of them
are there when the constructor does.

The bodies that run are those of the course of the construction, each once and
in order, and whatever else runs is within one of them.
-/

namespace ClassLowering

/-- An object of a class in a sound state, as bodies of the class find it. -/
structure State.HasObject (state : State) (object : ObjectRef)
    (klass : ClassRef) : Prop where
  sound : state.Sound
  held : state.heap.Holds (.object object)
  linked : (state.heap.object object).klass = some klass

/-- A new object of a class is one in the state in which it is made. -/
theorem State.Sound.hasNewObject
    {state : State}
    {klass : ClassRef}
    (sound : state.Sound)
    (held : state.heap.Holds (.klass klass)) :
    let made := state.heap.newObject (some klass)
    State.HasObject { state with heap := made.2 } made.1 klass where
  sound := by
    have step :
        state.heap.Step (fun _ => True) (state.heap.newObject (some klass)).2 :=
      .object (some klass) (by simpa using held)
    exact sound.along (.single step)
  held := state.heap.holds_newObject _
  linked := congrArg ObjectCell.klass (state.heap.object_newObject_self _)

namespace State.HasObject

variable {state later : State} {object : ObjectRef} {klass : ClassRef}

/-- The class of an object is held. -/
theorem holds_klass
    (has : state.HasObject object klass) :
    state.heap.Holds (.klass klass) :=
  (has.sound.heap.object object).klass klass has.linked

/-- A move keeps an object and its class. -/
theorem moves
    (has : state.HasObject object klass)
    (moves : state.Moves (fun _ => True) later) :
    later.HasObject object klass where
  sound := moves.sound has.sound
  held := moves.path.extension.holds _ has.held
  linked := by
    rw [moves.path.extension.objectClass_eq object has.held, has.linked]

/-- A move keeps the class cell of an object. -/
theorem klass_eq (has : state.HasObject object klass)
    (moves : state.Moves (fun _ => True) later) :
    later.heap.klass klass = state.heap.klass klass :=
  moves.path.extension.klass_eq klass has.holds_klass

/-- Defining a declared field is a move. -/
theorem defining
    {field : FieldDeclaration}
    {value : Value}
    (has : state.HasObject object klass)
    (declared : field ∈ (state.heap.klass klass).fields)
    (known : value.Known state) :
    state.Moves (fun _ => True) (state.defining object field.key value) :=
  .of_path
    (.single (.define object klass field value has.linked declared known))

/-- A field that is defined has the value, and the others keep theirs. -/
theorem find?_defining
    (has : state.HasObject object klass)
    (key other : PropertyKey)
    (value : Value) :
    ((state.defining object key value).heap.object object).fields.find? other =
      if key == other then some value
        else (state.heap.object object).fields.find? other :=
  Heap.find?_defineField has.held key other value

/-- A field that is defined stays in its place, or comes last if it is new. -/
theorem keys_defining
    (has : state.HasObject object klass)
    (key : PropertyKey)
    (value : Value) :
    ((state.defining object key value).heap.object object).fields.keys =
      if key ∈ (state.heap.object object).fields
        then (state.heap.object object).fields.keys
      else (state.heap.object object).fields.keys ++ [key] :=
  Heap.keys_defineField has.held key value

end State.HasObject

section Bodies

variable {call : Caller} {holding : Holding} {object : ObjectRef}
  {klass : ClassRef}
variable {depth : Depth} {before after : State} {fields : List FieldDeclaration}

/-- A function of the class of an object that is called within its limit runs
its body once. -/
theorem State.HasObject.enterFunction_once
    {function : FunctionRef}
    {args : List Value}
    (serves : ∀ asked holding,
      (Progress.recording asked).Serves (Demand.asking asked) (call holding))
    (holding : Holding)
    (has : before.HasObject object klass)
    (own : function ∈ (before.heap.klass klass).functions)
    (shallow : depth ≤ (before.heap.klass klass).limits.callDepth)
    (argsWithin : AllWithin before.heap args) :
    BodyEntry.Ends ⟨function, .object object, args, depth⟩ before
      (enterFunction call holding ⟨function, .object object, args, depth⟩
        before) := by
  have cell := has.sound.heap.klass klass has.holds_klass
  have bounded := cell.holdsBounded own
  refine ClassLowering.enterFunction_once serves holding ?_ has.sound
    ⟨bounded.1, (Value.within_object object).2 has.held, argsWithin⟩
  rw [bounded.2]
  exact shallow

/-- The initializer of a declared field is one of the functions of the class. -/
theorem FieldDeclaration.function_of_invocation?
    {cell : ClassCell}
    {field : FieldDeclaration}
    {invocation : Invocation}
    (declared : field ∈ cell.fields)
    (asks : field.invocation? object depth = some invocation) :
    ∃ function ∈ cell.functions, invocation =
      ⟨function, .object object, [], depth⟩ := by
  obtain ⟨function, initial, rfl⟩ := Option.map_eq_some_iff.1 asks
  refine ⟨function, List.mem_cons_of_mem _ (List.mem_append_left _ ?_), rfl⟩
  exact List.mem_filterMap.2 ⟨field, declared, initial⟩

/-- The body of an initializer runs once for the initial value of its field, and
no other does. -/
theorem InitialValue.inTurn
    {field : FieldDeclaration}
    {value : Value}
    (serves : ∀ asked holding,
      (Progress.recording asked).Serves (Demand.asking asked) (call holding))
    (has : before.HasObject object klass)
    (declared : field ∈ (before.heap.klass klass).fields)
    (shallow : depth ≤ (before.heap.klass klass).limits.callDepth)
    (starts : InitialValue (enterFunction call holding)
      (field.invocation? object depth) before value after) :
    before.RunsInTurn (initializerBodies object depth [field]) after ∧
      value.Known after := by
  generalize asks : field.invocation? object depth = invocation? at starts
  cases starts with
  | bare =>
      rw [initializerBodies, List.filterMap_cons_none asks]
      exact ⟨.quiet (.refl before) rfl, Value.within_undefined⟩
  | initialized answered =>
      obtain ⟨function, own, rfl⟩ :=
        FieldDeclaration.function_of_invocation? declared asks
      have runs := has.enterFunction_once serves holding own shallow .nil
      rw [answered] at runs
      rw [initializerBodies, List.filterMap_cons_some asks]
      exact ⟨.once runs.1, runs.2⟩

/-- What is known when fields of a class have been defined, one after
another. -/
structure FieldsDefined (object : ObjectRef) (klass : ClassRef) (depth : Depth)
    (fields : List FieldDeclaration) (before after : State) : Prop where
  ran : before.RunsInTurn (initializerBodies object depth fields) after
  has : after.HasObject object klass
  present : ∀ field ∈ fields, field.key ∈ (after.heap.object object).fields

/-- Fields that are defined one after another are there in the end. -/
theorem DefinesFields.fieldsDefined
    (serves : ∀ asked holding,
      (Progress.recording asked).Serves (Demand.asking asked) (call holding))
    (has : before.HasObject object klass)
    (declared : fields ⊆ (before.heap.klass klass).fields)
    (shallow : depth ≤ (before.heap.klass klass).limits.callDepth)
    (defines : DefinesFields (enterFunction call holding) object depth fields
      before after) :
    FieldsDefined object klass depth fields before after := by
  induction defines with
  | nil state => exact ⟨.quiet (.refl state) rfl, has, nofun⟩
  | @cons field rest before between after value starts defines hypothesis =>
      have own : field ∈ (before.heap.klass klass).fields :=
        declared List.mem_cons_self
      obtain ⟨ran, known⟩ := starts.inTurn serves has own shallow
      have hasBetween := has.moves ran.moves
      have step :
          between.Moves (fun _ => True)
            (between.defining object field.key value) :=
        hasBetween.defining (by rwa [has.klass_eq ran.moves]) known
      have all := ran.trans (.quiet step rfl)
      have sameKlass := has.klass_eq all.moves
      obtain ⟨others, hasAfter, present⟩ := hypothesis (has.moves all.moves)
        (fun other inRest => by
          rw [sameKlass]; exact declared (List.mem_cons_of_mem _ inRest))
        (by rwa [sameKlass])
      refine ⟨?_, hasAfter, List.forall_mem_cons.2 ⟨?_, present⟩⟩
      · rw [← List.singleton_append, initializerBodies_append,
          ← List.append_nil (initializerBodies object depth [field])]
        exact all.trans others
      · exact others.moves.keepsFields.mem
          (Heap.mem_defineField hasBetween.held field.key value)

/-- The bodies that run in a construction are those of its course, in turn. -/
theorem Constructs.inTurn
    {args : List Value}
    {bodies : List (BodyEntry × Option Interruption)}
    {ended : EStateM.Result Interruption State Value}
    (serves : ∀ asked holding,
      (Progress.recording asked).Serves (Demand.asking asked) (call holding))
    (has : before.HasObject object klass)
    (shallow : depth ≤ (before.heap.klass klass).limits.callDepth)
    (argsWithin : AllWithin before.heap args)
    (constructs : Constructs (enterFunction call holding) object
      (before.heap.klass klass) args depth before bodies ended) :
    before.RunsInTurn bodies (RunM.lastState ended) := by
  -- The constructor is called in a state in which the class is what it was
  -- before.
  have constructor :
      ∀ between, FieldsDefined object klass depth
        (before.heap.klass klass).fields
      before between ->
        ((before.heap.klass klass).construction object args depth).entry.Ends
          between
          (enterFunction call holding
            ((before.heap.klass klass).construction object args depth)
            between) := by
    intro between defined
    have same := has.klass_eq defined.ran.moves
    refine defined.has.enterFunction_once serves holding ?_ (by rwa [same])
      (argsWithin.mono defined.ran.moves.path.extension)
    rw [same]
    exact List.mem_cons_self
  cases constructs with
  | @stopsAtField earlier later field invocation interruption between after
      split defines asks fails =>
      have inFields : field :: earlier ⊆ (before.heap.klass klass).fields := by
        rw [split, List.cons_subset]
        exact ⟨List.mem_append_right _ List.mem_cons_self,
          List.subset_append_left _ _⟩
      obtain ⟨ran, hasBetween, -⟩ := defines.fieldsDefined serves has
        (fun _ present => inFields (List.mem_cons_of_mem _ present)) shallow
      have same := has.klass_eq ran.moves
      obtain ⟨function, own, rfl⟩ :=
        FieldDeclaration.function_of_invocation?
          (inFields List.mem_cons_self) asks
      have runs := hasBetween.enterFunction_once serves holding (by rwa [same])
        (by rwa [same]) .nil
      rw [fails] at runs
      exact ran.trans (.once runs)
  | stopsAtConstructor defines fails =>
      have defined := defines.fieldsDefined serves has
        (List.Subset.refl _) shallow
      have runs := constructor _ defined
      rw [fails] at runs
      exact defined.ran.trans (.once runs)
  | finishes defines answers =>
      have defined := defines.fieldsDefined serves has
        (List.Subset.refl _) shallow
      have runs := constructor _ defined
      rw [answers] at runs
      exact defined.ran.trans (.once runs.1)

/-- A construction below the limit of its class takes its course, and runs its
bodies in turn. -/
theorem construct_inTurn
    {args : List Value}
    (serves : ∀ asked holding,
      (Progress.recording asked).Serves (Demand.asking asked) (call holding))
    (holding : Holding)
    (sound : before.Sound)
    (held : before.heap.Holds (.klass klass))
    (argsWithin : AllWithin before.heap args)
    (below : depth < (before.heap.klass klass).limits.callDepth) :
    let made := before.heap.newObject (some klass)
    let start : State := { before with heap := made.2 }
    let ended := construct (enterFunction call holding) klass args depth before
    ∃ bodies, Constructs (enterFunction call holding) made.1
      (before.heap.klass klass) args
      (depth + 1) start bodies ended ∧
      start.RunsInTurn bodies (RunM.lastState ended) := by
  intro made start ended
  have step : before.heap.Step (fun _ => True) made.2 :=
    .object (some klass) (by simpa using held)
  obtain ⟨bodies, constructs⟩ :=
    constructs_construct (enterFunction call holding) args
    (UInt32.not_lt.2 (UInt32.le_of_lt below))
  exact ⟨bodies, constructs, constructs.inTurn serves (sound.hasNewObject held)
    (Depth.add_one_le below) (argsWithin.mono step.extension)⟩

end Bodies

/-- What becomes of the fields of an object when one of them is defined
after some others. -/
structure DefinesField (object : ObjectRef) (field : FieldDeclaration)
    (earlier : List FieldDeclaration) (value : Value)
    (before after : State) : Prop where
  /-- The field has the value, whatever it had before, and no other
  field changes. -/
  find?_eq : ∀ key, (after.heap.object object).fields.find? key =
    if field.key == key then some value
      else (before.heap.object object).fields.find? key
  /-- A new field comes last. -/
  keys_eq : (after.heap.object object).fields.keys =
    if field.key ∈ (before.heap.object object).fields
      then (before.heap.object object).fields.keys
      else (before.heap.object object).fields.keys ++ [field.key]
  /-- A key that is declared more than once keeps its one place. -/
  again : ∀ other ∈ earlier, other.key == field.key ->
    (after.heap.object object).fields.keys =
      (before.heap.object object).fields.keys

/--
A construction makes an object and takes its course with it. Bodies run one
level below the construction, those of its course in turn and once each, and all
others within them.
-/
structure FollowsProtocol (call : Invoker) (object : ObjectRef)
    (klass : ClassRef) (args : List Value) (depth : Depth) (before made : State)
    (ended : EStateM.Result Interruption State Value) : Prop where
  /-- The object is none of those that exist. -/
  unknown : ¬ before.heap.Holds (.object object)
  /-- At first the object has its class and no fields. -/
  made_eq : made.heap.object object = ⟨some klass, ∅⟩
  /-- The bodies of the course, and nothing but them, are what is recorded. -/
  course : ∃ bodies events,
    Constructs call object (before.heap.klass klass) args depth made
      bodies ended ∧ (RunM.lastState ended).record = events ++ before.record ∧
        RanInTurn (RunM.lastState ended).heap bodies events
  /-- When some fields are defined, all of them are there, and the class is the
  same. -/
  ready : ∀ earlier later now, (before.heap.klass klass).fields =
    earlier ++ later -> DefinesFields call object depth earlier made now ->
      (now.heap.object object).klass = some klass ∧
        ∀ field ∈ earlier, field.key ∈ (now.heap.object object).fields
  /-- Each field is defined with its value right after its initializer. -/
  defines : ∀ earlier field later now value between,
    (before.heap.klass klass).fields = earlier ++ field :: later ->
      DefinesFields call object depth earlier made now ->
        InitialValue call (field.invocation? object depth) now value between ->
          DefinesField object field earlier value between
            (between.defining object field.key value)

/--
Every construction at a depth below the limit of its class follows the protocol:
its bodies run at the next depth, which is one more, the initializers before the
constructor and in order.
-/
theorem protocol_of_construct
    {before : State}
    {klass : ClassRef}
    {args : List Value}
    {depth : Depth}
    (stop : State -> Bool)
    (bound : Nat)
    (holding : Holding)
    (sound : before.Sound)
    (held : before.heap.Holds (.klass klass))
    (argsWithin : AllWithin before.heap args)
    (shallow : depth.toNat + 1 ≤
      (before.heap.klass klass).limits.callDepth.toNat) :
    let call := enterFunction (callUntil stop bound) holding
    let made := before.heap.newObject (some klass)
    (depth + 1).toNat = depth.toNat + 1 ∧
      FollowsProtocol call made.1 klass args (depth + 1) before
        { before with heap := made.2 }
        (construct call klass args depth before) := by
  intro call made
  have below : depth < (before.heap.klass klass).limits.callDepth :=
    UInt32.lt_iff_toNat_lt.2 shallow
  have has := sound.hasNewObject held
  have serves := serves_callUntil stop bound
  have defined : ∀ earlier later now,
      (before.heap.klass klass).fields = earlier ++ later ->
      DefinesFields call made.1 (depth + 1) earlier
        { before with heap := made.2 } now ->
        FieldsDefined made.1 klass (depth + 1) earlier
          { before with heap := made.2 } now := by
    intro earlier later now split defines
    refine defines.fieldsDefined serves has ?_ (Depth.add_one_le below)
    show earlier ⊆ (before.heap.klass klass).fields
    rw [split]
    exact List.subset_append_left _ _
  refine ⟨Depth.toNat_add_one below, Nat.lt_irrefl _,
    before.heap.object_newObject_self _, ?_, ?_, ?_⟩
  · obtain ⟨bodies, constructs, ran⟩ :=
      construct_inTurn serves holding sound held argsWithin below
    obtain ⟨events, recorded, inTurn⟩ := ran.recorded
    exact ⟨bodies, events, constructs, recorded, inTurn _ (.refl _)⟩
  · intro earlier later now split defines
    have known := defined earlier later now split defines
    exact ⟨known.has.linked, known.present⟩
  · intro earlier field later now value between split defines starts
    have known := defined earlier (field :: later) now split defines
    have same := known.ran.moves.path.extension.klass_eq klass has.holds_klass
    have own : field ∈ (now.heap.klass klass).fields := by
      rw [same]
      show field ∈ (before.heap.klass klass).fields
      rw [split]
      exact List.mem_append_right _ List.mem_cons_self
    obtain ⟨ran, -⟩ := starts.inTurn serves known.has own
      (same ▸ Depth.add_one_le below)
    have hasBetween := known.has.moves ran.moves
    refine ⟨fun key => hasBetween.find?_defining field.key key value,
      hasBetween.keys_defining field.key value, fun other present twice => ?_⟩
    have already := ran.moves.keepsFields.mem (known.present other present)
    rw [hasBetween.keys_defining,
      if_pos ((OrderedMap.mem_congr twice).1 already)]

/-- A class with a field that is declared twice, whose first initializer writes
a later field. -/
def earlySteps : List Step :=
  let write : Expr :=
    .apply (.frame .writeReceiver) [.literal (.string "late"), .literal .null]
  let form : ClassForm Expr := {
    blueprint := {
      name := some "Early"
      scope := none
      body := {
        members := [
          ⟨.field, .literal (.text "twice"), false, some write, [], 0⟩,
          ⟨.field, .literal (.text "late"), false, none, [], 1⟩,
          ⟨.field, .literal (.text "twice"), false,
            some (.literal .null), [], 2⟩]
        constructor := none } }
    binding := .expression
    limits := ⟨2, 0⟩ }
  [.evaluate (.klass form) none]

/-- At the last depth at which objects of the class can be constructed, the
protocol is followed. -/
theorem protocol_of_construct_earlySteps :
    let before := Program.endState
      (callUntil (fun _ => false) 0) Program.initialState earlySteps
    let call := enterFunction (callUntil (fun _ => false) 0) .none
    let made := before.heap.newObject (some ⟨0⟩)
    RunM.endsWell (construct call ⟨0⟩ [.null] 1) before = true ∧ before.Sound ∧
      before.heap.Holds (.klass ⟨0⟩) ∧ AllWithin before.heap [.null] ∧
        (1 : Depth).toNat + 1 ≤ (before.heap.klass ⟨0⟩).limits.callDepth.toNat ∧
          FollowsProtocol call made.1 ⟨0⟩ [.null] (1 + 1) before
            { before with heap := made.2 }
            (construct call ⟨0⟩ [.null] 1 before) := by
  intro before call made
  have endsWell : RunM.endsWell (construct call ⟨0⟩ [.null] 1) before =
    true := by decide +kernel
  have sound : before.Sound :=
    Program.sound_endState (fun _ => false) 0 earlySteps
      Program.sound_initialState
  have held : before.heap.Holds (.klass ⟨0⟩) := by
    show 0 < Store.size _
    decide +kernel
  have within : AllWithin before.heap [.null] :=
    AllWithin.cons_iff.2 ⟨Value.within_null, .nil⟩
  have shallow : (1 : Depth).toNat + 1 ≤
      (before.heap.klass ⟨0⟩).limits.callDepth.toNat := by
    decide +kernel
  exact ⟨endsWell, sound, held, within, shallow,
    (protocol_of_construct (fun _ => false) 0 .none sound held
      within shallow).2⟩

end ClassLowering
