import ClassLowering.Proofs.Runs.Functions
import ClassLowering.Proofs.Runs.Nesting

/-!
# The course of a construction

A construction first makes an object. Then it goes through the fields of the
class in order: each gets its value, from its initializer if it has one, and
is defined before the next field has its turn. Then the constructor is
called. The first call that is interrupted ends the construction, with the
same interruption.

The course is told by the calls and the states between them, whoever runs the
bodies. Every construction that is not refused for its depth takes it.
-/

namespace ClassLowering

/-- What is asked for the initial value of a field: its initializer, with
the object alone. -/
def FieldDeclaration.invocation? (object : ObjectRef) (depth : Depth)
    (field : FieldDeclaration) :
    Option Invocation :=
  field.initializer?.map fun function => ⟨function, .object object, [], depth⟩

/-- What is asked of the constructor of a class. -/
def ClassCell.construction (cell : ClassCell) (object : ObjectRef)
    (args : List Value) (depth : Depth) : Invocation :=
  ⟨cell.constructor, .object object, args, depth⟩

/-- The state after an own field of an object is defined. -/
def State.defining (state : State) (object : ObjectRef) (key : PropertyKey)
    (value : Value) :
    State :=
  { state with heap := state.heap.defineField object key value }

/-- The initial value of a field is what its initializer yields, or
`undefined` without one. -/
inductive InitialValue (call : Invoker) :
    Option Invocation -> State -> Value -> State -> Prop
  | bare (state : State) : InitialValue call none state .undefined state
  | initialized {invocation : Invocation} {before after : State}
      {value : Value} :
      call invocation before = .ok value after ->
        InitialValue call (some invocation) before value after

/-- Fields get their values and are defined, one after another. -/
inductive DefinesFields (call : Invoker) (object : ObjectRef) (depth : Depth) :
    List FieldDeclaration -> State -> State -> Prop
  | nil (state : State) : DefinesFields call object depth [] state state
  | cons {field : FieldDeclaration} {rest : List FieldDeclaration}
      {before between after : State}
      {value : Value} :
      InitialValue call (field.invocation? object depth) before value between ->
        DefinesFields call object depth rest
          (between.defining object field.key value) after ->
          DefinesFields call object depth (field :: rest) before after

/-- The bodies of the initializers of fields, in order, when all of them end
well. -/
def initializerBodies (object : ObjectRef) (depth : Depth)
    (fields : List FieldDeclaration) :
    List (BodyEntry × Option Interruption) :=
  (fields.filterMap (·.invocation? object depth)).map fun invocation =>
    (invocation.entry, none)

/-- The bodies of the initializers of a list are those of its parts. -/
theorem initializerBodies_append
    (object : ObjectRef)
    (depth : Depth)
    (earlier later : List FieldDeclaration) :
    initializerBodies object depth (earlier ++ later) =
      initializerBodies object depth earlier ++
        initializerBodies object depth later := by
  simp [initializerBodies]

/--
The course of a construction from the state in which its object is made: the
bodies that are called, in order and with how they are left, and the result.
-/
inductive Constructs (call : Invoker) (object : ObjectRef) (cell : ClassCell)
    (args : List Value) (depth : Depth) (made : State) :
    List (BodyEntry × Option Interruption) ->
      EStateM.Result Interruption State Value -> Prop
  /-- The initializer of a field is interrupted, after all fields before
  it are defined. -/
  | stopsAtField {earlier later : List FieldDeclaration}
      {field : FieldDeclaration}
      {invocation : Invocation} {interruption : Interruption}
      {between after : State} :
      cell.fields = earlier ++ field :: later ->
        DefinesFields call object depth earlier made between ->
        field.invocation? object depth = some invocation ->
        call invocation between = .error interruption after ->
          Constructs call object cell args depth made
            (initializerBodies object depth earlier ++
              [(invocation.entry, some interruption)])
            (.error interruption after)
  /-- The constructor is interrupted, after all fields are defined. -/
  | stopsAtConstructor {interruption : Interruption} {between after : State} :
      DefinesFields call object depth cell.fields made between ->
        call (cell.construction object args depth) between =
          .error interruption after ->
          Constructs call object cell args depth made
            (initializerBodies object depth cell.fields ++
              [((cell.construction object args depth).entry,
                some interruption)])
            (.error interruption after)
  /-- The result is the object, unless the constructor yields a
  composite in its place. -/
  | finishes {between after : State} {result : Value} :
      DefinesFields call object depth cell.fields made between ->
        call (cell.construction object args depth) between = .ok result after ->
          Constructs call object cell args depth made
            (initializerBodies object depth cell.fields ++
              [((cell.construction object args depth).entry, none)])
            (.ok (if result.isComposite then result else .object object) after)

/-- How the fields of an object get defined: all of them, or up to one that
is interrupted. -/
inductive FieldsEnd (call : Invoker) (object : ObjectRef) (depth : Depth)
    (fields : List FieldDeclaration) (before : State) :
    EStateM.Result Interruption State Unit -> Prop
  | defined {after : State} :
      DefinesFields call object depth fields before after ->
        FieldsEnd call object depth fields before (.ok () after)
  | stopped {earlier later : List FieldDeclaration} {field : FieldDeclaration}
      {invocation : Invocation} {interruption : Interruption}
      {between after : State} :
      fields = earlier ++ field :: later ->
        DefinesFields call object depth earlier before between ->
        field.invocation? object depth = some invocation ->
        call invocation between = .error interruption after ->
          FieldsEnd call object depth fields before (.error interruption after)

section Course

variable {call : Invoker} {object : ObjectRef} {depth : Depth}

/-- A field that is defined first comes before the others. -/
theorem FieldsEnd.cons
    {field : FieldDeclaration}
    {rest : List FieldDeclaration}
    {before between : State}
    {value : Value}
    {ended : EStateM.Result Interruption State Unit}
    (first : InitialValue call (field.invocation? object depth) before
      value between)
    (others : FieldsEnd call object depth rest
      (between.defining object field.key value) ended) :
    FieldsEnd call object depth (field :: rest) before ended := by
  cases others with
  | defined defines => exact .defined (.cons first defines)
  | @stopped earlier later other invocation _ _ _ split defines asks fails =>
      subst split
      exact .stopped (List.cons_append (a := field)).symm
        (.cons first defines) asks fails

/-- Defining fields takes its course. -/
theorem fieldsEnd_defineFields
    (call : Invoker)
    (object : ObjectRef)
    (depth : Depth)
    (fields : List FieldDeclaration)
    (before : State) :
    FieldsEnd call object depth fields before
      (defineFields call object depth fields before) := by
  induction fields generalizing before with
  | nil => exact .defined (.nil before)
  | cons field rest hypothesis =>
      cases initial : field.initializer? with
      | none =>
          have bare :
              InitialValue call (field.invocation? object depth)
                before .undefined
              before := by
            rw [FieldDeclaration.invocation?, initial]
            exact .bare before
          have runs : defineFields call object depth (field :: rest) before =
              defineFields call object depth rest
                (before.defining object field.key .undefined) := by
            rw [defineFields, initial]
            rfl
          rw [runs]
          exact .cons bare (hypothesis _)
      | some function =>
          have asks : field.invocation? object depth =
              some ⟨function, .object object, [], depth⟩ := by
            rw [FieldDeclaration.invocation?, initial]
            rfl
          cases answered :
            call ⟨function, .object object, [], depth⟩ before with
          | error interruption after =>
              have runs :
                  defineFields call object depth (field :: rest) before =
                  .error interruption after := by
                rw [defineFields, initial]
                exact RunM.bind_of_error answered
              rw [runs]
              exact .stopped (List.nil_append _).symm
                (.nil before) asks answered
          | ok value between =>
              have runs :
                  defineFields call object depth (field :: rest) before =
                  defineFields call object depth rest
                    (between.defining object field.key value) := by
                rw [defineFields, initial]
                exact RunM.bind_of_ok answered
              rw [runs]
              exact .cons (asks ▸ .initialized answered) (hypothesis _)

/-- The initial value of a field is the same with whoever gives the same
answers. -/
theorem InitialValue.imp
    {other : Invoker}
    {invocation? : Option Invocation}
    {before after : State}
    {value : Value}
    (answers : ∀ {invocation : Invocation} {before after : State}
      {value : Value},
      call invocation before = .ok value after ->
        other invocation before = .ok value after)
    (starts : InitialValue call invocation? before value after) :
    InitialValue other invocation? before value after := by
  cases starts with
  | bare => exact .bare before
  | initialized answered => exact .initialized (answers answered)

/-- Fields are defined the same by whoever gives the same answers. -/
theorem DefinesFields.imp
    {other : Invoker}
    {fields : List FieldDeclaration}
    {before after : State}
    (answers : ∀ {invocation : Invocation} {before after : State}
      {value : Value},
      call invocation before = .ok value after ->
        other invocation before = .ok value after)
    (defines : DefinesFields call object depth fields before after) :
    DefinesFields other object depth fields before after := by
  induction defines with
  | nil state => exact .nil state
  | cons starts _ hypothesis => exact .cons (starts.imp answers) hypothesis

/-- Fields that are defined are what defining them ends with. -/
theorem DefinesFields.defineFields_eq
    {fields : List FieldDeclaration}
    {before after : State}
    (defines : DefinesFields call object depth fields before after) :
    defineFields call object depth fields before = .ok () after := by
  induction defines with
  | nil => rfl
  | @cons field rest before between after value starts _ hypothesis =>
      rw [defineFields]
      generalize asks : field.invocation? object depth = invocation? at starts
      cases initial : field.initializer? with
      | none =>
          rw [FieldDeclaration.invocation?, initial] at asks
          obtain rfl : none = invocation? := asks
          cases starts
          exact hypothesis
      | some function =>
          rw [FieldDeclaration.invocation?, initial] at asks
          obtain rfl : some ⟨function, .object object, [], depth⟩ =
            invocation? := asks
          cases starts with
          | initialized answered =>
              exact (RunM.bind_of_ok answered).trans hypothesis

/-- A construction that is not refused for its depth makes an object and
defines its fields. -/
theorem construct_of_shallow
    {klass : ClassRef}
    {before : State}
    (call : Invoker)
    (args : List Value)
    (shallow : ¬ (before.heap.klass klass).limits.callDepth < depth) :
    let cell := before.heap.klass klass
    let made := before.heap.newObject (some klass)
    construct call klass args depth before =
      (do
        defineFields call made.1 (depth + 1) cell.fields
        let result ← call (cell.construction made.1 args (depth + 1))
        return if result.isComposite then result
          else .object made.1 : RunM Value)
        { before with heap := made.2 } := by
  rw [construct, RunM.bind_of_ok (RunM.readHeap_apply _ _), if_neg shallow,
    RunM.bind_of_ok (RunM.allocate_apply _ _)]
  rfl

/-- A construction that is not refused for its depth takes its course. -/
theorem constructs_construct
    {klass : ClassRef}
    {before : State}
    (call : Invoker)
    (args : List Value)
    (shallow : ¬ (before.heap.klass klass).limits.callDepth < depth) :
    let made := before.heap.newObject (some klass)
    ∃ bodies, Constructs call made.1 (before.heap.klass klass) args (depth + 1)
      { before with heap := made.2 } bodies
      (construct call klass args depth before) := by
  intro made
  let cell := before.heap.klass klass
  rw [construct_of_shallow call args shallow]
  have fields := fieldsEnd_defineFields call made.1 (depth + 1) cell.fields
    { before with heap := made.2 }
  generalize ended : defineFields call made.1 (depth + 1) cell.fields
    { before with heap := made.2 } = result at fields
  cases fields with
  | stopped split defines asks fails =>
      rw [RunM.bind_of_error ended]
      exact ⟨_, .stopsAtField split defines asks fails⟩
  | @defined between defines =>
      rw [RunM.bind_of_ok ended]
      cases answered :
        call (cell.construction made.1 args (depth + 1)) between with
      | error interruption after =>
          rw [RunM.bind_of_error answered]
          exact ⟨_, .stopsAtConstructor defines answered⟩
      | ok value after =>
          rw [RunM.bind_of_ok answered]
          exact ⟨_, .finishes defines answered⟩

end Course

end ClassLowering
