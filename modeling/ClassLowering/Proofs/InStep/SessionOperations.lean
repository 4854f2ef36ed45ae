import ClassLowering.Evaluation.SessionOperation
import ClassLowering.Proofs.Faults.Shown
import ClassLowering.Proofs.InStep.Properties

/-!
# Session operations in step

What is shown, logged and stored under names is the same in two runs in step.
Both find the same bindings, and a class exists in both or in neither.
-/

namespace ClassLowering

section Showing

variable {likeness : Likeness} {coupling : Coupling likeness} {given : Prop}

/-- Numbering a symbol. -/
theorem Coupling.InStep.numberSymbol (symbol : Symbol) :
    coupling.InStep given (RunM.stepSession (·.numberSymbol symbol))
      (RunM.stepSession (·.numberSymbol symbol)) (Agree fun _ => True) :=
  .stepSession (fun session => (session.numberSymbol_rest symbol).1)
    fun session => (session.numberSymbol_rest symbol).2

/-- Showing a composite. -/
theorem Coupling.InStep.showComposite (value : Value) :
    coupling.InStep given
      (do
        let number ← RunM.stepSession (·.numberComposite value)
        let (kind, name) ← RunM.readHeap (·.compositeLabel value)
        return Shown.composite number kind name)
      (do
        let number ← RunM.stepSession (·.numberComposite value)
        let (kind, name) ← RunM.readHeap (·.compositeLabel value)
        return Shown.composite number kind name) (Agree fun _ => True) := by
  refine .bind
    (.stepSession (fun session => (session.numberComposite_rest value).1)
      fun session => (session.numberComposite_rest value).2) fun number => ?_
  exact .bind (.readHeap' fun _ _ like => congrFun like.compositeLabel_eq value)
    fun _ => .pure fun _ => trivial

/-- Showing a value. -/
theorem inStep_showValue (value : Value) :
    coupling.InStep given (showValue value) (showValue value)
      (Agree fun _ => True) := by
  cases value with
  | symbol symbol =>
      exact .bind (.numberSymbol symbol) fun _ => .pure fun _ => trivial
  | object ref => exact .showComposite _
  | klass ref => exact .showComposite _
  | function ref => exact .showComposite _
  | generator ref => exact .showComposite _
  | _ => exact .pure fun _ => trivial

/-- Showing a key. -/
theorem inStep_showKey (key : PropertyKey) :
    coupling.InStep given (showKey key) (showKey key)
      (Agree fun _ => True) := by
  cases key with
  | ofText text => exact .pure fun _ => trivial
  | ofSymbol symbol =>
      exact .bind (.numberSymbol symbol) fun _ => .pure fun _ => trivial

/-- Showing a fault. -/
theorem inStep_showFault (cause : Failure) :
    coupling.InStep given (showFault cause) (showFault cause)
      (Agree fun _ => True) := by
  induction cause with
  | keyEvaluation index cause hypothesis =>
      exact .bind hypothesis fun _ => .pure fun _ => trivial
  | accessorMissing key side =>
      exact .bind (inStep_showKey key) fun _ => .pure fun _ => trivial
  | memberConflict key =>
      exact .bind (inStep_showKey key) fun _ => .pure fun _ => trivial
  | readOnlyMember key =>
      exact .bind (inStep_showKey key) fun _ => .pure fun _ => trivial
  | thrown value =>
      exact .bind (inStep_showValue value) fun _ => .pure fun _ => trivial
  | _ => exact .pure fun _ => trivial

/-- Adding an entry to the log. -/
theorem inStep_log (entry : LogEntry) :
    coupling.InStep given (RunM.log entry) (RunM.log entry)
      (Agree fun _ => True) :=
  .changeSession (fun _ => List.suffix_cons _ _) fun _ _ stored => stored

end Showing

section Operands

variable {likeness : Likeness} {coupling : Coupling likeness} {given : Prop}

/-- Finding the object that an operand refers to. -/
theorem inStep_asObject (value : Value) :
    coupling.InStep given (asObject value) (asObject value)
      (Agree fun _ => True) := by
  cases value with
  | object ref => exact .pure fun _ => trivial
  | _ => exact .failType _

/-- Finding the class that an operand refers to. -/
theorem inStep_asClass (value : Value) :
    coupling.InStep given (asClass value) (asClass value)
      (Agree fun _ => True) := by
  cases value with
  | klass ref => exact .pure fun _ => trivial
  | _ => exact .failType _

/-- Finding the function that an operand refers to. -/
theorem inStep_asFunction (value : Value) :
    coupling.InStep given (asFunction value) (asFunction value)
      (Agree fun ref => value = .function ref) := by
  cases value with
  | function ref => exact .pure fun _ => rfl
  | _ => exact .failType _

/-- Finding the generator that an operand refers to. -/
theorem inStep_asGenerator (value : Value) :
    coupling.InStep given (asGenerator value) (asGenerator value)
      (Agree fun _ => True) := by
  cases value with
  | generator ref => exact .pure fun _ => trivial
  | _ => exact .failType _

end Operands

section Names

variable {likeness : Likeness} {coupling : Coupling likeness} {given : Prop}

/-- Storing a symbol under a name. -/
theorem inStep_storeSymbol (name : String) (symbol : Symbol) :
    coupling.InStep given (storeSymbol name symbol) (storeSymbol name symbol)
      (Agree fun _ => True) :=
  .changeSession (fun _ => List.suffix_rfl) fun _ _ stored => stored

/-- Making a symbol and storing it under a name. -/
theorem Coupling.InStep.makeSymbol
    {α : Type}
    (name : String)
    (description : Option String) (result : Symbol -> α) :
    coupling.InStep given
      (do
        let symbol ← RunM.allocate (·.newSymbol description)
        storeSymbol name symbol
        return result symbol : RunM α)
      (do
        let symbol ← RunM.allocate (·.newSymbol description)
        storeSymbol name symbol
        return result symbol) (Agree fun _ => True) := by
  refine .bind
    (.allocate' (fun heap => ⟨heap.extends_newSymbol description, rfl⟩)
      fun _ _ _ like => like.newSymbol description)
    fun symbol => ?_
  exact .bind (inStep_storeSymbol name symbol) fun _ => .pure fun _ => trivial

/-- Finding the symbol with a name. -/
theorem inStep_symbolNamed (name : String) :
    coupling.InStep given (symbolNamed name) (symbolNamed name)
      (Agree fun _ => True) := by
  refine .bind .readSession' fun symbols => ?_
  cases symbols.find? name with
  | some symbol => exact .pure fun _ => trivial
  | none => exact .makeSymbol name (some name) id

/-- Finding the scope with a name. -/
theorem inStep_scopeNamed (name : String) :
    coupling.InStep given (scopeNamed name) (scopeNamed name)
      (Agree fun _ => True) := by
  refine .bind .readSession' fun scopes => ?_
  cases scopes.find? name with
  | some scope => exact .pure fun _ => trivial
  | none => exact .failType _

/-- Storing a scope under a name. -/
theorem inStep_storeScope (name : String) (scope : ScopeRef) :
    coupling.InStep given (storeScope name scope) (storeScope name scope)
      (Agree fun _ => True) :=
  .changeSession (fun _ => List.suffix_rfl) fun _ _ stored => stored

/-- Storing a scope as the last thing to do. -/
theorem Coupling.InStep.storing
    (name : String)
    (scope : ScopeRef)
    {value : Value} (plain : ∀ ref, value ≠ .function ref := by nofun) :
    coupling.InStep given
      (do
        storeScope name scope
        return value : RunM Value)
      (do
        storeScope name scope
        return value) (Agree likeness.visible) :=
  .bind (inStep_storeScope name scope) fun _ => .value plain

/-- Finding the scope at which an operation starts. -/
theorem inStep_siteScope (home : Option ScopeRef) (site : ScopeSite) :
    coupling.InStep given (siteScope home site) (siteScope home site)
      (Agree fun _ => True) := by
  cases site with
  | stored name => exact inStep_scopeNamed name
  | home =>
      cases home with
      | some scope => exact .pure fun _ => trivial
      | none => exact .failType _

/-- Giving up a class. -/
theorem inStep_releaseClass (holding : Holding) (name : String) :
    coupling.InStep given (releaseClass holding name)
      (releaseClass holding name) (Agree likeness.visible) := by
  refine .bind .readSession' fun values => ?_
  cases values.find? name with
  | none => exact .failType _
  | some value =>
      cases value with
      | klass klass =>
          refine .bind (.changeSession (fun _ => List.suffix_rfl)
            fun _ _ stored => ?_) fun _ => ?_
          · exact fun value present =>
              stored value (OrderedMap.mem_values_of_mem_values_erase present)
          · exact .look fun _ _ _ like => ⟨by rw [like.isAlive_eq],
              likeness.visible_of_not_function _ nofun⟩
      | _ => exact .failType _

end Names

section Bindings

variable {heap other : Heap} {scope : ScopeRef} {name : String}

/-- A name is never resolved to a fault that is wrapped. -/
theorem Heap.isWrapped_of_resolve
    {isAlive : ClassRef -> Bool}
    {cause : Failure}
    (faulty : heap.resolve isAlive scope name = .error cause) :
    cause.isWrapped = false := by
  unfold resolve readBinding at faulty
  split at faulty
  · split at faulty
    · cases faulty
    · cases faulty
      rfl
    · split at faulty
      · cases faulty
      · cases faulty
        rfl
  · cases faulty
    rfl

/-- A name is assigned without making a function, or not for a fault that
is not wrapped. -/
theorem Heap.assign_rest
    (heap : Heap)
    (scope : ScopeRef)
    (name : String)
    (value : Value) :
    match heap.assign scope name value with
    | .ok later => heap.Quiet later
    | .error cause => cause.isWrapped = false := by
  unfold assign
  cases heap.nearestBinding? scope name with
  | none => rfl
  | some found =>
      dsimp only
      split
      next later assigned =>
        split at assigned
        · cases assigned
        · split at assigned
          · cases assigned
            exact ⟨heap.extends_bind _ name _, rfl⟩
          · cases assigned
      next cause failed =>
        split at failed
        · cases failed
          rfl
        · split at failed
          · cases failed
          · cases failed
            rfl

/-- Nothing is shown of a name but what may be shown. -/
theorem Heap.Shows.resolve
    {likeness : Likeness}
    {isAlive : ClassRef -> Bool}
    {value : Value}
    (shows : heap.Shows likeness.visible)
    (found : heap.resolve isAlive scope name = .ok value) :
    likeness.visible value := by
  unfold Heap.resolve at found
  split at found
  next owner binding nearest =>
    obtain ⟨ref, -, own⟩ := List.exists_of_findSome?_eq_some nearest
    obtain ⟨bound, bindings, same⟩ := Option.map_eq_some_iff.1 own
    obtain ⟨rfl, rfl⟩ := Prod.mk.inj same
    unfold readBinding at found
    split at found
    next held slot =>
      cases found
      exact shows.scope ref bound
        (OrderedMap.mem_values_of_find? bindings) value slot
    next => cases found
    next klass slot =>
      split at found
      · cases found
        exact likeness.visible_of_not_function _ nofun
      · cases found
  next => cases found

end Bindings

section Operations

variable {likeness : Likeness} {coupling : Coupling likeness} {given : Prop}

/-- Reading a name. -/
theorem inStep_resolve (holding : Holding) (scope : ScopeRef) (name : String) :
    coupling.InStep given
      (do
        let state ← get
        RunM.ofExcept (state.heap.resolve (state.isAlive holding) scope name) :
          RunM Value)
      (do
        let state ← get
        RunM.ofExcept (state.heap.resolve (state.isAlive holding) scope name))
      (Agree likeness.visible) := by
  have ends (state : State) :
      (do
        let state ← get
        RunM.ofExcept (state.heap.resolve (state.isAlive holding) scope name) :
          RunM Value) state =
        match state.heap.resolve (state.isAlive holding) scope name with
        | .ok value => .ok value state
        | .error cause => .error (.fault cause) state := by
    show RunM.ofExcept
      (state.heap.resolve (state.isAlive holding) scope name) state = _
    cases state.heap.resolve (state.isAlive holding) scope name <;> rfl
  refine coupling.settled ⟨fun before => ?_, fun before further _ like => ?_⟩
  · rw [ends]
    cases before.heap.resolve (before.isAlive holding) scope name <;>
      exact .refl _
  · rw [ends, ends, State.Like.isAlive_eq like, like.heap.resolve_eq]
    cases found : before.heap.resolve (before.isAlive holding) scope name with
    | ok value => exact .ok ⟨rfl, like.heap.shows.resolve found⟩ like
    | error cause => exact .fault (Heap.isWrapped_of_resolve found)

/-- Giving a name another value. -/
theorem inStep_assign
    {value : Value}
    (scope : ScopeRef)
    (name : String)
    (seen : given -> likeness.visible value) :
    coupling.InStep given
      (do
        let heap ← RunM.ofExcept ((← RunM.readHeap id).assign scope name value)
        RunM.changeHeap fun _ => heap
        return .undefined : RunM Value)
      (do
        let heap ← RunM.ofExcept ((← RunM.readHeap id).assign scope name value)
        RunM.changeHeap fun _ => heap
        return .undefined) (Agree likeness.visible) := by
  have ends (state : State) :
      (do
        let heap ← RunM.ofExcept ((← RunM.readHeap id).assign scope name value)
        RunM.changeHeap fun _ => heap
        return .undefined : RunM Value) state =
        match state.heap.assign scope name value with
        | .ok heap => .ok .undefined { state with heap := heap }
        | .error cause => .error (.fault cause) state := by
    rw [RunM.bind_of_ok (RunM.readHeap_apply id state), id]
    cases state.heap.assign scope name value <;> rfl
  refine coupling.settled
    ⟨fun before => ?_, fun before further facts like => ?_⟩
  · rw [ends]
    have rest := before.heap.assign_rest scope name value
    cases assigned : before.heap.assign scope name value with
    | ok heap =>
        rw [assigned] at rest
        exact .of_heap rest
    | error cause => exact .refl _
  · rw [ends, ends]
    have assigns := like.heap.assign scope name (seen facts)
    have rest := before.heap.assign_rest scope name value
    cases assigned : before.heap.assign scope name value with
    | ok heap =>
        rw [assigned] at assigns
        obtain ⟨later, same, alike⟩ := assigns
        rw [same]
        exact .ok ⟨rfl, likeness.visible_undefined⟩
          ⟨alike, like.session, like.record, like.stored⟩
    | error cause =>
        rw [assigned] at assigns rest
        rw [assigns]
        exact .fault rest

/-- Operations on scopes and bindings. -/
theorem inStep_performScope
    {operands : List Value}
    (holding : Holding)
    (home : Option ScopeRef)
    (operation : ScopeOperation)
    (seen : given -> likeness.AllVisible operands) :
    coupling.InStep given (performScope holding home operation operands)
      (performScope holding home operation operands)
      (Agree likeness.visible) := by
  have first (facts : given) : likeness.visible (operand operands 0) :=
    (seen facts).getD 0
  cases operation with
  | newRoot store =>
      exact .bind (.allocate' (fun heap => ⟨heap.extends_newScope none, rfl⟩)
        fun _ _ _ like => like.newScope none)
        fun scope => .storing store scope
  | newChild store parent =>
      refine .bind (inStep_scopeNamed parent) fun outer => ?_
      exact .bind
        (.allocate' (fun heap => ⟨heap.extends_newScope (some outer), rfl⟩)
          fun _ _ _ like => like.newScope (some outer))
        fun scope => .storing store scope
  | storeHome store =>
      exact .bind (inStep_siteScope home .home) fun scope =>
        .storing store scope
  | storeClassScope store =>
      exact .bind (inStep_asClass _) fun klass => .readKlass_bind fun cell _ =>
        .storing store cell.scope
  | storeParent store child =>
      refine .bind (inStep_scopeNamed child) fun scope => ?_
      refine .bind (.readHeap' fun _ _ like =>
        congrFun like.parentScope?_eq scope) fun parent? => ?_
      cases parent? with
      | some parent => exact .storing store parent
      | none => exact .value
  | same left right =>
      exact .bind (inStep_scopeNamed left) fun _ =>
        .bind (inStep_scopeNamed right) fun _ => .value
  | declare site name =>
      refine .bind (inStep_siteScope home site) fun scope => ?_
      refine .bind
        (.changeHeap (fun heap => ⟨heap.extends_bind scope name _, rfl⟩)
          fun facts _ _ like => ?_) fun _ => .value
      exact like.bind scope name fun value held => by
        cases held; exact first facts.1
  | declareConst site name =>
      refine .bind (inStep_siteScope home site) fun scope => ?_
      refine .bind
        (.changeHeap (fun heap => ⟨heap.extends_bind scope name _, rfl⟩)
          fun facts _ _ like => ?_) fun _ => .value
      exact like.bind scope name fun value held => by
        cases held; exact first facts.1
  | assign site name =>
      exact .bind (inStep_siteScope home site) fun scope =>
        inStep_assign scope name fun facts => first facts.1
  | resolve site name =>
      exact .bind (inStep_siteScope home site) fun scope =>
        inStep_resolve holding scope name
  | hasOwn site name =>
      refine .bind (inStep_siteScope home site) fun scope => ?_
      exact .bind (.readHeap' fun _ _ like =>
        congrFun₂ like.hasOwnBinding_eq scope name) fun _ => .value
  | isBound site name =>
      refine .bind (inStep_siteScope home site) fun scope => ?_
      exact .bind (.readHeap' fun _ _ like =>
        congrFun₂ like.isBound_eq scope name) fun _ => .value

end Operations

end ClassLowering
