import ClassLowering.Evaluation.Evaluator
import ClassLowering.Proofs.Heap.Steps

/-!
# Refused calls

A function that is called beyond its own limit is refused before anything
happens. A construction beyond the limit of a class is refused too, at the
latest when its first body would run. The object that it may have made by then
is known to nobody.
-/

namespace ClassLowering

/-- A function that is called beyond its limit faults and leaves the
state as it is. -/
theorem enterFunction_of_deep
    (call : Caller)
    (holding : Holding)
    {invocation : Invocation}
    {state : State}
    (deep : (state.heap.function invocation.function).limits.callDepth <
      invocation.depth) :
    enterFunction call holding invocation state =
      .error (.fault (.callDepthExceeded
        (state.heap.function invocation.function).limits.callDepth)) state := by
  rw [enterFunction, RunM.bind_of_ok (RunM.readHeap_apply _ _), if_pos deep]
  rfl

namespace Heap

/-- A heap has all cells of another one, and at most objects that the
other one lacks. -/
structure AddsObjects (old new : Heap) : Prop where
  scopes_eq : new.scopes = old.scopes
  functions_eq : new.functions = old.functions
  classes_eq : new.classes = old.classes
  generators_eq : new.generators = old.generators
  symbol_eq : new.nextSymbol = old.nextSymbol
  object_eq : ∀ ref, old.Holds (.object ref) -> new.object ref = old.object ref

/-- A field write to an object that a heap lacks changes none of its objects. -/
theorem AddsObjects.defineField
    {old new : Heap}
    {ref : ObjectRef}
    (adds : old.AddsObjects new)
    (unknown : ¬ old.Holds (.object ref))
    (key : PropertyKey)
    (value : Value) :
    old.AddsObjects (new.defineField ref key value) := by
  obtain ⟨scopes, functions, classes, generators, symbol, object⟩ := adds
  refine ⟨scopes, functions, classes, generators, symbol, fun other held => ?_⟩
  rcases new.object_defineField ref other key value with equal | ⟨rfl, -, -⟩
  · rw [equal]
    exact object other held
  · exact absurd held unknown

end Heap

/-- A run is refused for a limit: nothing is recorded, and nobody
notices what it did. -/
def RefusedFor {α : Type} (limit : Depth) (run : RunM α)
    (before : State) : Prop :=
  ∃ later, before.heap.AddsObjects later ∧
    run before = .error (.fault (.callDepthExceeded limit))
      { before with heap := later }

section Construction

variable {limit depth : Depth} {before : State}

/-- A construction whose bodies are refused is refused at its first initializer,
or gets through. -/
theorem defineFields_of_refusing
    {call : Invoker}
    {ref : ObjectRef}
    {fields : List FieldDeclaration}
    {heap : Heap}
    (refuses : ∀ (invocation : Invocation) (state : State),
      invocation.depth = depth ->
      (state.heap.function invocation.function).limits.callDepth = limit ->
        call invocation state = .error
          (.fault (.callDepthExceeded limit)) state)
    (initializers : ∀ field ∈ fields, ∀ initial ∈ field.initializer?,
      (before.heap.function initial).limits.callDepth = limit)
    (unknown : ¬ before.heap.Holds (.object ref))
    (adds : before.heap.AddsObjects heap) :
    ∃ later, before.heap.AddsObjects later ∧
      (defineFields call ref depth fields { before with heap := heap } =
          .ok () { before with heap := later } ∨
        defineFields call ref depth fields { before with heap := heap } =
          .error (.fault (.callDepthExceeded limit))
            { before with heap := later }) := by
  induction fields generalizing heap with
  | nil => exact ⟨heap, adds, .inl rfl⟩
  | cons field rest hypothesis =>
      rw [defineFields]
      cases initial : field.initializer? with
      | none =>
          obtain ⟨later, all, ends⟩ := hypothesis
            (fun other present => initializers other
              (List.mem_cons_of_mem _ present))
            (adds.defineField unknown field.key .undefined)
          exact ⟨later, all, ends⟩
      | some function =>
          have limits : (heap.function function).limits.callDepth = limit := by
            have own := initializers field List.mem_cons_self function initial
            rw [Heap.function] at own ⊢
            rw [adds.functions_eq]
            exact own
          refine ⟨heap, adds, .inr ?_⟩
          exact RunM.bind_of_error
            (refuses _ { before with heap := heap } rfl limits)

/-- A construction at a depth that the limit of the class does not
exceed is refused. -/
theorem construct_refused
    (call : Caller)
    (holding : Holding)
    {klass : ClassRef}
    (args : List Value)
    (sound : before.heap.Sound)
    (held : before.heap.Holds (.klass klass))
    (deep : (before.heap.klass klass).limits.callDepth ≤ depth)
    (shallow : (before.heap.klass klass).limits.callDepth < 4294967295) :
    RefusedFor (before.heap.klass klass).limits.callDepth
      (construct (enterFunction call holding) klass args depth) before := by
  let cell := before.heap.klass klass
  have soundCell : cell.Sound before.heap := sound.klass klass held
  by_cases deeper : cell.limits.callDepth < depth
  · refine ⟨before.heap, ⟨rfl, rfl, rfl, rfl, rfl, fun _ _ => rfl⟩, ?_⟩
    rw [construct, RunM.bind_of_ok (RunM.readHeap_apply _ _), if_pos deeper]
    rfl
  -- At the limit itself an object is made, but all bodies would run one level
  -- beyond.
  · have equal : depth = cell.limits.callDepth :=
      UInt32.le_antisymm (UInt32.not_lt.1 deeper) deep
    have beyond : cell.limits.callDepth < depth + 1 := by
      rw [UInt32.lt_iff_toNat_lt, equal, Depth.toNat_add_one shallow]
      exact Nat.lt_succ_self _
    have refuses : ∀ (invocation : Invocation) (state : State),
        invocation.depth = depth + 1 ->
        (state.heap.function invocation.function).limits.callDepth =
          cell.limits.callDepth -> enterFunction call holding invocation state =
            .error (.fault (.callDepthExceeded cell.limits.callDepth))
              state := by
      intro invocation state atDepth limits
      rw [← limits]
      refine enterFunction_of_deep call holding ?_
      rw [limits, atDepth]
      exact beyond
    let made := before.heap.newObject (some klass)
    have unknown : ¬ before.heap.Holds (.object made.1) := Nat.lt_irrefl _
    have adds : before.heap.AddsObjects made.2 :=
      ⟨rfl, rfl, rfl, rfl, rfl, fun _ known => Heap.object_newObject known⟩
    obtain ⟨later, all, ends⟩ := defineFields_of_refusing refuses
      (fun field declared initial present =>
        congrArg Limits.callDepth
          (soundCell.initializer field declared initial present).2)
      unknown adds
    refine ⟨later, all, ?_⟩
    rw [construct, RunM.bind_of_ok (RunM.readHeap_apply _ _), if_neg deeper,
      RunM.bind_of_ok (RunM.allocate_apply _ _)]
    rcases ends with through | refused
    · rw [RunM.bind_of_ok through]
      have limits : (later.function cell.constructor).limits.callDepth =
          cell.limits.callDepth := by
        have own := congrArg Limits.callDepth soundCell.constructor.2
        rw [Heap.function] at own ⊢
        rw [all.functions_eq]
        exact own
      exact RunM.bind_of_error
        (refuses _ { before with heap := later } rfl limits)
    · exact RunM.bind_of_error refused

end Construction

end ClassLowering
