import ClassLowering.Proofs.Depths.HostCalls
import ClassLowering.Proofs.Depths.Regress

/-!
# The deepest limit

With a limit at the deepest level, a method that calls itself is never refused.
Its bodies nest from the first depth to the deepest level, and the next one
runs at depth zero. So the bound on limits under which depths grow inwards
cannot be dropped.
-/

namespace ClassLowering

/-- The body of a function that calls itself. -/
def selfCall : Expr := .apply (.frame .call) [.apply (.frame .callee) []]

/-- The entries of bodies of one function that nest from the first depth
on, newest first. -/
def descent (function : FunctionRef) : Nat -> List BodyEntry
  | 0 => []
  | rounds + 1 =>
      ⟨function, .undefined, [], UInt32.ofNat rounds + 1⟩ ::
        descent function rounds

/-- A descent has as many entries as there are rounds. -/
theorem length_descent (function : FunctionRef) (rounds : Nat) :
    (descent function rounds).length = rounds := by
  induction rounds with
  | zero => rfl
  | succ rounds hypothesis => rw [descent, List.length_cons, hypothesis]

/-- A body that calls its own function stalls where the call does. -/
theorem start_selfCall
    {call : Caller}
    {frame : Frame}
    {holding : Holding}
    {before after : State}
    (stalls : ∀ held, call held
      ⟨frame.callee, .undefined, [], frame.depth + 1⟩ before =
      .error .stalled after) :
    BodyM.start (evaluate call ⟨some frame, holding⟩ selfCall) before =
      .error .stalled after := by
  obtain ⟨held, asks⟩ :
      ∃ held, evaluate call ⟨some frame, holding⟩ selfCall ⟨before, ∅, .empty⟩ =
      BodyM.lift (call held ⟨frame.callee, .undefined, [], frame.depth + 1⟩)
        ⟨before, ∅, .empty⟩ := ⟨_, rfl⟩
  exact BodyM.start_of_error (asks.trans (BodyM.lift_of_error (stalls held)))

/-- A class whose only method calls itself, with a limit at the deepest
level. -/
def selfCallingSteps : List Step :=
  let form : ClassForm Expr := {
    blueprint := {
      name := none
      scope := none
      body := {
        members :=
          [⟨.method, .literal (.text "again"), false, some selfCall, [], 0⟩]
        constructor := none } }
    binding := .expression
    limits := ⟨4294967295, 0⟩ }
  [.evaluate (.klass form) none]

/-- The state in which there is a method that calls itself. -/
def selfCallingState : State :=
  Program.endState (callWithin 0) Program.initialState selfCallingSteps

/-- The method is about to run one level deeper than it was entered the last
time. -/
def Descends (entries : List BodyEntry) (invocation : Invocation)
    (state : State) : Prop :=
  ∃ rounds, entries = descent ⟨0⟩ rounds ∧
    invocation = ⟨⟨0⟩, .undefined, [], UInt32.ofNat rounds + 1⟩ ∧
      state.heap = selfCallingState.heap

/-- With a limit at the deepest level, the method that calls itself
descends for good. -/
theorem regress_descends : Regress Descends := by
  rintro entries invocation before ⟨rounds, rfl, rfl, same⟩
  have home : (selfCallingState.heap.function ⟨0⟩).scope = some ⟨1⟩ := by
    decide +kernel
  have limit : (selfCallingState.heap.function ⟨0⟩).limits.callDepth =
      4294967295 := by
    decide +kernel
  let invocation : Invocation := ⟨⟨0⟩, .undefined, [], UInt32.ofNat rounds + 1⟩
  let between : State :=
    { before with record := .entered invocation.entry :: before.record }
  have shallow : invocation.depth ≤
      (before.heap.function invocation.function).limits.callDepth := by
    have bounded := invocation.depth.toNat_lt
    rw [same, limit, UInt32.le_iff_toNat_le]
    have deepest : (4294967295 : UInt32).toNat = 4294967295 := rfl
    omega
  have enters : enterScope (before.heap.function invocation.function) before =
      .ok ⟨1⟩ before := by
    rw [same, enterScope, home]
    rfl
  refine ⟨⟨⟨0⟩, .undefined, [], UInt32.ofNat rounds + 1 + 1⟩, between,
    Invocation.leadsTo_of_start shallow enters rfl ?_, rounds + 1,
    rfl, ?_, same⟩
  · intro call frame holding after callee _ depth _ stalls
    have cell : (before.heap.function invocation.function).body = selfCall := by
      rw [same]
      rfl
    rw [cell]
    refine start_selfCall fun held => ?_
    rw [callee, depth]
    exact stalls held
  · rw [UInt32.ofNat_add]
    rfl

/-- A host call of the method stalls while as many bodies are active as
there are rounds. -/
theorem run_selfCallingState (rounds : Nat) :
    let request : HostCall := .call ⟨0⟩ .undefined []
    let after := (request.run (callWithin rounds .none)).endState
      selfCallingState
    after.heap = selfCallingState.heap ∧
      ∃ newer older, after.record = newer ++ older ++ selfCallingState.record ∧
        active older = descent ⟨0⟩ rounds := by
  intro request after
  have now : Descends [] ⟨⟨0⟩, .undefined, [], 1⟩ selfCallingState :=
    ⟨0, rfl, rfl, rfl⟩
  obtain ⟨newer, next, between, long, ⟨deep, entered, -, same⟩,
      recorded, stalls⟩ :=
    regress_descends.stalls rounds now
  rw [List.append_nil] at entered
  have equal : deep = rounds := by rw [← long, entered, length_descent]
  have final : after = between.cutOff rounds :=
    RunM.endState_of_error (stalls .none)
  rw [final]
  refine ⟨same, List.replicate rounds (.left (some .stalled)),
    newer.map BodyEvent.entered, ?_, ?_⟩
  · rw [State.cutOff, recorded, List.append_assoc]
  · rw [active_entered, entered, equal]

/-- With enough rounds, the two innermost bodies are at the deepest level and
at depth zero. -/
theorem restarts_within
    {rounds : Nat}
    (enough : rounds = 4294967294 + 1 + 1) :
    let request : HostCall := .call ⟨0⟩ .undefined []
    let after := (request.run (callWithin rounds .none)).endState
      selfCallingState
    ∃ newer older inner outer rest,
      after.record = newer ++ older ++ selfCallingState.record ∧
        active older = inner :: outer :: rest ∧ (active older).length = rounds ∧
          (after.heap.function outer.function).body.keepsToFrame = true ∧
            outer.depth = 4294967295 ∧ inner.depth = 0 := by
  intro request after
  obtain ⟨sameHeap, newer, older, recorded, actives⟩ :=
    run_selfCallingState rounds
  have length := congrArg List.length actives
  rw [length_descent] at length
  have keeps : (after.heap.function ⟨0⟩).body.keepsToFrame = true := by
    rw [sameHeap]
    rfl
  rw [enough, descent, descent] at actives
  exact ⟨newer, older, _, _, _, recorded, actives, length,
    keeps, by decide, by decide⟩

/-- At the deepest level the count of depths starts again, with more bodies
active than allowed. -/
theorem depth_restarts :
    let request : HostCall := .call ⟨0⟩ .undefined []
    let after := (request.run (callWithin 4294967296 .none)).endState
      selfCallingState
    request.Within selfCallingState.heap ∧
      ∃ newer older inner outer rest,
        after.record = newer ++ older ++ selfCallingState.record ∧
          active older = inner :: outer :: rest ∧
            (active older).length = 4294967296 ∧
            (after.heap.function outer.function).body.keepsToFrame = true ∧
              outer.depth = 4294967295 ∧ inner.depth = 0 := by
  have held : selfCallingState.heap.Holds (.function ⟨0⟩) := by
    show 0 < selfCallingState.heap.functions.size
    decide +kernel
  exact ⟨⟨held, Value.within_undefined, .nil⟩, restarts_within (by decide)⟩

end ClassLowering
