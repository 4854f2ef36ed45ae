import ClassLowering.Proofs.Elaboration.Keys
import ClassLowering.Proofs.InStep.Following

/-!
# Chains that faults come out of

A fault is raised somewhere inside a computation, and comes out at its end. In
between lies a chain of bodies that it leaves and of keys whose evaluation it
ends. A body hands it on as it is; the evaluation of keys wraps it with the
index of the key. Keys are evaluated in the order of the positions of their
members, so this is the index of the member among the sorted ones.

That a fault is raised within a computation says where this happens: in the
first part of a computation that is composed of two, or in the rest of it after
the first part has ended well, in a body that it enters or in a key that it
evaluates. Nothing is said about what comes out, and nothing after the place
where the fault is raised is looked at.
-/

namespace ClassLowering

/-- What a fault comes out of: a body that was entered, or the
evaluation of a key. -/
inductive FaultLink
  | body (entry : BodyEntry)
  | key (index : Nat)
  deriving DecidableEq

/-- The fault that comes out of a chain, outermost link first. Each key
wraps it once. -/
def carry : List FaultLink -> Failure -> Failure
  | [], cause => cause
  | .body _ :: inner, cause => carry inner cause
  | .key index :: inner, cause => .keyEvaluation index (carry inner cause)

/-- What is recorded while a fault comes out of a chain, newest first: the
bodies that it leaves. -/
def unwinding : List FaultLink -> Failure -> List BodyEvent
  | [], _ => []
  | .body _ :: inner, cause =>
      .left (some (.fault (carry inner cause))) :: unwinding inner cause
  | .key _ :: inner, cause => unwinding inner cause

/-- The state in which a fault has come out of a chain, if it was raised in
another state. -/
def State.unwound (state : State) (chain : List FaultLink)
    (cause : Failure) : State :=
  { state with record := unwinding chain cause ++ state.record }

/-- A computation comes to a place where it raises a fault, at the inner
end of a chain. -/
inductive Raises :
    {σ : Type} -> [Stage σ] -> {α : Type} -> EStateM Interruption σ α -> σ ->
      List FaultLink -> Failure -> State -> Prop
  | raise {σ : Type} [Stage σ] {α : Type} {run : EStateM Interruption σ α}
      {before : σ}
      {cause : Failure} :
      run before = .error (.fault cause) before -> cause.isWrapped = false ->
        Raises run before [] cause (Stage.state before)
  | bindFirst {σ : Type} [Stage σ] {α β : Type} {run : EStateM Interruption σ α}
      {next : α -> EStateM Interruption σ β} {before : σ}
      {chain : List FaultLink}
      {cause : Failure} {place : State} :
      Raises run before chain cause place ->
        Raises (run >>= next) before chain cause place
  | bindRest {σ : Type} [Stage σ] {α β : Type} {run : EStateM Interruption σ α}
      {next : α -> EStateM Interruption σ β} {before between : σ} {result : α}
      {chain : List FaultLink} {cause : Failure} {place : State} :
      run before = .ok result between ->
        Raises (next result) between chain cause place ->
        Raises (run >>= next) before chain cause place
  | lift {α : Type} {run : RunM α} {before : BodyState} {chain : List FaultLink}
      {cause : Failure} {place : State} :
      Raises run before.state chain cause place ->
        Raises (BodyM.lift run) before chain cause place
  | body {call : Caller} {context : Context} {entry : BodyEntry} {body : Expr}
      {before : State}
      {chain : List FaultLink} {cause : Failure} {place : State} :
      Raises (evaluate call context body)
        ⟨before.entering entry, ∅, .empty⟩ chain cause place ->
        Raises (runInFrame call context entry body) before
          (.body entry :: chain) cause place
  | key {call : Invoker} {scope : ScopeRef} {limits : Limits}
      {earlier later : List (MemberKey PropertyKey Expr)}
      {key : MemberKey PropertyKey Expr}
      {keys : List PropertyKey} {before between : State}
      {chain : List FaultLink}
      {cause : Failure} {place : State} :
      evaluateKeys call scope limits 0 earlier before = .ok keys between ->
        Raises (evaluateKey call scope limits key) between chain cause place ->
          Raises (evaluateKeys call scope limits 0 (earlier ++ key :: later))
            before (.key earlier.length :: chain) cause place

/-- Keys are evaluated up to the first one whose evaluation ends with a
fault. -/
theorem evaluateKeys_of_fault
    {call : Invoker}
    {scope : ScopeRef}
    {limits : Limits}
    {earlier later : List (MemberKey PropertyKey Expr)}
    {key : MemberKey PropertyKey Expr}
    {keys : List PropertyKey}
    {before between after : State}
    {cause : Failure}
    (index : Nat)
    (evaluated : evaluateKeys call scope limits index earlier before =
      .ok keys between)
    (failed : evaluateKey call scope limits key between =
      .error (.fault cause) after) :
    evaluateKeys call scope limits index (earlier ++ key :: later) before =
      .error (.fault (.keyEvaluation (index + earlier.length) cause))
        after := by
  induction earlier generalizing index before keys with
  | nil =>
      cases evaluated
      rw [List.nil_append, evaluateKeys_cons, failed]
      rfl
  | cons first rest hypothesis =>
      rw [evaluateKeys_cons] at evaluated
      rw [List.cons_append, evaluateKeys_cons]
      cases own : evaluateKey call scope limits first before with
      | error interruption after =>
          rw [own] at evaluated
          cases evaluated
      | ok value middle =>
          rw [own] at evaluated
          dsimp only at evaluated ⊢
          cases others :
            evaluateKeys call scope limits (index + 1) rest middle with
          | error interruption after =>
              rw [others] at evaluated
              cases evaluated
          | ok values last =>
              rw [others] at evaluated
              cases evaluated
              rw [hypothesis (index + 1) others, List.length_cons,
                Nat.add_assoc, Nat.add_comm 1]

/-- What comes out is what is raised, but for the wraps of keys, and
nothing else happens. -/
theorem Raises.ends
    {σ : Type}
    [Stage σ]
    {α : Type}
    {run : EStateM Interruption σ α}
    {before : σ}
    {chain : List FaultLink}
    {cause : Failure}
    {place : State}
    (raises : Raises run before chain cause place) :
    ∃ after, run before = .error (.fault (carry chain cause)) after ∧
      Stage.state after = place.unwound chain cause := by
  induction raises with
  | raise raised _ => exact ⟨_, raised, rfl⟩
  | bindFirst _ hypothesis =>
      obtain ⟨after, ended, same⟩ := hypothesis
      refine ⟨after, ?_, same⟩
      simp only [bind, EStateM.bind, ended]
  | bindRest first _ hypothesis =>
      obtain ⟨after, ended, same⟩ := hypothesis
      refine ⟨after, ?_, same⟩
      simp only [bind, EStateM.bind, first, ended]
  | lift _ hypothesis =>
      obtain ⟨after, ended, same⟩ := hypothesis
      exact ⟨_, BodyM.lift_of_error ended, same⟩
  | body _ hypothesis =>
      obtain ⟨after, ended, same⟩ := hypothesis
      refine ⟨_, runInFrame_of_error (BodyM.start_of_error ended), ?_⟩
      change State.leaving (Stage.state after) _ = _
      rw [same]
      rfl
  | key evaluated _ hypothesis =>
      obtain ⟨after, ended, same⟩ := hypothesis
      refine ⟨after, ?_, same⟩
      rw [evaluateKeys_of_fault 0 evaluated ended, Nat.zero_add]
      rfl

/-- What is raised is not wrapped yet. -/
theorem Raises.unwrapped
    {σ : Type}
    [Stage σ]
    {α : Type}
    {run : EStateM Interruption σ α}
    {before : σ}
    {chain : List FaultLink}
    {cause : Failure}
    {place : State}
    (raises : Raises run before chain cause place) :
    cause.isWrapped = false := by
  induction raises with
  | raise _ unwrapped => exact unwrapped
  | bindFirst _ hypothesis => exact hypothesis
  | bindRest _ _ hypothesis => exact hypothesis
  | lift _ hypothesis => exact hypothesis
  | body _ hypothesis => exact hypothesis
  | key _ _ hypothesis => exact hypothesis

end ClassLowering
