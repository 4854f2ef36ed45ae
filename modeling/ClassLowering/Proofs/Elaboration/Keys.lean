import ClassLowering.Proofs.Heap.Accesses
import ClassLowering.Semantics.Elaboration

/-!
# Evaluation of keys

The keys of a class are evaluated by asking a caller for bodies of computed keys
and for conversions of their values. Everything asked for is a request; an
evaluation is told by its requests, the states in which they are made, and how
they are answered.

An evaluation depends on its caller by its requests alone, so there are no
others. It makes at most one request for the body of each computed key, in the
order of the members, and ends with the first request that fails.
-/

namespace ClassLowering

namespace Heap

/-- The function with which a value is converted to a key, if there is one. -/
def converter? (heap : Heap) : Value -> Option FunctionRef
  | .object ref =>
      if heap.hasConversion ref then
        match heap.readPlan ref toStringKey with
        | .value (.function function) => some function
        | _ => none
      else none
  | _ => none

/-- The key that a value stands for when nothing converts it. -/
def plainKey (heap : Heap) : Value -> PropertyKey
  | .symbol symbol => .ofSymbol symbol
  | .object _ => .ofText objectText
  | other => .ofText (heap.text other)

/-- The key that the result of a conversion stands for. Composites stand for
none. -/
def convertedKey (heap : Heap) : Value -> Except Failure PropertyKey
  | .symbol symbol => .ok (.ofSymbol symbol)
  | other =>
      if other.isComposite then .error (.type .notPrimitive)
        else .ok (.ofText (heap.text other))

/-- Only composites stand for no key. -/
theorem convertedKey_eq_error
    {heap : Heap}
    {result : Value}
    {cause : Failure}
    (refused : heap.convertedKey result = .error cause) :
    result.isComposite = true ∧ cause = .type .notPrimitive := by
  unfold convertedKey at refused
  split at refused
  · cases refused
  · split at refused
    next composite =>
      cases refused
      exact ⟨composite, rfl⟩
    next => cases refused

end Heap

/-- What a conversion results in is made a key without further ado. -/
theorem keyOfPrimitive_apply (result : Value) (state : State) :
    keyOfPrimitive result state =
      RunM.ofExcept (state.heap.convertedKey result) state := by
  unfold keyOfPrimitive Heap.convertedKey
  cases result <;> rfl

/-- A conversion is asked for once, one level below, and otherwise nothing
is. -/
theorem toKey_apply
    (call : Invoker)
    (value : Value)
    (depth : Depth)
    (state : State) :
    toKey call value depth state =
      match state.heap.converter? value with
      | none => .ok (state.heap.plainKey value) state
      | some function =>
          (call ⟨function, value, [], depth + 1⟩ >>= keyOfPrimitive) state := by
  cases value with
  | object ref =>
      have looks := RunM.readHeap_apply (·.hasConversion ref) state
      rw [toKey, keyOfObject, RunM.bind_of_ok looks]
      cases converts : state.heap.hasConversion ref with
      | false =>
          simp only [Heap.converter?, converts]
          rfl
      | true =>
          obtain ⟨found, plan⟩ := Heap.readPlan_of_hasConversion converts
          have reads : readObject call ref toStringKey depth state =
              .ok found state := by
            rw [readObject_apply, plan]
          rw [if_pos rfl, RunM.bind_of_ok reads]
          simp only [Heap.converter?, converts, plan, if_pos]
          cases found <;> rfl
  | _ => rfl

/-- What the evaluation of keys asks its caller for, and in which state. -/
inductive KeyRequest
  /-- The body of the computed key of a member. -/
  | body (index : Nat) (expr : Expr) (function : FunctionRef) (state : State)
  /-- The function that converts the value of such a body. -/
  | conversion (function : FunctionRef) (value : Value) (state : State)

namespace KeyRequest

/-- Bodies of keys run without receiver and arguments, and conversions one
level below them. -/
def invocation : KeyRequest -> Invocation
  | .body _ _ function _ => ⟨function, .undefined, [], 1⟩
  | .conversion function value _ => ⟨function, value, [], 2⟩

/-- The state in which a request is made. -/
def state : KeyRequest -> State
  | .body _ _ _ state => state
  | .conversion _ _ state => state

/-- The member and the body, if the request is for the body of a key. -/
def computed? : KeyRequest -> Option (Nat × Expr)
  | .body index expr _ _ => some (index, expr)
  | .conversion _ _ _ => none

/-- How a caller answers a request. -/
def answer (request : KeyRequest) (call : Invoker) :
    EStateM.Result Interruption State Value :=
  call request.invocation request.state

/-- The request for the body of a key. Its function is new in the state, and
nothing else is. -/
def forBody (scope : ScopeRef) (limits : Limits) (index : Nat) (expr : Expr)
    (before : State) :
    KeyRequest :=
  let made := before.heap.newFunction
    ⟨"", .computedKey, [], expr, some scope, limits⟩
  .body index expr made.1 { before with heap := made.2 }

end KeyRequest

/-- A fault in the key of a member carries the index of the member. -/
def Interruption.atKey (index : Nat) : Interruption -> Interruption
  | .fault cause => .fault (.keyEvaluation index cause)
  | .stalled => .stalled

section Evaluation

variable (call : Invoker) (scope : ScopeRef) (limits : Limits)

/-- How the key of a member is evaluated: what is asked for in order,
and how it ends. -/
inductive KeyEvaluates (index : Nat) : MemberKey PropertyKey Expr -> State ->
    List KeyRequest -> EStateM.Result Interruption State PropertyKey -> Prop
  | literal (key : PropertyKey) (before : State) :
      KeyEvaluates index (.literal key) before [] (.ok key before)
  | failing {expr : Expr} {before after : State} {interruption : Interruption} :
      (KeyRequest.forBody scope limits index expr before).answer call =
          .error interruption after ->
        KeyEvaluates index (.computed expr) before
          [.forBody scope limits index expr before] (.error interruption after)
  | plain {expr : Expr} {before after : State} {value : Value} :
      (KeyRequest.forBody scope limits index expr before).answer call =
        .ok value after -> after.heap.converter? value = none ->
          KeyEvaluates index (.computed expr) before
            [.forBody scope limits index expr before]
            (.ok (after.heap.plainKey value) after)
  | unconverted {expr : Expr} {before between after : State} {value : Value}
      {function : FunctionRef} {interruption : Interruption} :
      (KeyRequest.forBody scope limits index expr before).answer call =
        .ok value between -> between.heap.converter? value = some function ->
          (KeyRequest.conversion function value between).answer call =
              .error interruption after ->
            KeyEvaluates index (.computed expr) before
              [.forBody scope limits index expr before,
                .conversion function value between]
              (.error interruption after)
  | converted {expr : Expr} {before between after : State}
      {value result : Value}
      {function : FunctionRef} :
      (KeyRequest.forBody scope limits index expr before).answer call =
        .ok value between -> between.heap.converter? value = some function ->
          (KeyRequest.conversion function value between).answer call =
            .ok result after -> KeyEvaluates index (.computed expr) before
              [.forBody scope limits index expr before,
                .conversion function value between]
              (RunM.ofExcept (after.heap.convertedKey result) after)

/--
How keys are evaluated from the member with an index on: every key starts from
the state that the one before it left, and the first that fails is the last.
-/
inductive KeysEvaluate : Nat -> List (MemberKey PropertyKey Expr) -> State ->
    List KeyRequest ->
    EStateM.Result Interruption State (List PropertyKey) -> Prop
  | nil (index : Nat) (before : State) :
      KeysEvaluate index [] before [] (.ok [] before)
  | stop {index : Nat} {key : MemberKey PropertyKey Expr}
      {rest : List (MemberKey PropertyKey Expr)} {before after : State}
      {requests : List KeyRequest} {interruption : Interruption} :
      KeyEvaluates call scope limits index key before requests
        (.error interruption after) ->
        KeysEvaluate index (key :: rest) before requests
          (.error (interruption.atKey index) after)
  | stopLater {index : Nat} {key : MemberKey PropertyKey Expr}
      {rest : List (MemberKey PropertyKey Expr)} {before between after : State}
      {first : PropertyKey} {requests more : List KeyRequest}
      {interruption : Interruption} :
      KeyEvaluates call scope limits index key before requests
        (.ok first between) ->
        KeysEvaluate (index + 1) rest between more
          (.error interruption after) ->
          KeysEvaluate index (key :: rest) before (requests ++ more)
            (.error interruption after)
  | cons {index : Nat} {key : MemberKey PropertyKey Expr}
      {rest : List (MemberKey PropertyKey Expr)} {before between after : State}
      {first : PropertyKey} {others : List PropertyKey}
      {requests more : List KeyRequest} :
      KeyEvaluates call scope limits index key before requests
        (.ok first between) ->
        KeysEvaluate (index + 1) rest between more (.ok others after) ->
          KeysEvaluate index (key :: rest) before (requests ++ more)
            (.ok (first :: others) after)

end Evaluation

/-- What an elaboration asks for to evaluate the keys of a class, and how the
evaluation ends. -/
def ClassDraft.RequestsKeys (draft : ClassDraft) (call : Caller)
    (holding : Holding)
    (limits : Limits) (before : State) (requests : List KeyRequest)
    (ended : EStateM.Result Interruption State (List PropertyKey)) : Prop :=
  let opening := before.heap.openClassScope draft.scope draft.name
  KeysEvaluate (call (holding.holdScope opening.1)) opening.1 limits 0
    ((ClassBody.inOrder draft.body.members).map Member.key)
    { before with heap := opening.2 } requests ended

/-- The body of a computed key, with the index of its member. -/
def MemberKey.bodyAt? (index : Nat) :
    MemberKey PropertyKey Expr -> Option (Nat × Expr)
  | .literal _ => none
  | .computed expr => some (index, expr)

/-- The bodies of computed keys with the indices of their members, from an index
on. -/
def computedBodies (index : Nat)
    (keys : List (MemberKey PropertyKey Expr)) : List (Nat × Expr) :=
  (keys.zipIdx index).filterMap fun key => key.1.bodyAt? key.2

/-- The bodies of one key and of others are those of the one and those
of the others. -/
theorem computedBodies_cons
    (index : Nat)
    (key : MemberKey PropertyKey Expr)
    (rest : List (MemberKey PropertyKey Expr)) :
    computedBodies index (key :: rest) =
      (key.bodyAt? index).toList ++ computedBodies (index + 1) rest := by
  cases key <;> rfl

/-- The body of a computed key is asked for first, and then a conversion
if there is one. -/
theorem evaluateKey_computed
    (call : Invoker)
    (scope : ScopeRef)
    (limits : Limits)
    (index : Nat)
    (expr : Expr)
    (before : State) :
    evaluateKey call scope limits (.computed expr) before =
      match (KeyRequest.forBody scope limits index expr before).answer call with
      | .error interruption after => .error interruption after
      | .ok value between =>
          match between.heap.converter? value with
          | none => .ok (between.heap.plainKey value) between
          | some function =>
              match
                (KeyRequest.conversion function value between).answer call with
              | .error interruption after => .error interruption after
              | .ok result after =>
                  RunM.ofExcept (after.heap.convertedKey result) after := by
  rw [evaluateKey, RunM.bind_of_ok (RunM.allocate_apply _ _)]
  cases body :
    (KeyRequest.forBody scope limits index expr before).answer call with
  | error interruption after => exact RunM.bind_of_error body
  | ok value between =>
      refine (RunM.bind_of_ok body).trans ?_
      rw [toKey_apply]
      dsimp only
      cases between.heap.converter? value with
      | none => rfl
      | some function =>
          dsimp only
          cases conversion :
            (KeyRequest.conversion function value between).answer call with
          | error interruption after => exact RunM.bind_of_error conversion
          | ok result after =>
              exact (RunM.bind_of_ok conversion).trans
                (keyOfPrimitive_apply result after)

section Requests

variable {call : Invoker} {scope : ScopeRef} {limits : Limits}

/-- A key is evaluated by some requests. -/
theorem exists_keyEvaluates
    (call : Invoker)
    (scope : ScopeRef)
    (limits : Limits)
    (index : Nat)
    (key : MemberKey PropertyKey Expr)
    (before : State) :
    ∃ requests, KeyEvaluates call scope limits index key before requests
      (evaluateKey call scope limits key before) := by
  cases key with
  | literal key => exact ⟨[], .literal key before⟩
  | computed expr =>
      rw [evaluateKey_computed call scope limits index]
      cases body :
        (KeyRequest.forBody scope limits index expr before).answer call with
      | error interruption after => exact ⟨_, .failing body⟩
      | ok value between =>
          dsimp only
          cases converts : between.heap.converter? value with
          | none => exact ⟨_, .plain body converts⟩
          | some function =>
              dsimp only
              cases conversion :
                (KeyRequest.conversion function value between).answer call with
              | error interruption after =>
                  exact ⟨_, .unconverted body converts conversion⟩
              | ok result after =>
                  exact ⟨_, .converted body converts conversion⟩

/-- A caller that answers the same requests in the same way evaluates a key
to the same end. -/
theorem KeyEvaluates.ends
    {other : Invoker}
    {index : Nat}
    {key : MemberKey PropertyKey Expr}
    {before : State}
    {requests : List KeyRequest}
    {ended : EStateM.Result Interruption State PropertyKey}
    (evaluates : KeyEvaluates call scope limits index key before requests ended)
    (agrees : ∀ request ∈ requests,
      request.answer other = request.answer call) :
    evaluateKey other scope limits key before = ended := by
  cases evaluates with
  | literal => rfl
  | failing body =>
      rw [evaluateKey_computed other scope limits index,
        agrees _ (by simp), body]
  | plain body converts =>
      rw [evaluateKey_computed other scope limits index,
        agrees _ (by simp), body]
      dsimp only
      rw [converts]
  | unconverted body converts conversion =>
      rw [evaluateKey_computed other scope limits index,
        agrees _ (by simp), body]
      dsimp only
      rw [converts]
      dsimp only
      rw [agrees _ (by simp), conversion]
  | converted body converts conversion =>
      rw [evaluateKey_computed other scope limits index,
        agrees _ (by simp), body]
      dsimp only
      rw [converts]
      dsimp only
      rw [agrees _ (by simp), conversion]

/-- Keys are evaluated one after another, up to the first that fails. -/
theorem evaluateKeys_cons
    (call : Invoker)
    (scope : ScopeRef)
    (limits : Limits)
    (index : Nat)
    (key : MemberKey PropertyKey Expr)
    (rest : List (MemberKey PropertyKey Expr))
    (before : State) :
    evaluateKeys call scope limits index (key :: rest) before =
      match evaluateKey call scope limits key before with
      | .error interruption after => .error (interruption.atKey index) after
      | .ok first between =>
          match evaluateKeys call scope limits (index + 1) rest between with
          | .error interruption after => .error interruption after
          | .ok others after => .ok (first :: others) after := by
  rw [evaluateKeys]
  cases ended : evaluateKey call scope limits key before with
  | error interruption after =>
      refine RunM.bind_of_error ?_
      unfold RunM.mapFault
      rw [ended]
      cases interruption <;> rfl
  | ok first between =>
      have own :
          RunM.mapFault (.keyEvaluation index)
            (evaluateKey call scope limits key) before =
          .ok first between := by
        unfold RunM.mapFault
        rw [ended]
      rw [RunM.bind_of_ok own]
      dsimp only
      cases others :
        evaluateKeys call scope limits (index + 1) rest between with
      | error interruption after => exact RunM.bind_of_error others
      | ok keys after => exact RunM.bind_of_ok others

/-- Keys are evaluated by some requests. -/
theorem exists_keysEvaluate
    (call : Invoker)
    (scope : ScopeRef)
    (limits : Limits)
    (index : Nat)
    (keys : List (MemberKey PropertyKey Expr))
    (before : State) :
    ∃ requests, KeysEvaluate call scope limits index keys before requests
      (evaluateKeys call scope limits index keys before) := by
  induction keys generalizing index before with
  | nil => exact ⟨[], .nil index before⟩
  | cons key rest hypothesis =>
      obtain ⟨requests, evaluates⟩ :=
        exists_keyEvaluates call scope limits index key before
      rw [evaluateKeys_cons]
      cases ended : evaluateKey call scope limits key before with
      | error interruption after => exact ⟨requests, .stop (ended ▸ evaluates)⟩
      | ok first between =>
          rw [ended] at evaluates
          obtain ⟨more, evaluateMore⟩ := hypothesis (index + 1) between
          dsimp only
          cases others :
            evaluateKeys call scope limits (index + 1) rest between with
          | error interruption after =>
              exact ⟨requests ++ more, .stopLater evaluates
                (others ▸ evaluateMore)⟩
          | ok keys after =>
              exact ⟨requests ++ more, .cons evaluates (others ▸ evaluateMore)⟩

section Evaluated

variable {index : Nat} {keys : List (MemberKey PropertyKey Expr)}
  {before : State}
variable {requests : List KeyRequest}
variable {ended : EStateM.Result Interruption State (List PropertyKey)}

/-- A caller that answers the same requests in the same way evaluates keys
to the same end. -/
theorem KeysEvaluate.ends
    {other : Invoker}
    (evaluates : KeysEvaluate call scope limits index keys before
      requests ended)
    (agrees : ∀ request ∈ requests,
      request.answer other = request.answer call) :
    evaluateKeys other scope limits index keys before = ended := by
  induction evaluates with
  | nil => rfl
  | stop first => rw [evaluateKeys_cons, first.ends agrees]
  | stopLater first _ hypothesis =>
      rw [evaluateKeys_cons, first.ends fun request asked =>
        agrees request (List.mem_append_left _ asked)]
      dsimp only
      rw [hypothesis fun request asked =>
        agrees request (List.mem_append_right _ asked)]
  | cons first _ hypothesis =>
      rw [evaluateKeys_cons, first.ends fun request asked =>
        agrees request (List.mem_append_left _ asked)]
      dsimp only
      rw [hypothesis fun request asked =>
        agrees request (List.mem_append_right _ asked)]

/-- The body of a computed key is asked for once, and no body for a literal
key. -/
theorem KeyEvaluates.computed
    {key : MemberKey PropertyKey Expr}
    {ended : EStateM.Result Interruption State PropertyKey}
    (evaluates : KeyEvaluates call scope limits index key before
      requests ended) :
    requests.filterMap KeyRequest.computed? = (key.bodyAt? index).toList := by
  cases evaluates <;> rfl

/-- Bodies of computed keys are asked for in order, and each at most once. -/
theorem KeysEvaluate.computed_prefix
    (evaluates : KeysEvaluate call scope limits index keys before
      requests ended) :
    requests.filterMap KeyRequest.computed? <+: computedBodies index keys := by
  induction evaluates with
  | nil => exact List.prefix_rfl
  | stop first =>
      rw [first.computed, computedBodies_cons]
      exact List.prefix_append _ _
  | stopLater first _ hypothesis =>
      rw [List.filterMap_append, first.computed, computedBodies_cons]
      exact (List.prefix_append_right_inj _).2 hypothesis
  | cons first _ hypothesis =>
      rw [List.filterMap_append, first.computed, computedBodies_cons]
      exact (List.prefix_append_right_inj _).2 hypothesis

/-- When all keys are evaluated, each body was asked for exactly once. -/
theorem KeysEvaluate.computed_eq
    {evaluated : List PropertyKey}
    {after : State}
    (evaluates : KeysEvaluate call scope limits index keys before requests
      (.ok evaluated after)) :
    requests.filterMap KeyRequest.computed? = computedBodies index keys := by
  generalize same : EStateM.Result.ok evaluated after = ended at evaluates
  induction evaluates generalizing evaluated after with
  | nil => rfl
  | stop => cases same
  | stopLater => cases same
  | cons first _ hypothesis =>
      cases same
      rw [List.filterMap_append, first.computed, computedBodies_cons,
        hypothesis rfl]

/-- What the body or the conversion of a key fails with. -/
inductive KeyRequest.FailsWith (call : Invoker) (request : KeyRequest) :
    Interruption -> State -> Prop
  | interrupted {interruption : Interruption} {after : State} :
      request.answer call = .error interruption after ->
        FailsWith call request interruption after
  | composite {result : Value} {after : State} :
      request.computed? = none -> request.answer call = .ok result after ->
        result.isComposite = true ->
          FailsWith call request (.fault (.type .notPrimitive)) after

/-- The last request fails. It is the one for the last body, or for the
conversion of its value. -/
def FailsLast (call : Invoker) (requests : List KeyRequest) (index : Nat)
    (cause : Interruption) (after : State) : Prop :=
  (∃ expr, (requests.filterMap KeyRequest.computed?).getLast? =
    some (index, expr)) ∧
    ∃ last, requests.getLast? = some last ∧ last.FailsWith call cause after

/-- When a key is not evaluated, what was asked for last has failed. -/
theorem KeyEvaluates.failsLast
    {key : MemberKey PropertyKey Expr}
    {cause : Interruption}
    {after : State}
    (evaluates : KeyEvaluates call scope limits index key before requests
      (.error cause after)) :
    FailsLast call requests index cause after := by
  generalize same : EStateM.Result.error cause after = ended at evaluates
  cases evaluates with
  | literal => cases same
  | @failing expr _ _ _ body =>
      cases same
      exact ⟨⟨expr, rfl⟩, _, rfl, .interrupted body⟩
  | plain => cases same
  | @unconverted expr _ _ _ _ _ _ _ _ conversion =>
      cases same
      exact ⟨⟨expr, rfl⟩, _, rfl, .interrupted conversion⟩
  | @converted expr _ _ last value result function _ _ conversion =>
      cases refused : last.heap.convertedKey result with
      | ok key =>
          rw [refused] at same
          cases same
      | error fault =>
          rw [refused] at same
          cases same
          obtain ⟨composite, rfl⟩ := Heap.convertedKey_eq_error refused
          exact ⟨⟨expr, rfl⟩, _, rfl, .composite rfl conversion composite⟩

/-- Requests before those of which the last fails make no difference. -/
theorem FailsLast.append
    {more : List KeyRequest}
    {cause : Interruption}
    {after : State}
    (requests : List KeyRequest)
    (fails : FailsLast call more index cause after) :
    FailsLast call (requests ++ more) index cause after := by
  obtain ⟨⟨expr, body⟩, last, final, failsWith⟩ := fails
  refine ⟨⟨expr, ?_⟩, last, ?_, failsWith⟩
  · rw [List.filterMap_append, List.getLast?_append, body, Option.some_or]
  · rw [List.getLast?_append, final, Option.some_or]

/-- When not all keys are evaluated, the first failure is reported with the
index of its member. -/
theorem KeysEvaluate.failsLast
    {interruption : Interruption}
    {after : State}
    (evaluates : KeysEvaluate call scope limits index keys before requests
      (.error interruption after)) :
    ∃ failing cause, interruption = cause.atKey failing ∧
      FailsLast call requests failing cause after := by
  generalize same : EStateM.Result.error interruption after = ended at evaluates
  induction evaluates generalizing interruption after with
  | nil => cases same
  | stop first =>
      cases same
      exact ⟨_, _, rfl, first.failsLast⟩
  | stopLater _ _ hypothesis =>
      cases same
      obtain ⟨failing, cause, wrapped, fails⟩ := hypothesis rfl
      exact ⟨failing, cause, wrapped, fails.append _⟩
  | cons => cases same

end Evaluated

end Requests

end ClassLowering
