import ClassLowering.Proofs.Elaboration.Keys
import ClassLowering.Proofs.InStep.Stopped

/-!
# Entries of keys

The body of a computed key is entered when an elaboration asks for it: the keys
of the members before it are evaluated, and its function is new. An elaboration
that gets that far asks for the body, whatever becomes of it then.
-/

namespace ClassLowering

/-- A body is entered in a state because an elaboration of a class asks for it
there. -/
inductive EvaluatesKey (entry : BodyEntry) (between : State) : Prop
  | of {bound : Nat} {holding : Holding} {limits : Limits} {draft : ClassDraft}
      {before : State}
      {requests : List KeyRequest}
      {ended : EStateM.Result Interruption State (List PropertyKey)}
      {index : Nat} {expr : Expr} {function : FunctionRef} :
      draft.RequestsKeys (callWithin bound) holding limits before
        requests ended -> .body index expr function between ∈ requests ->
          Program.initialState.Reaches between ->
            entry = ⟨function, .undefined, [], 1⟩ ->
              EvaluatesKey entry between

section Requests

variable {call : Invoker} {scope : ScopeRef} {limits : Limits}

/-- The body of a computed key is asked for first. -/
theorem KeyEvaluates.mem_forBody
    {index : Nat}
    {expr : Expr}
    {before : State}
    {requests : List KeyRequest}
    {ended : EStateM.Result Interruption State PropertyKey}
    (evaluates : KeyEvaluates call scope limits index
      (.computed expr) before requests ended) :
    KeyRequest.forBody scope limits index expr before ∈ requests := by
  cases evaluates <;> exact List.mem_cons_self

/-- Where the keys before it are evaluated, the body of a computed key is asked
for. -/
theorem KeysEvaluate.mem_forBody
    {start : Nat}
    {written : List (MemberKey PropertyKey Expr)}
    {before : State}
    {requests : List KeyRequest}
    {ended : EStateM.Result Interruption State (List PropertyKey)}
    (evaluates : KeysEvaluate call scope limits start written before
      requests ended)
    {index : Nat}
    {expr : Expr}
    {keys : List PropertyKey}
    {middle : State}
    (isWritten : written[index]? = some (.computed expr))
    (evaluated : evaluateKeys call scope limits start
      (written.take index) before = .ok keys middle) :
    KeyRequest.forBody scope limits (start + index) expr middle ∈ requests := by
  induction evaluates generalizing index keys with
  | nil => exact nomatch isWritten
  | stop first =>
      cases index with
      | zero =>
          cases isWritten
          cases evaluated
          exact first.mem_forBody
      | succ index =>
          rw [List.take_succ_cons, evaluateKeys_cons, first.ends fun _ _ =>
            rfl] at evaluated
          exact nomatch evaluated
  | stopLater first _ hypothesis | cons first _ hypothesis =>
      cases index with
      | zero =>
          cases isWritten
          cases evaluated
          exact List.mem_append_left _ first.mem_forBody
      | succ index =>
          rw [List.take_succ_cons, evaluateKeys_cons, first.ends fun _ _ =>
            rfl] at evaluated
          dsimp only at evaluated
          split at evaluated
          · exact nomatch evaluated
          next others last further =>
            cases evaluated
            have asked := hypothesis isWritten further
            rw [Nat.add_right_comm, Nat.add_assoc] at asked
            exact List.mem_append_right _ asked

/-- The function whose body is asked for, in the state in which this happens. -/
theorem KeyEvaluates.function_eq
    {index place : Nat}
    {key : MemberKey PropertyKey Expr}
    {expr : Expr}
    {function : FunctionRef}
    {before state : State}
    {requests : List KeyRequest}
    {ended : EStateM.Result Interruption State PropertyKey}
    (evaluates : KeyEvaluates call scope limits index key before requests ended)
    (asked : .body place expr function state ∈ requests) :
    state.heap.function function =
      ⟨"", .computedKey, [], expr, some scope, limits⟩ := by
  have first {written : Expr}
      (same : .body place expr function state =
        KeyRequest.forBody scope limits index written before) :
      state.heap.function function =
        ⟨"", .computedKey, [], expr, some scope, limits⟩ := by
    cases same
    exact before.heap.function_newFunction_self _
  cases evaluates with
  | literal => exact absurd asked List.not_mem_nil
  | failing _ | plain _ _ => exact first (List.mem_singleton.1 asked)
  | unconverted _ _ _ | converted _ _ _ =>
      rcases List.mem_cons.1 asked with same | converts
      · exact first same
      · exact nomatch List.mem_singleton.1 converts

/-- The function whose body is asked for has the class scope as its home. -/
theorem KeysEvaluate.function_eq
    {start place : Nat}
    {written : List (MemberKey PropertyKey Expr)}
    {expr : Expr}
    {function : FunctionRef}
    {before state : State}
    {requests : List KeyRequest}
    {ended : EStateM.Result Interruption State (List PropertyKey)}
    (evaluates : KeysEvaluate call scope limits start written before
      requests ended)
    (asked : .body place expr function state ∈ requests) :
    state.heap.function function =
      ⟨"", .computedKey, [], expr, some scope, limits⟩ := by
  induction evaluates with
  | nil => exact absurd asked List.not_mem_nil
  | stop first => exact first.function_eq asked
  | stopLater first _ hypothesis | cons first _ hypothesis =>
      rcases List.mem_append.1 asked with own | further
      · exact first.function_eq own
      · exact hypothesis further

/-- One more key is evaluated after others. -/
theorem evaluateKeys_concat
    {start : Nat}
    {done : List (MemberKey PropertyKey Expr)}
    {key : MemberKey PropertyKey Expr}
    {before between after : State}
    {keys : List PropertyKey}
    {last : PropertyKey}
    (evaluated : evaluateKeys call scope limits start done before =
      .ok keys between)
    (next : evaluateKey call scope limits key between = .ok last after) :
    evaluateKeys call scope limits start (done ++ [key]) before =
      .ok (keys ++ [last]) after := by
  induction done generalizing start before keys with
  | nil =>
      cases evaluated
      rw [List.nil_append, evaluateKeys_cons, next]
      rfl
  | cons first rest hypothesis =>
      rw [evaluateKeys_cons] at evaluated
      rw [List.cons_append, evaluateKeys_cons]
      split at evaluated
      · exact nomatch evaluated
      next isFirst =>
        split at evaluated
        · exact nomatch evaluated
        next others =>
          cases evaluated
          rw [hypothesis others]
          rfl

end Requests

/-- Keys that are evaluated without a stop on the way are evaluated so without
the condition. -/
theorem evaluateKeys_of_callUntil
    {stop : State -> Bool}
    {bound : Nat}
    {holding : Holding}
    {scope : ScopeRef}
    {limits : Limits}
    {index : Nat}
    {written : List (MemberKey PropertyKey Expr)}
    {before after : State}
    {keys : List PropertyKey}
    (ended : evaluateKeys (callUntil stop bound holding) scope limits index
      written before = .ok keys after) :
    evaluateKeys (callWithin bound holding) scope limits index written before =
      .ok keys after := by
  have calls := ((Stopped.hosts_callUntil stop bound).serves holding).calls
  have evaluates : Stopped.InStep stop True
      (evaluateKeys (callUntil stop bound holding) scope limits index written)
      (evaluateKeys (callWithin bound holding) scope limits index written) _ :=
    Stopped.InStep.keys index (List.forall₂_same.2 fun key _ =>
      inStep_evaluateKey (fun _ _ => trivial) calls scope (fun _ => rfl)
        fun _ => .refl key)
  have ends := evaluates before before trivial (.identical before)
  rw [ended] at ends
  generalize evaluateKeys (callWithin bound holding) scope limits index written
    before = final at ends
  cases ends with
  | ok like claimed => rw [State.Like.eq like, claimed.1]

/-- All keys before the one of a member are evaluated, and it is a computed
one. -/
structure ReachesKey (call : Caller) (holding : Holding) (limits : Limits)
    (draft : ClassDraft)
    (before : State) (index : Nat) (expr : Expr) (middle : State) : Prop where
  isWritten : ((ClassBody.inOrder draft.body.members).map Member.key)[index]? =
    some (.computed expr)
  evaluated :
    let opening := before.heap.openClassScope draft.scope draft.name
    ∃ keys, evaluateKeys (call (holding.holdScope opening.1)) opening.1 limits 0
      (((ClassBody.inOrder draft.body.members).map Member.key).take index)
      { before with heap := opening.2 } = .ok keys middle

/-- An elaboration that reaches the key of a member asks for its body. -/
theorem ReachesKey.evaluatesKey
    {stop : State -> Bool}
    {bound : Nat}
    {holding : Holding}
    {limits : Limits}
    {draft : ClassDraft}
    {before : State}
    {index : Nat}
    {expr : Expr}
    {middle : State}
    (reaches : ReachesKey (callUntil stop bound) holding limits draft before
      index expr middle) :
    let request := KeyRequest.forBody
      (before.heap.openClassScope draft.scope draft.name).1 limits
      index expr middle
    Program.initialState.Reaches request.state ->
      EvaluatesKey request.invocation.entry request.state := by
  intro request reached
  let opening := before.heap.openClassScope draft.scope draft.name
  obtain ⟨requests, evaluates⟩ :=
    exists_keysEvaluate (callWithin bound (holding.holdScope opening.1))
    opening.1 limits 0 ((ClassBody.inOrder draft.body.members).map Member.key)
    { before with heap := opening.2 }
  obtain ⟨keys, evaluated⟩ := reaches.evaluated
  have asked := evaluates.mem_forBody reaches.isWritten
    (evaluateKeys_of_callUntil evaluated)
  rw [Nat.zero_add] at asked
  exact .of evaluates asked reached rfl

end ClassLowering
