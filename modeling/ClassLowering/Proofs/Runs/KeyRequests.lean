import ClassLowering.Proofs.Objects.Conversions
import ClassLowering.Proofs.Runs.Programs

/-!
# Moments of elaborations

From the opening of the scope of a class, an elaboration moves from one request
to the next and to its end. So what moves keep holds wherever a key is
evaluated. What a request records stays in the record to the end.
-/

namespace ClassLowering

section Elaboration

variable {stop : State -> Bool} {bound : Nat} {holding : Holding}
  {limits : Limits}
variable {before : State}

/-- The answer to an invocation leads to a state that holds the value. -/
theorem leads_callUntil
    {invocation : Invocation}
    {value : Value}
    {after : State}
    (sound : before.Sound)
    (within : invocation.Within before.heap)
    (answered : callUntil stop bound holding invocation before =
      .ok value after) :
    (Progress.recording fun _ _ => True).Leads before after ∧
      value.Known after := by
  have runs := serves_callUntil stop bound
    (fun _ _ => True) holding invocation before sound within
    (Demand.total_asking _ _)
  unfold Progress.Runs at runs
  rw [answered] at runs
  exact runs

section Requests

variable {scope : ScopeRef} {index : Nat} {requests : List KeyRequest}

/-- Evaluating a key leads to where it ends. -/
theorem KeyEvaluates.leads
    {key : MemberKey PropertyKey Expr}
    {ended : EStateM.Result Interruption State PropertyKey}
    (evaluates : KeyEvaluates (callUntil stop bound holding) scope limits
      index key before requests ended)
    (sound : before.Sound)
    (held : before.heap.Holds (.scope scope)) :
    (Progress.recording fun _ _ => True).Leads before
      (RunM.lastState ended) := by
  rw [← evaluates.ends fun _ _ => rfl]
  exact (runs_evaluateKey key
    (serves_callUntil stop bound (fun _ _ => True) holding) (fun _ => trivial)
    (fun _ _ _ _ => Demand.total_asking _ _) (fun _ _ _ _ _ _ => trivial) sound
    held).leads_endState

/-- Evaluating keys leads to where it ends. -/
theorem KeysEvaluate.leads
    {keys : List (MemberKey PropertyKey Expr)}
    {ended : EStateM.Result Interruption State (List PropertyKey)}
    (evaluates : KeysEvaluate (callUntil stop bound holding) scope limits
      index keys before requests ended)
    (sound : before.Sound)
    (held : before.heap.Holds (.scope scope)) :
    (Progress.recording fun _ _ => True).Leads before
      (RunM.lastState ended) := by
  rw [← evaluates.ends fun _ _ => rfl]
  exact (runs_evaluateKeys index keys
    (serves_callUntil stop bound (fun _ _ => True) holding) (fun _ => trivial)
    (fun _ _ _ _ => Demand.total_asking _ _) (fun _ _ _ _ _ _ => trivial) sound
    held).leads_endState

/-- Evaluating keys moves the state to where it ends. -/
theorem KeysEvaluate.moves
    {keys : List (MemberKey PropertyKey Expr)}
    {ended : EStateM.Result Interruption State (List PropertyKey)}
    (evaluates : KeysEvaluate (callUntil stop bound holding) scope limits
      index keys before requests ended)
    (sound : before.Sound)
    (held : before.heap.Holds (.scope scope)) :
    before.Moves (fun _ => True) (RunM.lastState ended) :=
  Progress.moves _ (evaluates.leads sound held)

/-- The state moves to the request for the body of a key, which refers to
cells of the heap. -/
theorem asks_forBody
    (limits : Limits)
    (index : Nat)
    (expr : Expr)
    (held : before.heap.Holds (.scope scope)) :
    let request := KeyRequest.forBody scope limits index expr before
    before.Moves (fun _ => True) request.state ∧
      request.invocation.Within request.state.heap := by
  refine ⟨.of_path (.single (.function _ trivial ?_)),
    before.heap.holds_newFunction _, Value.within_undefined, .nil⟩
  rintro home ⟨⟩
  exact held

/-- The function that converts a value is one of the heap, if the value
is of the heap. -/
theorem asks_conversion
    {value : Value}
    {function : FunctionRef}
    {between : State}
    (sound : between.Sound)
    (known : value.Known between)
    (converts : between.heap.converter? value = some function) :
    (KeyRequest.conversion function value between).invocation.Within
      between.heap := by
  refine ⟨?_, known, .nil⟩
  cases value with
  | object ref =>
      exact sound.heap.holds_converter
        (sound.heap.converter?_eq_some_iff.1 converts)
  | _ => exact nomatch converts

/-- The state moves to each request of a key, which refers to cells of the
heap. -/
theorem KeyEvaluates.asks
    {key : MemberKey PropertyKey Expr}
    {ended : EStateM.Result Interruption State PropertyKey}
    (evaluates : KeyEvaluates (callUntil stop bound holding) scope limits
      index key before requests ended)
    (sound : before.Sound)
    (held : before.heap.Holds (.scope scope)) :
    ∀ request ∈ requests, before.Moves (fun _ => True) request.state ∧
      request.invocation.Within request.state.heap := by
  have asksBody (expr : Expr) := asks_forBody limits index expr held
  have asksNext {expr : Expr} {value : Value} {function : FunctionRef}
      {between : State}
      (answered : (KeyRequest.forBody scope limits index expr before).answer
        (callUntil stop bound holding) = .ok value between)
      (converts : between.heap.converter? value = some function) :
      before.Moves (fun _ => True) between ∧
        (KeyRequest.conversion function value between).invocation.Within
          between.heap := by
    obtain ⟨moves, within⟩ := asksBody expr
    obtain ⟨leads, known⟩ := leads_callUntil (moves.sound sound) within answered
    have whole := moves.trans (Progress.moves _ leads)
    exact ⟨whole, asks_conversion (whole.sound sound) known converts⟩
  cases evaluates with
  | literal => exact fun _ absent => absurd absent List.not_mem_nil
  | failing _ | plain _ _ =>
      intro request asked
      exact List.mem_singleton.1 asked ▸ asksBody _
  | unconverted body converts _ | converted body converts _ =>
      intro request asked
      rcases List.mem_cons.1 asked with rfl | next
      · exact asksBody _
      · exact List.mem_singleton.1 next ▸ asksNext body converts

/-- The state moves to each request of keys, which refers to cells of the
heap. -/
theorem KeysEvaluate.asks
    {keys : List (MemberKey PropertyKey Expr)}
    {ended : EStateM.Result Interruption State (List PropertyKey)}
    (evaluates : KeysEvaluate (callUntil stop bound holding) scope limits
      index keys before requests ended)
    (sound : before.Sound)
    (held : before.heap.Holds (.scope scope)) :
    ∀ request ∈ requests, before.Moves (fun _ => True) request.state ∧
      request.invocation.Within request.state.heap := by
  induction evaluates with
  | nil => exact fun _ absent => absurd absent List.not_mem_nil
  | stop first => exact first.asks sound held
  | stopLater first _ hypothesis | cons first _ hypothesis =>
      intro request asked
      have moves := Progress.moves _ (first.leads sound held)
      rcases List.mem_append.1 asked with own | further
      · exact first.asks sound held request own
      · obtain ⟨movesOn, within⟩ := hypothesis (moves.sound sound)
          (moves.path.extension.holds _ held) request further
        exact ⟨moves.trans movesOn, within⟩

/-- Each request of a key that is evaluated is answered, on the way to the
end. -/
theorem KeyEvaluates.answered
    {key : MemberKey PropertyKey Expr}
    {name : PropertyKey}
    {after : State}
    (evaluates : KeyEvaluates (callUntil stop bound holding) scope limits
      index key before requests (.ok name after))
    (sound : before.Sound)
    (held : before.heap.Holds (.scope scope)) :
    ∀ request ∈ requests, ∃ value middle,
      request.answer (callUntil stop bound holding) = .ok value middle ∧
        (Progress.recording fun _ _ => True).Leads middle after := by
  have asks := evaluates.asks sound held
  generalize same : EStateM.Result.ok name after = ended at evaluates
  cases evaluates with
  | literal => exact fun _ absent => absurd absent List.not_mem_nil
  | failing _ | unconverted _ _ _ => exact nomatch same
  | plain body _ =>
      cases same
      intro request asked
      exact List.mem_singleton.1 asked ▸ ⟨_, _, body, Progress.refl _ _⟩
  | @converted _ _ between last value result
      function body converts conversion =>
      have stays : last = after := by
        cases made : last.heap.convertedKey result with
        | ok key =>
            rw [made] at same
            cases same
            rfl
        | error cause =>
            rw [made] at same
            exact nomatch same
      subst stays
      intro request asked
      rcases List.mem_cons.1 asked with rfl | next
      · obtain ⟨moves, within⟩ :=
          asks _ (List.mem_cons_of_mem _ List.mem_cons_self)
        exact ⟨_, _, body,
          (leads_callUntil (moves.sound sound) within conversion).1⟩
      · exact List.mem_singleton.1 next ▸ ⟨_, _, conversion, Progress.refl _ _⟩

/-- Each request of keys that are all evaluated is answered, on the way to the
end. -/
theorem KeysEvaluate.answered
    {keys : List (MemberKey PropertyKey Expr)}
    {names : List PropertyKey}
    {after : State}
    (evaluates : KeysEvaluate (callUntil stop bound holding) scope limits
      index keys before requests (.ok names after))
    (sound : before.Sound)
    (held : before.heap.Holds (.scope scope)) :
    ∀ request ∈ requests, ∃ value middle,
      request.answer (callUntil stop bound holding) = .ok value middle ∧
        (Progress.recording fun _ _ => True).Leads middle after := by
  generalize same : EStateM.Result.ok names after = ended at evaluates
  induction evaluates generalizing names after with
  | nil => exact fun _ absent => absurd absent List.not_mem_nil
  | stop first | stopLater first _ _ => exact nomatch same
  | cons first rest hypothesis =>
      cases same
      have moves := Progress.moves _ (first.leads sound held)
      have soundBetween := moves.sound sound
      have heldBetween := moves.path.extension.holds _ held
      intro request asked
      rcases List.mem_append.1 asked with own | further
      · obtain ⟨value, middle, answered, leads⟩ :=
          first.answered sound held request own
        exact ⟨value, middle, answered,
          Progress.trans _ leads (rest.leads soundBetween heldBetween)⟩
      · exact hypothesis soundBetween heldBetween rfl request further

end Requests

end Elaboration
end ClassLowering
