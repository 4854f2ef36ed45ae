import ClassLowering.Proofs.Elaboration.Keys
import ClassLowering.Proofs.Elaboration.Soundness

/-!
# What keys change

While keys are evaluated, everything that is no part of a function changes
within the bodies that are asked for, and nowhere else: between one request and
the next only the function of a computed key is made.
-/

namespace ClassLowering

/-- The state that the answer to a request leaves. -/
def KeyRequest.endState (call : Invoker) (request : KeyRequest) : State :=
  RunM.lastState (request.answer call)

/--
What is looked at in a state is the same when the first request is made, and
when a request is made as when the one before it was answered, and at the end as
after the last request.
-/
inductive ChangesWithin {α : Type} (call : Invoker) (look : State -> α) :
    State -> List KeyRequest -> State -> Prop
  | nil {before after : State} :
      look after = look before -> ChangesWithin call look before [] after
  | cons {before after : State} {request : KeyRequest}
      {rest : List KeyRequest} :
      look request.state = look before ->
        ChangesWithin call look (request.endState call) rest after ->
          ChangesWithin call look before (request :: rest) after

section Changes

variable {α : Type} {call : Invoker} {look : State -> α} {scope : ScopeRef}
  {limits : Limits}

/-- What changes within one request. -/
theorem ChangesWithin.single
    {before after : State}
    {request : KeyRequest}
    (asks : look request.state = look before)
    (same : look after = look (request.endState call)) :
    ChangesWithin call look before [request] after :=
  .cons asks (.nil same)

/-- What changes within some requests and then within others. -/
theorem ChangesWithin.append
    {before between after : State}
    {requests more : List KeyRequest}
    (earlier : ChangesWithin call look before requests between)
    (later : ChangesWithin call look between more after) :
    ChangesWithin call look before (requests ++ more) after := by
  induction earlier with
  | nil same =>
      cases later with
      | nil same' => exact .nil (same'.trans same)
      | cons asks rest => exact .cons (asks.trans same) rest
  | cons asks _ hypothesis => exact .cons asks (hypothesis later)

end Changes
end ClassLowering
