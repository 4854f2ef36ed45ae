import ClassLowering.Session.Report

/-!
# Programs

A program is a list of steps. A step evaluates an expression, perhaps into a
variable, or asks about a value, a scope or a class as written. A step that
fails leaves its variable alone and does not stop the program.

All steps share one state. The log starts empty at every step.
-/

namespace ClassLowering

/-- One step of a program. -/
inductive Step
  | evaluate (subject : Expr) (target? : Option String)
  | ask (subject : Expr) (question : Question)
  | askScope (name : String)
  | askDraft (form : ClassForm Expr)

/-- How a step ended. -/
inductive Outcome
  | done (report : Report)
  | failed (fault : ShownFault)
  | stalled

/-- The answer to a step: how it ended, and what was logged before, oldest
first. -/
structure Answer where
  outcome : Outcome
  log : List LogEntry

namespace Step

/-- Do what a step says. -/
def act (call : Caller) : Step -> BodyM Report
  | .evaluate subject target? => do
      let value ← ClassLowering.evaluate call .host subject
      let shown ← showValue value
      if let some name := target? then
        RunM.changeSession fun session =>
          { session with storedValues :=
            session.storedValues.insert name value }
      return .shown shown
  | .ask subject question => answer call subject question
  | .askScope name => do
      let scope ← scopeNamed name
      return .text (← RunM.readHeap (·.scopeDiagnostic scope))
  | .askDraft form => do
      let draft ← draftClass none form.blueprint
      let computed := draft.body.members.map fun member => member.key.isComputed
      return .draft (← RunM.readHeap (·.draftDiagnostic draft)) computed

/-- End a step: show its fault, if it failed, and hand out its log. -/
def conclude : EStateM.Result Interruption State (Report × YieldBuffer) ->
    Answer × State
  | .ok (report, _) state => (⟨.done report, state.session.log.reverse⟩, state)
  | .error .stalled state => (⟨.stalled, state.session.log.reverse⟩, state)
  | .error (.fault cause) state =>
      let log := state.session.log.reverse
      match showFault cause state with
      | .ok fault after => (⟨.failed fault, log⟩, after)
      | .error _ after => (⟨.stalled, log⟩, after)

/-- Do a step and answer it. -/
def run (call : Caller) (step : Step) (state : State) : Answer × State :=
  let fresh := { state with session := { state.session with log := [] } }
  conclude (BodyM.start (step.act call) fresh)

end Step

namespace Program

/-- The state before the first step: a root scope is stored under the global
name. -/
def initialState : State :=
  let (scope, heap) := Heap.empty.newScope none
  { heap := heap
    session :=
      { Session.empty with scopes :=
        OrderedMap.empty.insert globalScopeName scope }
    record := [] }

/-- Do steps in order. -/
def runFrom (call : Caller) : State -> List Step -> List Answer
  | _, [] => []
  | state, step :: rest =>
      let (answer, after) := step.run call state
      answer :: runFrom call after rest

/-- The answers to the steps of a program. -/
def run (steps : List Step) : List Answer :=
  runFrom standardCall initialState steps

end Program
end ClassLowering
