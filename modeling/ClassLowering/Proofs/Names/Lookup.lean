import ClassLowering.Proofs.Runs.Moments

/-!
# Looking up the name of a class

What an operation on a name does in a scope that binds the name itself depends
on this binding alone, whatever the scopes around it bind. A name without a
value can neither be read nor assigned to. The internal name of a class can be
read as long as the class exists, and is never assigned to.
-/

namespace ClassLowering

section Operations

variable {now : State} {home : Option ScopeRef} {site : ScopeSite}
  {scope : ScopeRef}

/-- An assignment that is refused leaves the state as it is. -/
theorem performScope_assign
    {name : String}
    {operands : List Value}
    {cause : Failure}
    (holding : Holding)
    (starts : siteScope home site now = .ok scope now)
    (refused : now.heap.assign scope name (operand operands 0) = .error cause) :
    performScope holding home (.assign site name) operands now =
      .error (.fault cause) now := by
  refine (RunM.bind_of_ok starts).trans ?_
  rw [RunM.bind_of_ok (RunM.readHeap_apply _ _)]
  show (RunM.ofExcept (now.heap.assign scope name (operand operands 0)) >>= _)
    now = _
  rw [refused]
  rfl

end Operations

namespace State

/-- From a scope, a name means a class for as long as the class exists, and
for reading only. -/
structure NameMeans (now : State) (scope : ScopeRef) (name : String)
    (klass : ClassRef) :
    Prop where
  resolve (holding : Holding) (home : Option ScopeRef) (site : ScopeSite)
    (operands : List Value) : siteScope home site now = .ok scope now ->
      now.heap.Keeps (holding.cells ++ now.session.roots) (.klass klass) ->
        performScope holding home (.resolve site name) operands now =
          .ok (.klass klass) now
  /-- The name keeps nothing alive, so it may mean nothing any more. -/
  resolveGone (holding : Holding) (home : Option ScopeRef) (site : ScopeSite)
    (operands : List Value) : siteScope home site now = .ok scope now ->
      ¬ now.heap.Keeps (holding.cells ++ now.session.roots) (.klass klass) ->
        performScope holding home (.resolve site name) operands now =
          .error (.fault (.reference name)) now
  assign (holding : Holding) (home : Option ScopeRef) (site : ScopeSite)
    (operands : List Value) : siteScope home site now = .ok scope now ->
      performScope holding home (.assign site name) operands now =
        .error (.fault (.constAssignment name)) now

variable {now : State} {scope : ScopeRef} {name : String}

end State
end ClassLowering
