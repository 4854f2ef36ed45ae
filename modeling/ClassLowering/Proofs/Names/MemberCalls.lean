import ClassLowering.Proofs.Names.Lookup

/-!
# Names in the bodies of members

A function of a class runs its body in a frame with the scope of the class,
whoever calls it and whatever became of the class. So the body reads the
internal name of the class in this scope.

Neither the function nor the scope keeps the class alive. When nothing else
does, a function that is still held reads a name that means nothing any more.
-/

namespace ClassLowering

/-- What is held when the body of a frame reads a name. -/
def Holding.inBody (holding : Holding) (body : BodyState) : Holding :=
  ((holding.hold []).hold body.locals.values).hold body.yields.newestFirst

/-- A body with a frame reads a name from the scope of the frame. -/
theorem perform_resolve
    (call : Caller)
    (frame : Frame)
    (holding : Holding)
    (name : String)
    (body : BodyState) :
    perform call ⟨some frame, holding⟩ (.scope (.resolve .home name)) [] body =
      BodyM.lift (performScope (holding.inBody body) (some frame.scope)
        (.resolve .home name) []) body := rfl

/-- A body with a frame reads a name as a class that is kept, and as nothing
when it is not. -/
structure Frame.Sees (frame : Frame) (name : String) (klass : ClassRef)
    (body : BodyState) :
    Prop where
  kept (call : Caller) (holding : Holding) :
    body.state.heap.Keeps
        ((holding.inBody body).cells ++ body.state.session.roots)
        (.klass klass) ->
      perform call ⟨some frame, holding⟩
        (.scope (.resolve .home name)) [] body = .ok (.klass klass) body
  lost (call : Caller) (holding : Holding) :
    ¬ body.state.heap.Keeps
        ((holding.inBody body).cells ++ body.state.session.roots)
        (.klass klass) ->
      perform call ⟨some frame, holding⟩
        (.scope (.resolve .home name)) [] body =
        .error (.fault (.reference name)) body

/-- A body whose frame has a scope in which a name means a class sees the
class. -/
theorem State.NameMeans.sees
    {body : BodyState}
    {frame : Frame}
    {name : String}
    {klass : ClassRef}
    (means : body.state.NameMeans frame.scope name klass) :
    frame.Sees name klass body where
  kept call holding isKept := by
    rw [perform_resolve]
    exact BodyM.lift_of_ok
      (means.resolve _ (some frame.scope) .home [] rfl isKept)
  lost call holding isLost := by
    rw [perform_resolve]
    exact BodyM.lift_of_error
      (means.resolveGone _ (some frame.scope) .home [] rfl isLost)

end ClassLowering
