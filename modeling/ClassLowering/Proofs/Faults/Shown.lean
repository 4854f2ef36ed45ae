import ClassLowering.Session.Showing

/-!
# Faults that are shown

Every fault can be shown. To show it numbers composites and symbols, and
does nothing else.
-/

namespace ClassLowering

/-- Numbering a composite changes neither the log nor the variables. -/
theorem Session.numberComposite_rest (session : Session) (value : Value) :
    (session.numberComposite value).2.log = session.log ∧
      (session.numberComposite value).2.storedValues =
        session.storedValues := by
  unfold numberComposite
  split <;> exact ⟨rfl, rfl⟩

/-- Numbering a symbol changes neither the log nor the variables. -/
theorem Session.numberSymbol_rest (session : Session) (symbol : Symbol) :
    (session.numberSymbol symbol).2.log = session.log ∧
      (session.numberSymbol symbol).2.storedValues = session.storedValues := by
  unfold numberSymbol
  split <;> exact ⟨rfl, rfl⟩

namespace Fault

variable {κ ν : Type}

/-- Whether a fault is raised at a limit, possibly below some elaborations. -/
def isLimit : Fault κ ν -> Bool
  | .keyEvaluation _ cause => cause.isLimit
  | .callDepthExceeded _ | .generatorOverflow _ => true
  | _ => false

end Fault

/-- Showing a fault leaves the heap and the log as they are, and what is shown
is as limiting. -/
theorem showFault_ok (cause : Failure) (state : State) :
    ∃ shown session, showFault cause state =
      .ok shown { state with session := session } ∧
      session.log = state.session.log ∧ shown.isLimit = cause.isLimit := by
  have ofKey (key : PropertyKey) : ∃ shown session,
      showKey key state = .ok shown { state with session := session } ∧
        session.log = state.session.log := by
    cases key with
    | ofText text => exact ⟨_, _, rfl, rfl⟩
    | ofSymbol symbol =>
        exact ⟨_, _, rfl, (state.session.numberSymbol_rest symbol).1⟩
  have ofValue (value : Value) : ∃ shown session,
      showValue value state = .ok shown { state with session := session } ∧
        session.log = state.session.log := by
    cases value with
    | symbol symbol =>
        exact ⟨_, _, rfl, (state.session.numberSymbol_rest symbol).1⟩
    | object ref => exact ⟨_, _, rfl, (state.session.numberComposite_rest _).1⟩
    | klass ref => exact ⟨_, _, rfl, (state.session.numberComposite_rest _).1⟩
    | function ref =>
        exact ⟨_, _, rfl, (state.session.numberComposite_rest _).1⟩
    | generator ref =>
        exact ⟨_, _, rfl, (state.session.numberComposite_rest _).1⟩
    | _ => exact ⟨_, _, rfl, rfl⟩
  induction cause with
  | keyEvaluation index cause hypothesis =>
      obtain ⟨shown, session, shows, log, same⟩ := hypothesis
      exact ⟨_, session, RunM.bind_of_ok shows, log, same⟩
  | accessorMissing key side =>
      obtain ⟨shown, session, shows, log⟩ := ofKey key
      exact ⟨_, session, RunM.bind_of_ok shows, log, rfl⟩
  | memberConflict key =>
      obtain ⟨shown, session, shows, log⟩ := ofKey key
      exact ⟨_, session, RunM.bind_of_ok shows, log, rfl⟩
  | readOnlyMember key =>
      obtain ⟨shown, session, shows, log⟩ := ofKey key
      exact ⟨_, session, RunM.bind_of_ok shows, log, rfl⟩
  | thrown value =>
      obtain ⟨shown, session, shows, log⟩ := ofValue value
      exact ⟨_, session, RunM.bind_of_ok shows, log, rfl⟩
  | _ => exact ⟨_, _, rfl, rfl, rfl⟩

end ClassLowering
