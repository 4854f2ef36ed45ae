import ClassLowering.Proofs.Runs.Recording

/-!
# Regress

When every body of a run asks for another one before it leaves, the run comes to
no end. Within any bound on the nesting of bodies it stalls, and then as many
bodies are active as the bound allows.

A regress is described by its moments: which bodies were entered, and what is
about to run in which state.
-/

namespace ClassLowering

/-- A function that runs from one state asks for another function in the next,
unless refused. -/
structure Invocation.LeadsTo
    (invocation : Invocation) (before : State) (next : Invocation)
    (between : State) :
    Prop where
  recorded : between.record = .entered invocation.entry :: before.record
  stalls : ∀ (call : Caller) (holding : Holding) (after : State),
    (∀ held, call held next between = .error .stalled after) ->
      enterFunction call holding invocation before =
        .error .stalled { after with record := .left (some .stalled) ::
          after.record }

/-- A function leads to what its body asks for first. -/
theorem Invocation.leadsTo_of_start
    {invocation next : Invocation}
    {before entered between : State}
    {scope : ScopeRef}
    (shallow : invocation.depth ≤
      (before.heap.function invocation.function).limits.callDepth)
    (enters : enterScope (before.heap.function invocation.function) before =
      .ok scope entered)
    (recorded : between.record = .entered invocation.entry :: before.record)
    (asks : ∀ (call : Caller) (frame : Frame) (holding : Holding)
      (after : State),
      frame.callee = invocation.function ->
        frame.receiver = invocation.receiver ->
        frame.depth = invocation.depth -> frame.scope = scope ->
          (∀ held, call held next between = .error .stalled after) ->
            BodyM.start (evaluate call ⟨some frame, holding⟩
                (before.heap.function invocation.function).body)
              { entered with record := .entered invocation.entry ::
                entered.record } = .error .stalled after) :
    invocation.LeadsTo before next between := by
  refine ⟨recorded, fun call holding after stalls => ?_⟩
  rw [enterFunction, RunM.bind_of_ok (RunM.readHeap_apply _ _),
    if_neg (UInt32.not_lt.2 shallow), RunM.bind_of_ok enters]
  exact RunM.bind_of_error
    (runInFrame_of_error (asks call _ _ after rfl rfl rfl rfl stalls))

/-- Moments of a run at each of which a function is about to run that leads
to another one. -/
def Regress (moment : List BodyEntry -> Invocation -> State -> Prop) : Prop :=
  ∀ entries invocation before, moment entries invocation before ->
    ∃ next between, invocation.LeadsTo before next between ∧
      moment (invocation.entry :: entries) next between

/-- Bodies that were only entered are active. -/
theorem active_entered (entries : List BodyEntry) :
    active (entries.map BodyEvent.entered) = entries := by
  induction entries with
  | nil => rfl
  | cons entry rest hypothesis => rw [List.map_cons, active, hypothesis]

/-- The state in which a regress is cut off: all bodies that were entered
are left again. -/
def State.cutOff (state : State) (rounds : Nat) : State :=
  { state with record := List.replicate rounds (.left (some .stalled)) ++
    state.record }

/-- A regress stalls within every bound, at a moment that is as many
bodies further. -/
theorem Regress.stalls
    {moment : List BodyEntry -> Invocation -> State -> Prop}
    {entries : List BodyEntry}
    {invocation : Invocation}
    {before : State}
    (regress : Regress moment)
    (rounds : Nat)
    (now : moment entries invocation before) :
    ∃ newer next between, newer.length = rounds ∧
      moment (newer ++ entries) next between ∧
      between.record = newer.map BodyEvent.entered ++ before.record ∧
        ∀ holding, callWithin rounds holding invocation before =
          .error .stalled (between.cutOff rounds) := by
  -- The outermost body comes first, so what the hypothesis yields is newer
  -- than its entry.
  induction rounds generalizing entries invocation before with
  | zero => exact ⟨[], invocation, before, rfl, now, rfl, fun _ => rfl⟩
  | succ rounds hypothesis =>
      obtain ⟨next, between, leads, later⟩ :=
        regress entries invocation before now
      obtain ⟨newer, last, final, long, reached, recorded, stalls⟩ :=
        hypothesis later
      refine ⟨newer ++ [invocation.entry], last, final, ?_, ?_, ?_,
        fun holding => ?_⟩
      · rw [List.length_append, List.length_singleton, long]
      · rw [List.append_assoc]
        exact reached
      · rw [recorded, leads.recorded, List.map_append, List.append_assoc]
        rfl
      · exact leads.stalls (callWithin rounds) holding _ stalls

end ClassLowering
