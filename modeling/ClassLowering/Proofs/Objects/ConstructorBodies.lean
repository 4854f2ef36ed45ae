import ClassLowering.Proofs.Objects.WithheldBodies

/-!
# Bodies of constructors

A class hands out its methods, but not its constructor. The body of the
constructor runs under construction only, unless it asks for the function that
runs and gives it away: then anybody who gets hold of it can call it with any
receiver, and no initializer runs.
-/

namespace ClassLowering

/--
The constructor of a class runs under construction only: whenever its body was
entered, this was the last step of a construction of an object of the class,
with an object that is new.
-/
structure State.RunsUnderConstruction (last : State)
    (klass : ClassRef) : Prop where
  /-- Every entry is the end of a construction, in a state from which the
  heap has grown. -/
  ends {entry : BodyEntry} {older : List BodyEvent} :
    .entered entry :: older <:+ last.record ->
      entry.function = (last.heap.klass klass).constructor ->
        ∃ between, EndsConstruction klass entry between ∧
          between.record = older ∧ between.heap.Extends last.heap
  /-- No two constructions have the same object. -/
  apart {entry other : BodyEntry} {older past : List BodyEvent} :
    .entered entry :: older <:+ last.record ->
      .entered other :: past <:+ older ->
      entry.function = (last.heap.klass klass).constructor ->
        other.function = (last.heap.klass klass).constructor ->
          entry.receiver ≠ other.receiver
  /-- Bodies cannot get hold of the constructor: nothing in the heap hands it
  out. -/
  shows : last.heap.Shows (· ≠ .function (last.heap.klass klass).constructor)
  /-- The host has not stored the constructor. -/
  stored : ∀ value ∈ last.session.storedValues.values,
    value ≠ .function (last.heap.klass klass).constructor

/-- The class whose construction ends with its constructor is the only one with
it. -/
theorem EndsConstruction.of_constructor
    {klass other : ClassRef}
    {entry : BodyEntry}
    {between last : State}
    (ends : EndsConstruction klass entry between)
    (extended : between.heap.Extends last.heap)
    (sound : last.Sound)
    (apart : last.heap.ScopesApart)
    (held : last.heap.Holds (.klass other))
    (same : entry.function = (last.heap.klass other).constructor) :
    EndsConstruction other entry between := by
  cases ends with
  | @of _ _ args depth before constructs reaches isEntry =>
      have grown := constructs.extended.trans extended
      have isConstructor : (before.heap.klass klass).constructor =
          (last.heap.klass other).constructor := by
        rw [← same, isEntry]
        rfl
      have equal : klass = other := by
        refine apart.eq_of_function sound.heap
          (grown.holds _ constructs.held) held List.mem_cons_self ?_
        rw [grown.klass_eq klass constructs.held, isConstructor]
        exact List.mem_cons_self
      exact equal ▸ .of constructs reaches isEntry

namespace Program

/-- A constructor that does not ask for itself runs under construction only, in
every program. -/
theorem runsUnderConstruction_of_avoidsCallee
    (bound : Nat)
    (steps : List Step)
    {klass : ClassRef} :
    let last := endState (callWithin bound) initialState steps
    last.heap.Holds (.klass klass) ->
      (last.heap.function
        (last.heap.klass klass).constructor).body.avoidsCallee = true ->
        last.RunsUnderConstruction klass := by
  intro last held avoids
  obtain ⟨only, like⟩ := entersOnly_last bound steps
  have moves : initialState.Moves (fun _ => True) last := by
    simp only [last, ← callUntil_never bound]
    exact moves_endState _ bound steps sound_initialState
  have sound := moves.sound sound_initialState
  have apart : last.heap.ScopesApart :=
    moves.path.scopesApart sound_initialState.heap
    fun klass _ none => absurd none (Nat.not_lt_zero klass.index)
  have kind : (last.heap.function (last.heap.klass klass).constructor).kind =
      .constructor :=
    like.heap.constructors klass held
  have hidden : last.heap.Hides (last.heap.klass klass).constructor :=
    ⟨kind ▸ rfl, avoids⟩
  have seen {value : Value}
      (visible : (Likeness.hiding last.heap).visible value) :
      value ≠ .function (last.heap.klass klass).constructor :=
    fun isConstructor => visible _ isConstructor hidden
  have since (past : List BodyEvent) : initialState.record <:+ past :=
    List.nil_suffix
  have entered {entry : BodyEntry} {older : List BodyEvent}
      (recorded : .entered entry :: older <:+ last.record)
      (isConstructor : entry.function = (last.heap.klass klass).constructor) :
      ∃ constructed between, EndsConstruction constructed entry between ∧
        between.record = older ∧ between.heap.Extends last.heap := by
    obtain ⟨between, enters, atEntry, extended⟩ :=
      only.ends ⟨recorded, since older⟩ (isConstructor ▸ hidden)
    rw [isConstructor, kind] at enters
    cases enters with
    | constructor ends => exact ⟨_, between, ends, atEntry, extended⟩
  constructor
  · intro entry older recorded isConstructor
    obtain ⟨_, between, ends, atEntry, extended⟩ :=
      entered recorded isConstructor
    exact ⟨between, ends.of_constructor extended sound apart held isConstructor,
      atEntry, extended⟩
  · intro entry other older past recorded earlier isConstructor isOther same
    obtain ⟨_, _, ends, -, -⟩ := entered recorded isConstructor
    refine only.apart ⟨recorded, since older⟩ ⟨earlier, since past⟩
      (isConstructor ▸ hidden) (isOther ▸ hidden) ?_
    -- Both bodies receive an object, and so this is what is made for them.
    obtain ⟨object, receives⟩ := ends.receives
    rw [BodyEntry.madeFor, BodyEntry.madeFor, ← same, receives]
  · exact like.heap.shows.imp seen
  · exact fun value present => seen (like.stored value present)

/-- A class with an initializer that gives itself away, and two objects of the
class. -/
def initializingSteps (constructorBody : Expr) : List Step :=
  let initial : Expr :=
    .apply (.storage (.setVariable "initializer")) [.apply (.frame .callee) []]
  let form : ClassForm Expr := {
    blueprint := {
      name := some "Ready"
      scope := none
      body := {
        members :=
          [⟨.field, .literal (.text "own"), false, some initial, [], 0⟩]
        constructor := some ⟨[], some constructorBody, 1⟩ } }
    binding := .expression
    limits := .standard }
  let construct : Step :=
    .evaluate (.apply (.host .construct)
      [.apply (.storage (.variable "made")) []]) none
  [.evaluate (.klass form) (some "made"), construct, construct]

/-- The constructor logs its receiver. -/
def loggingSteps : List Step :=
  initializingSteps (.apply (.storage .log) [.apply (.frame .receiver) []])

/-- A constructor that logs its receiver is entered with the two objects,
under construction. -/
theorem runsUnderConstruction_of_avoidsCallee_loggingSteps :
    let last := endState (callWithin 2) initialState loggingSteps
    last.heap.Holds (.klass ⟨0⟩) ∧
      (last.heap.function (last.heap.klass ⟨0⟩).constructor).body.avoidsCallee =
        true ∧ (∀ object ∈ [⟨0⟩, ⟨1⟩],
          .entered ⟨(last.heap.klass ⟨0⟩).constructor, .object object, [], 2⟩ ∈
            last.record) ∧
          last.RunsUnderConstruction ⟨0⟩ := by
  intro last
  have held : last.heap.Holds (.klass ⟨0⟩) := by
    show 0 < Store.size _
    decide +kernel
  have avoids :
      (last.heap.function (last.heap.klass ⟨0⟩).constructor).body.avoidsCallee =
      true := by decide +kernel
  exact ⟨held, avoids, by decide +kernel,
    runsUnderConstruction_of_avoidsCallee 2 loggingSteps held avoids⟩

/-- The constructor stores its own function, which is then called
without a receiver. -/
def takenSteps : List Step :=
  initializingSteps
    (.apply (.storage (.setVariable "taken")) [.apply (.frame .callee) []]) ++
    [.evaluate (.apply (.host .callFunction)
      [.apply (.storage (.variable "taken")) [], .literal .null]) none]

/-- A constructor that gives itself away runs without a construction. -/
theorem not_runsUnderConstruction_takenSteps :
    let last := endState (callWithin 2) initialState takenSteps
    last.heap.Holds (.klass ⟨0⟩) ∧ ¬ last.RunsUnderConstruction ⟨0⟩ := by
  intro last
  have held : last.heap.Holds (.klass ⟨0⟩) := by
    show 0 < Store.size _
    decide +kernel
  have entered : .entered ⟨(last.heap.klass ⟨0⟩).constructor, .null, [], 1⟩ ::
      last.record.drop 2 <:+ last.record := by decide +kernel
  -- How the last state was reached is of no use from here on, and unfolding it
  -- would run the program.
  clear_value last
  refine ⟨held, fun runs => ?_⟩
  obtain ⟨between, ends, -, -⟩ := runs.ends entered rfl
  cases ends with
  | of constructs reaches isEntry =>
      exact nomatch congrArg BodyEntry.receiver isEntry

end Program

end ClassLowering
