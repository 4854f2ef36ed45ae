import ClassLowering.Proofs.Depths.DeepestLimit

/-!
# Termination

Bodies that keep to their frames, and make only functions whose bodies do so
too, run what they ask for one level deeper. A body at the limit of its function
is refused what it asks for, so bodies nest no deeper than limits allow. Then a
host call ends within a bound that is the same for all of them, however the
bodies ask for one another.

The measure is the distance from the deepest level: every round of the induction
on the bound takes it one level further, as long as no limit lets the count of
depths start again.
-/

namespace ClassLowering

mutual

/-- Whether an expression keeps to its frame, and so do the bodies that are
written in it. -/
def Expr.isConfined : Expr -> Bool
  | .literal _ => true
  | .apply operation operands =>
      operation.keepsToFrame && Expr.allConfined operands
  | .sequence steps => Expr.allConfined steps
  | .choose condition whenTrue whenFalse =>
      condition.isConfined && (whenTrue.isConfined && whenFalse.isConfined)
  | .loop _ count body => count.isConfined && body.isConfined
  | .attempt body handler => body.isConfined && handler.isConfined
  | .function _ body => body.isConfined
  | .run _ => false
  | .klass _ => false

/-- Whether all of some expressions keep to their frame, and so do the
bodies in them. -/
def Expr.allConfined : List Expr -> Bool
  | [] => true
  | first :: rest => first.isConfined && Expr.allConfined rest

end

mutual

/-- A confined expression keeps to its frame. -/
theorem Expr.keepsToFrame_of_isConfined
    (expr : Expr)
    (confined : expr.isConfined = true) :
    expr.keepsToFrame = true := by
  cases expr with
  | literal _ => rfl
  | apply operation operands =>
      rw [isConfined, Bool.and_eq_true] at confined
      rw [keepsToFrame, confined.1,
        allKeepToFrame_of_allConfined operands confined.2]
      rfl
  | sequence steps => exact allKeepToFrame_of_allConfined steps confined
  | choose condition whenTrue whenFalse =>
      rw [isConfined, Bool.and_eq_true, Bool.and_eq_true] at confined
      rw [keepsToFrame, keepsToFrame_of_isConfined condition confined.1,
        keepsToFrame_of_isConfined whenTrue confined.2.1,
        keepsToFrame_of_isConfined whenFalse confined.2.2]
      rfl
  | loop _ count body =>
      rw [isConfined, Bool.and_eq_true] at confined
      rw [keepsToFrame, keepsToFrame_of_isConfined count confined.1,
        keepsToFrame_of_isConfined body confined.2]
      rfl
  | attempt body handler =>
      rw [isConfined, Bool.and_eq_true] at confined
      rw [keepsToFrame, keepsToFrame_of_isConfined body confined.1,
        keepsToFrame_of_isConfined handler confined.2]
      rfl
  | function _ _ => rfl
  | run _ => cases confined
  | klass _ => cases confined

/-- Confined expressions keep to their frame. -/
theorem Expr.allKeepToFrame_of_allConfined
    (exprs : List Expr)
    (confined : Expr.allConfined exprs = true) :
    Expr.allKeepToFrame exprs = true := by
  cases exprs with
  | nil => rfl
  | cons first rest =>
      rw [Expr.allConfined, Bool.and_eq_true] at confined
      rw [Expr.allKeepToFrame, Expr.keepsToFrame_of_isConfined first confined.1,
        Expr.allKeepToFrame_of_allConfined rest confined.2]
      rfl

end

/-- A function has a confined body, and a limit that keeps the count of depths
from restarting. -/
structure FunctionCell.Confined (cell : FunctionCell) : Prop where
  body : cell.body.isConfined = true
  limit : cell.limits.callDepth < 4294967295

mutual

/-- A confined expression makes only confined functions. -/
theorem Expr.makesOnly_of_isConfined
    (expr : Expr)
    (confined : expr.isConfined = true) :
    expr.MakesOnly FunctionCell.Confined := by
  cases expr with
  | literal _ => trivial
  | apply operation operands =>
      rw [isConfined, Bool.and_eq_true] at confined
      exact allMakeOnly_of_allConfined operands confined.2
  | sequence steps => exact allMakeOnly_of_allConfined steps confined
  | choose condition whenTrue whenFalse =>
      rw [isConfined, Bool.and_eq_true, Bool.and_eq_true] at confined
      exact ⟨makesOnly_of_isConfined condition confined.1,
        makesOnly_of_isConfined whenTrue confined.2.1,
        makesOnly_of_isConfined whenFalse confined.2.2⟩
  | loop _ count body =>
      rw [isConfined, Bool.and_eq_true] at confined
      exact ⟨makesOnly_of_isConfined count confined.1,
        makesOnly_of_isConfined body confined.2⟩
  | attempt body handler =>
      rw [isConfined, Bool.and_eq_true] at confined
      exact ⟨makesOnly_of_isConfined body confined.1,
        makesOnly_of_isConfined handler confined.2⟩
  | function _ body =>
      exact ⟨confined, show Limits.standard.callDepth < _ by decide⟩
  | run _ => cases confined
  | klass _ => cases confined

/-- Confined expressions make only confined functions. -/
theorem Expr.allMakeOnly_of_allConfined
    (exprs : List Expr)
    (confined : Expr.allConfined exprs = true) :
    Expr.AllMakeOnly FunctionCell.Confined exprs := by
  cases exprs with
  | nil => trivial
  | cons first rest =>
      rw [Expr.allConfined, Bool.and_eq_true] at confined
      exact ⟨Expr.makesOnly_of_isConfined first confined.1,
        Expr.allMakeOnly_of_allConfined rest confined.2⟩

end

namespace Heap

/-- All functions of a heap are confined. -/
def Confined (heap : Heap) : Prop :=
  ∀ ref, heap.Holds (.function ref) -> (heap.function ref).Confined

/-- What is not held in the place of a function is as good as confined. -/
theorem Confined.function
    {heap : Heap}
    (confined : heap.Confined)
    (ref : FunctionRef) :
    (heap.function ref).Confined := by
  by_cases held : heap.Holds (.function ref)
  · exact confined ref held
  · have absent : heap.function ref = default := by
      have outside : heap.functions.cells[ref.index]? = none :=
        Array.getElem?_eq_none (Nat.not_lt.1 held)
      rw [Heap.function, Store.get?, outside]
      rfl
    rw [absent]
    exact ⟨rfl, by decide⟩

/-- A path that makes confined functions only keeps a heap confined. -/
theorem Path.confined
    {heap later : Heap}
    (path : Path FunctionCell.Confined heap later)
    (confined : heap.Confined) :
    later.Confined := by
  intro ref _
  rcases path.function_cases ref with same | made
  · rw [same]
    exact confined.function ref
  · exact made

end Heap

/-- Runs that keep a heap confined, and that do not stall from one that is. -/
def Progress.confining : Progress where
  Leads before after := before.Moves (fun _ => True) after ∧
    (before.heap.Confined -> after.heap.Confined)
  Stalls before _ := ¬ before.heap.Confined
  Makes := FunctionCell.Confined
  refl state := ⟨.refl state, id⟩
  trans earlier later := ⟨earlier.1.trans later.1, later.2 ∘ earlier.2⟩
  stalls earlier stalls := stalls ∘ earlier.2
  goesOn _ moves _ _ :=
    ⟨⟨moves.path.mono fun _ _ => trivial, moves.session⟩, moves.path.confined⟩
  moves leads := leads.1

/-- A confined heap leaves enough of a bound for all levels below an
invocation. -/
def Demand.confining (bound : Nat) : Demand := fun heap invocation =>
  heap.Confined -> 4294967296 ≤ invocation.depth.toNat + bound

/-- A body within its limit leaves enough of the bound for the level below
it. -/
theorem Demand.coversBelow_confining
    {bound : Nat}
    {depth : Depth}
    (shallow : depth < 4294967295)
    (enough : 4294967296 ≤ depth.toNat + (bound + 1)) :
    (confining bound).CoversBelow depth where
  calls heap invocation atDepth _ := by
    rw [atDepth, Depth.toNat_add_one shallow]
    omega
  constructions heap invocation atDepth bounded confined := by
    have limit := (confined.function invocation.function).limit
    rw [atDepth, Depth.toNat_add_one (UInt32.lt_of_le_of_lt bounded limit),
      Depth.toNat_add_one shallow]
    omega

/-- A body is as confined from outside as within. -/
theorem encloses_confining (entry : BodyEntry) (before : State) :
    Progress.confining.Encloses .confining entry before :=
  ⟨fun _ _ leads => ⟨⟨leads.1.path, leads.1.session⟩, leads.2⟩,
    fun _ _ stalls => stalls⟩

/-- From a heap that is not confined, runs only have to move. -/
theorem Progress.Runs.confining_of_not
    {asked : Heap -> BodyEntry -> Prop}
    {α : Type}
    {run : RunM α}
    {before : State}
    {claim : α -> State -> Prop}
    (runs : (Progress.recording asked).Runs run before claim)
    (loose : ¬ before.heap.Confined) :
    Progress.confining.Runs run before claim := by
  unfold Progress.Runs at runs ⊢
  cases ended : run before with
  | ok result after =>
      rw [ended] at runs
      exact ⟨⟨runs.1.1, fun confined => absurd confined loose⟩, runs.2⟩
  | error interruption after =>
      rw [ended] at runs
      exact ⟨⟨runs.1.1, fun confined => absurd confined loose⟩, fun _ => loose⟩

/-- From a confined heap, a bound that is left for all levels below is
never run into. -/
theorem serves_confining (bound : Nat) (holding : Holding) :
    Progress.confining.Serves (Demand.confining bound)
      (callWithin bound holding) := by
  induction bound generalizing holding with
  | zero =>
      intro invocation before _ _ demanded
      refine .stall fun confined => ?_
      have left := demanded confined
      have deepest := invocation.depth.toNat_lt
      omega
  | succ bound hypothesis =>
      intro invocation before sound within demanded
      by_cases confined : before.heap.Confined
      · refine runs_enterFunction sound within ?_
        intro bounded scope context between soundBetween extension
          inFrame frameWithin
        have cell := confined.function invocation.function
        rw [← extension.function_eq invocation.function
          within.function] at cell bounded
        refine runs_runInFrame (encloses_confining _ _) hypothesis inFrame ?_
          (.inl (Expr.keepsToFrame_of_isConfined _ cell.body))
          (Expr.makesOnly_of_isConfined _ cell.body) soundBetween frameWithin
        exact Demand.coversBelow_confining
          (UInt32.lt_of_le_of_lt bounded cell.limit) (demanded confined)
      · have runs := serves_callUntil (fun _ => false) (bound + 1)
          (fun _ _ => True) holding
          invocation before sound within fun _ _ _ => trivial
        rw [callUntil_never] at runs
        exact runs.confining_of_not confined

/-- A run ends, with a result or with a fault. -/
def RunM.Ends {α : Type} (run : RunM α) (before : State) : Prop :=
  (∃ result after, run before = .ok result after) ∨
    ∃ cause after, run before = .error (.fault cause) after

/-- A run ends when it stalls from no confined heap. -/
theorem Progress.Runs.ends
    {α : Type}
    {run : RunM α}
    {before : State}
    {claim : α -> State -> Prop}
    (runs : Progress.confining.Runs run before claim)
    (confined : before.heap.Confined) :
    run.Ends before := by
  unfold Progress.Runs at runs
  cases ended : run before with
  | ok result after => exact .inl ⟨result, after, ended⟩
  | error interruption after =>
      rw [ended] at runs
      cases interruption with
      | fault cause => exact .inr ⟨cause, after, ended⟩
      | stalled => exact absurd confined (runs.2 rfl)

/--
In every state of a program in which all functions are confined, every host call
ends, however the bodies call, construct, read, write and convert one another.
The bound that is left for nested bodies is the same for all of them.
-/
theorem ends_of_hostCall
    {request : HostCall}
    {steps : List Step}
    {bound : Nat}
    (stop : State -> Bool)
    (stepBound : Nat)
    (holding : Holding)
    (enough : 4294967295 ≤ bound)
    (within : request.Within
      (Program.endState (callUntil stop stepBound) Program.initialState
        steps).heap)
    (confined :
      (Program.endState (callUntil stop stepBound) Program.initialState
        steps).heap.Confined) :
    (request.run (callWithin bound holding)).Ends
      (Program.endState (callUntil stop stepBound) Program.initialState
        steps) := by
  have sound := Program.sound_endState stop stepBound steps
    Program.sound_initialState
  have below : (Demand.confining bound).CoversBelow 0 := by
    refine Demand.coversBelow_confining (by decide) ?_
    show 4294967296 ≤ 0 + (bound + 1)
    omega
  exact (HostCall.runs (serves_confining bound holding) below sound within).ends
    confined

/-- A class of which one method invokes the other, and the other converts the
receiver to a key. -/
def relayingSteps : List Step :=
  let receiver : Expr := .apply (.frame .receiver) []
  let form : ClassForm Expr := {
    blueprint := {
      name := some "Relay"
      scope := none
      body := {
        members := [
          ⟨.method, .literal (.text "toString"), false,
            some (.apply (.frame .invoke)
              [receiver, .literal (.string "pass")]), [], 0⟩,
          ⟨.method, .literal (.text "pass"), false,
            some (.apply (.host .toKey) [receiver]), [], 1⟩]
        constructor := none } }
    binding := .expression
    limits := ⟨4294967294, 0⟩ }
  [.evaluate (.klass form) (some "made"),
    .evaluate (.apply (.host .construct)
      [.apply (.storage (.variable "made")) []]) none]

/-- The conversion that the two methods go on with is refused in the end. -/
theorem ends_of_hostCall_relaying :
    let before := Program.endState
      (callUntil (fun _ => false) 1) Program.initialState relayingSteps
    let request : HostCall := .invoke ⟨0⟩ (.ofText "pass") []
    request.Within before.heap ∧ before.heap.Confined ∧
      (request.run (callWithin 4294967295 .none)).Ends before := by
  intro before request
  have within : request.Within before.heap := by
    refine ⟨?_, .nil⟩
    show 0 < Store.size _
    decide +kernel
  have functions : before.heap.functions.size = 3 := by decide +kernel
  have confined : before.heap.Confined := by
    rintro ⟨index⟩ held
    have known : index < 3 := functions ▸ held
    obtain rfl | rfl | rfl : index = 0 ∨ index = 1 ∨ index = 2 := by omega
    all_goals exact ⟨by decide +kernel, by decide +kernel⟩
  exact ⟨within, confined,
    ends_of_hostCall (fun _ => false) 1 .none (Nat.le_refl _) within confined⟩

/-- With a limit at the deepest level, a method that calls itself runs
into every bound. -/
theorem stalls_of_selfCalling :
    let request : HostCall := .call ⟨0⟩ .undefined []
    let cell := selfCallingState.heap.function ⟨0⟩
    request.Within selfCallingState.heap ∧ cell.body.isConfined = true ∧
      cell.limits.callDepth = 4294967295 ∧
        ∀ bound, ¬ (request.run (callWithin bound .none)).Ends
          selfCallingState := by
  intro request cell
  have within : request.Within selfCallingState.heap := by
    refine ⟨?_, Value.within_undefined, .nil⟩
    show 0 < selfCallingState.heap.functions.size
    decide +kernel
  refine ⟨within, by decide +kernel, by decide +kernel, fun bound ends => ?_⟩
  have now : Descends [] ⟨⟨0⟩, .undefined, [], 1⟩ selfCallingState :=
    ⟨0, rfl, rfl, rfl⟩
  obtain ⟨-, -, between, -, -, -, stalls⟩ := regress_descends.stalls bound now
  have stalled : request.run (callWithin bound .none) selfCallingState =
      .error .stalled (between.cutOff bound) := stalls .none
  rcases ends with ⟨result, after, ended⟩ | ⟨cause, after, ended⟩
  · rw [stalled] at ended
    cases ended
  · rw [stalled] at ended
    cases ended

end ClassLowering
