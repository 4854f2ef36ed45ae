import ClassLowering.Proofs.Heap.Fields
import ClassLowering.Proofs.Runs.Moments

/-!
# Deliveries of generators

A generator is used in three ways: it is asked for its next value, it is
drained, and it is asked whether it is exhausted. In whatever order it is used,
and whatever happens in between, the values that it hands out are those that its
body yielded, each of them once and in order. The completion of the body is
handed out once, by the first answer that comes behind all values, and draining
leaves it alone.

A history tells how one generator was used between two heaps. What is told of a
history is an invariant of the generator, kept by each of the three uses, and
every run has a history.
-/

namespace ClassLowering

/-- One use of a generator, and what it answered. -/
inductive GeneratorUse
  | answered (delivery : Delivery)
  | drained (values : List Value)
  | looked (isExhausted : Bool)
  deriving DecidableEq

namespace GeneratorUse

/-- The values that one use hands out. -/
def values : GeneratorUse -> List Value
  | .answered ⟨value, false⟩ => [value]
  | .answered ⟨_, true⟩ => []
  | .drained values => values
  | .looked _ => []

/-- Whether a use answers that the generator is done. -/
def tellsDone : GeneratorUse -> Bool
  | .answered delivery => delivery.isDone
  | _ => false

end GeneratorUse

/-- The values that some uses hand out, in the order of the uses. -/
def delivered (uses : List GeneratorUse) : List Value :=
  uses.flatMap GeneratorUse.values

@[simp] theorem delivered_append (earlier later : List GeneratorUse) :
    delivered (earlier ++ later) = delivered earlier ++ delivered later :=
  List.flatMap_append

@[simp] theorem delivered_singleton
    (use : GeneratorUse) :
    delivered [use] = use.values := by
  simp [delivered]

/--
What a use may answer behind earlier ones, when a body yielded some values and
ended with a completion. An answer is done behind all values, and only there;
the first one that is done has the completion, and all others have `undefined`.
What is drained is all that is left.
-/
def GeneratorUse.Fits (yields : List Value) (completion : Value)
    (earlier : List GeneratorUse) :
    GeneratorUse -> Prop
  | .answered delivery =>
      (delivery.isDone = true ↔ delivered earlier = yields) ∧
        (delivery.isDone = true -> delivery.value =
          if earlier.any GeneratorUse.tellsDone then .undefined else completion)
  | .drained values => delivered earlier ++ values = yields
  | .looked isExhausted => isExhausted = true ↔ delivered earlier = yields

namespace GeneratorCell

/-- A generator has been used in some ways since its body yielded values and
ended. -/
structure Served (cell : GeneratorCell) (yields : List Value)
    (completion : Value) (uses : List GeneratorUse) : Prop where
  /-- No value is lost, repeated or moved. -/
  pending : delivered uses ++ cell.pending = yields
  /-- The completion stays until an answer says that the generator is done. -/
  completion_eq :
    cell.completion = if uses.any GeneratorUse.tellsDone then none
      else some completion
  /-- Every use answered what fits behind those before it. -/
  fits : ∀ earlier use later, uses = earlier ++ use :: later ->
    use.Fits yields completion earlier

variable {cell : GeneratorCell} {yields : List Value} {completion : Value}
variable {uses : List GeneratorUse}

/-- A generator that was not used yet has all values and the completion. -/
theorem served_new (yields : List Value) (completion : Value) :
    (⟨yields, some completion⟩ : GeneratorCell).Served yields
      completion [] where
  pending := rfl
  completion_eq := rfl
  fits earlier use later same := by simp at same

namespace Served

/-- One more use fits behind those that fit. -/
theorem fits_concat
    {use : GeneratorUse}
    (served : cell.Served yields completion uses)
    (fit : use.Fits yields completion uses) :
    ∀ earlier other later, uses ++ [use] = earlier ++ other :: later ->
      other.Fits yields completion earlier := by
  intro earlier other later same
  rcases List.eq_nil_or_concat later with rfl | ⟨between, last, rfl⟩
  · obtain ⟨rfl, rfl⟩ := List.append_singleton_inj.1 same
    exact fit
  · rw [List.concat_eq_append, ← List.cons_append, ← List.append_assoc] at same
    exact served.fits earlier other between (List.append_singleton_inj.1 same).1

/-- All values are handed out when none is left. -/
theorem isExhausted_iff (served : cell.Served yields completion uses) :
    cell.isExhausted = true ↔ delivered uses = yields := by
  rw [isExhausted, List.isEmpty_iff, ← served.pending]
  simp

/-- The next answer fits. -/
theorem next (served : cell.Served yields completion uses) :
    cell.next.2.Served yields completion (uses ++ [.answered cell.next.1]) := by
  obtain ⟨pending, kept⟩ := cell
  have left := served.pending
  have completes := served.completion_eq
  cases pending with
  | nil =>
      -- Nothing is left, so the generator is done and gives its
      -- completion away.
      simp only [List.append_nil] at left
      simp only at completes
      refine ⟨by simpa [GeneratorCell.next, GeneratorUse.values] using left,
        by simp [GeneratorCell.next, GeneratorUse.tellsDone], ?_⟩
      apply served.fits_concat
      refine ⟨by simp [GeneratorCell.next, left], fun _ => ?_⟩
      simp only [GeneratorCell.next, completes]
      split <;> rfl
  | cons value rest =>
      refine ⟨by simpa [GeneratorCell.next, GeneratorUse.values] using left,
        by
          simpa [GeneratorCell.next, GeneratorUse.tellsDone]
            using completes, ?_⟩
      apply served.fits_concat
      refine ⟨?_, by simp [GeneratorCell.next]⟩
      simp [GeneratorCell.next, ← left]

/-- What is drained fits. -/
theorem drain (served : cell.Served yields completion uses) :
    cell.drain.2.Served yields completion
      (uses ++ [.drained cell.drain.1]) where
  pending := by
    simpa [GeneratorCell.drain, GeneratorUse.values] using served.pending
  completion_eq := by
    simpa [GeneratorCell.drain, GeneratorUse.tellsDone]
      using served.completion_eq
  fits := served.fits_concat served.pending

/-- What the generator says of itself fits. -/
theorem look (served : cell.Served yields completion uses) :
    cell.Served yields completion (uses ++ [.looked cell.isExhausted]) where
  pending := by simpa [GeneratorUse.values] using served.pending
  completion_eq := by simpa [GeneratorUse.tellsDone] using served.completion_eq
  fits := served.fits_concat served.isExhausted_iff

end Served
end GeneratorCell

namespace Heap

/-- How one generator is used between two heaps, whatever else happens in
between. -/
inductive Uses (ref : GeneratorRef) (first : Heap) :
    List GeneratorUse -> Heap -> Prop
  | refl : Uses ref first [] first
  | next {uses : List GeneratorUse} {heap : Heap} :
      Uses ref first uses heap ->
        Uses ref first (uses ++ [.answered (heap.nextYield ref).1])
          (heap.nextYield ref).2
  | drain {uses : List GeneratorUse} {heap : Heap} :
      Uses ref first uses heap ->
        Uses ref first (uses ++ [.drained (heap.drainYields ref).1])
          (heap.drainYields ref).2
  | look {uses : List GeneratorUse} {heap : Heap} :
      Uses ref first uses heap ->
        Uses ref first (uses ++ [.looked (heap.generator ref).isExhausted]) heap
  | others {uses : List GeneratorUse} {heap later : Heap} :
      Uses ref first uses heap -> heap.Extends later ->
        later.generator ref = heap.generator ref -> Uses ref first uses later

section Histories

variable {ref : GeneratorRef} {first second third : Heap}
  {uses more : List GeneratorUse}

/-- A history goes on with another one. -/
theorem Uses.trans
    (earlier : first.Uses ref uses second)
    (later : second.Uses ref more third) :
    first.Uses ref (uses ++ more) third := by
  induction later with
  | refl => rwa [List.append_nil]
  | next _ hypothesis => exact List.append_assoc .. ▸ hypothesis.next
  | drain _ hypothesis => exact List.append_assoc .. ▸ hypothesis.drain
  | look _ hypothesis => exact List.append_assoc .. ▸ hypothesis.look
  | others _ extends_ same hypothesis => exact hypothesis.others extends_ same

/-- A generator is replaced by what is left of it. -/
theorem generator_set
    (heap : Heap)
    (ref : GeneratorRef)
    {cell : GeneratorCell}
    (held : heap.Holds (.generator ref)) :
    generator { heap with generators := heap.generators.set ref cell }
      ref = cell := by
  have bound : ref.index < heap.generators.cells.size := held
  simp [generator, Store.set, Store.get?, bound]

/-- A generator stays as it is when another one is replaced. -/
theorem generator_set_of_ne
    (heap : Heap)
    {other : GeneratorRef}
    {cell : GeneratorCell}
    (different : ref ≠ other) :
    generator { heap with generators := heap.generators.set other cell } ref =
      heap.generator ref := by
  rw [generator, Store.get?_set_of_ne _ _ different, generator]

/-- A generator stays as it is when a new one is made. -/
theorem generator_newGenerator
    {heap : Heap}
    (held : heap.Holds (.generator ref))
    (yields : List Value)
    (completion : Value) :
    (heap.newGenerator yields completion).2.generator ref =
      heap.generator ref := by
  rw [newGenerator, generator, Store.get?_push_of_lt _ _ held, generator]

/-- A new generator has all values and its completion. -/
theorem generator_newGenerator_self
    (heap : Heap)
    (yields : List Value)
    (completion : Value) :
    (heap.newGenerator yields completion).2.generator
      (heap.newGenerator yields completion).1 = ⟨yields, some completion⟩ := by
  simp [generator, newGenerator]

/-- A generator that a heap holds is held along its history. -/
theorem Uses.holds
    (history : first.Uses ref uses second)
    (held : first.Holds (.generator ref)) :
    second.Holds (.generator ref) := by
  induction history with
  | refl => exact held
  | next _ hypothesis => exact (extends_nextYield _ ref).holds _ hypothesis
  | drain _ hypothesis => exact (extends_drainYields _ ref).holds _ hypothesis
  | look _ hypothesis => exact hypothesis
  | others _ extension _ hypothesis => exact extension.holds _ hypothesis

/-- What is told of a history is told of the generator that was used. -/
theorem Uses.served
    {yields : List Value}
    {completion : Value}
    (history : first.Uses ref uses second)
    (held : first.Holds (.generator ref))
    (new : first.generator ref = ⟨yields, some completion⟩) :
    (second.generator ref).Served yields completion uses := by
  induction history with
  | refl => exact new ▸ GeneratorCell.served_new yields completion
  | next earlier hypothesis =>
      rw [nextYield, generator_set _ ref (earlier.holds held)]
      exact hypothesis.next
  | drain earlier hypothesis =>
      rw [drainYields, generator_set _ ref (earlier.holds held)]
      exact hypothesis.drain
  | look _ hypothesis => exact hypothesis.look
  | others _ _ same hypothesis => exact same ▸ hypothesis

/-- A step uses a generator or leaves it as it is. -/
theorem Step.exists_uses
    {makes : FunctionCell -> Prop}
    {heap later : Heap}
    (step : Step makes heap later)
    (held : heap.Holds (.generator ref)) :
    ∃ uses, heap.Uses ref uses later := by
  have extension := step.extension
  have unused (same : later.generator ref = heap.generator ref) : ∃ uses,
      heap.Uses ref uses later :=
    ⟨[], .others .refl extension same⟩
  cases step with
  | next other =>
      by_cases own : ref = other
      · subst own
        exact ⟨_, .next .refl⟩
      · exact unused (generator_set_of_ne heap own)
  | drain other =>
      by_cases own : ref = other
      · subst own
        exact ⟨_, .drain .refl⟩
      · exact unused (generator_set_of_ne heap own)
  | generator yields completion within completes =>
      exact unused (generator_newGenerator held yields completion)
  | assign owner name value later within assigned =>
      obtain ⟨owner, binding, -, -, -, rfl⟩ := assign_eq_ok assigned
      exact unused rfl
  | classScope outer internalName known =>
      exact unused (by cases internalName <;> rfl)
  | _ => exact unused rfl

/-- Along a path a generator has a history. -/
theorem Path.exists_uses
    {makes : FunctionCell -> Prop}
    {heap later : Heap}
    (path : Path makes heap later)
    (held : heap.Holds (.generator ref)) :
    ∃ uses, heap.Uses ref uses later := by
  induction path with
  | refl heap => exact ⟨[], .refl⟩
  | tail earlier step hypothesis =>
      obtain ⟨uses, history⟩ := hypothesis held
      obtain ⟨more, continues⟩ := step.exists_uses (history.holds held)
      exact ⟨uses ++ more, history.trans continues⟩
  | @elaboration _ outside inside outer cell _ _ _ _ _ earlier inner =>
      obtain ⟨uses, history⟩ := earlier held
      have opens := outside.extends_openClassScope outer cell.internalName
      have opened :
          (outside.openClassScope outer cell.internalName).2.generator ref =
          outside.generator ref := by cases cell.internalName <;> rfl
      have begun := history.others opens opened
      obtain ⟨more, continues⟩ := inner (begun.holds held)
      have finished : (inside.finishClass cell).2.generator ref =
          inside.generator ref := by
        unfold finishClass bindSelf
        cases cell.internalName <;> rfl
      exact ⟨uses ++ more, (begun.trans continues).others
        (extends_finishClass inside cell) finished⟩

end Histories
end Heap

/-- A generator function that returns has run its body and kept its yields and
its completion. -/
theorem generator_of_enterFunction
    {call : Caller}
    {holding : Holding}
    {invocation : Invocation}
    {before after : State}
    {value : Value}
    (isGenerator : (before.heap.function invocation.function).kind = .generator)
    (ended : enterFunction call holding invocation before = .ok value after) :
    ∃ context start completion yields between,
      runInFrame call context invocation.entry
          (before.heap.function invocation.function).body
          start = .ok (completion, yields) between ∧
        value =
          .generator (between.heap.newGenerator yields.values completion).1 ∧
        after = { between with
          heap := (between.heap.newGenerator yields.values completion).2 } := by
  rw [enterFunction, RunM.bind_of_ok (RunM.readHeap_apply _ _)] at ended
  split at ended
  · cases ended
  · obtain ⟨scope, start, -, ran⟩ := RunM.bind_eq_ok_iff.1 ended
    obtain ⟨⟨completion, yields⟩, between, body, concluded⟩ :=
      RunM.bind_eq_ok_iff.1 ran
    refine ⟨_, start, completion, yields, between, body, ?_⟩
    simp only [isGenerator] at concluded
    cases concluded
    exact ⟨rfl, rfl⟩

/--
A call of a generator function that returns hands over a new generator. Every
run after it uses this generator in some way, with anything else in between, and
in whatever way it is used, it hands out what its body yielded, in order, and
then what its body ended with, once.
-/
theorem deliveries_of_enterFunction
    {stop : State -> Bool}
    {bound : Nat}
    {holding : Holding}
    {invocation : Invocation}
    {before after : State}
    {value : Value}
    (reached : Program.initialState.Reaches before)
    (within : invocation.Within before.heap)
    (isGenerator : (before.heap.function invocation.function).kind = .generator)
    (ended : enterFunction (callUntil stop bound) holding invocation before =
      .ok value after) :
    ∃ context start completion yields between ref,
      runInFrame (callUntil stop bound) context invocation.entry
          (before.heap.function invocation.function).body start =
            .ok (completion, yields) between ∧
        value = .generator ref ∧ ¬between.heap.Holds (.generator ref) ∧
          after.heap.Holds (.generator ref) ∧ ∀ now, after.Reaches now ->
            (∃ uses, after.heap.Uses ref uses now.heap) ∧
              ∀ uses, after.heap.Uses ref uses now.heap ->
                delivered uses <+: yields.values ∧
                  (now.heap.generator ref).Served yields.values
                    completion uses ∧
                    ((now.heap.generator ref).isExhausted = true ↔
                      delivered uses = yields.values) := by
  have sound := reached.sound Program.sound_initialState
  have runs := serves_enterFunction (serves_callUntil stop bound)
    (fun _ _ => True) holding
    invocation before sound within (Demand.total_asking _ _)
  unfold Progress.Runs at runs
  rw [ended] at runs
  have soundAfter : after.Sound := (Progress.moves _ runs.1).sound sound
  obtain ⟨context, start, completion, yields, between, body, rfl, rfl⟩ :=
    generator_of_enterFunction isGenerator ended
  have held := between.heap.holds_newGenerator yields.values completion
  refine ⟨context, start, completion, yields, between, _, body, rfl,
    Nat.lt_irrefl _, held, ?_⟩
  intro now reaches
  refine ⟨(reaches.moves soundAfter).path.exists_uses held,
    fun uses history => ?_⟩
  have served := history.served held
    (between.heap.generator_newGenerator_self _ completion)
  exact ⟨⟨_, served.pending⟩, served, served.isExhausted_iff⟩

/-- A class with a generator that yields two texts and ends with a third one. -/
def yieldingSteps : List Step :=
  let yields (text : String) : Expr :=
    .apply (.frame .yield) [.literal (.string text)]
  let body : Expr :=
    .sequence [yields "first", yields "second", .literal (.string "end")]
  let form : ClassForm Expr := {
    blueprint := {
      name := some "Yielding"
      scope := none
      body :=
        ⟨[⟨.method, .literal (.text "both"), true, some body, [], 0⟩], none⟩ }
    binding := .expression
    limits := ⟨1, 2⟩ }
  [.evaluate (.klass form) none]

/-- The generator is asked once, drained, and asked twice more. -/
theorem deliveries_of_enterFunction_yieldingSteps :
    let before := Program.endState
      (callUntil (fun _ => false) 0) Program.initialState yieldingSteps
    let called := enterFunction (callUntil (fun _ => false) 0) .none
      ⟨⟨0⟩, .null, [], 1⟩ before
    let first := (RunM.lastState called).heap.nextYield ⟨0⟩
    let rest := first.2.drainYields ⟨0⟩
    let last := rest.2.nextYield ⟨0⟩
    let beyond := last.2.nextYield ⟨0⟩
    let uses : List GeneratorUse := [.answered first.1, .drained rest.1,
      .looked (rest.2.generator ⟨0⟩).isExhausted, .answered last.1,
      .answered beyond.1]
    uses = [.answered ⟨.string "first", false⟩, .drained [.string "second"],
        .looked true,
        .answered ⟨.string "end", true⟩, .answered ⟨.undefined, true⟩] ∧
      delivered uses <+: [.string "first", .string "second"] ∧
        (beyond.2.generator ⟨0⟩).Served [.string "first", .string "second"]
          (.string "end") uses := by
  intro before called first rest last beyond uses
  refine ⟨by decide +kernel, ?_⟩
  have within : Invocation.Within before.heap ⟨⟨0⟩, .null, [], 1⟩ :=
    ⟨by show 0 < Store.size _; decide +kernel, Value.within_null, .nil⟩
  have isGenerator : (before.heap.function ⟨0⟩).kind = .generator := by
    decide +kernel
  have isNew : (RunM.lastState called).heap.generator ⟨0⟩ =
      ⟨[.string "first", .string "second"], some (.string "end")⟩ := by
        decide +kernel
  have single : (RunM.lastState called).heap.generators.size = 1 := by
    decide +kernel
  have endsWell :
      RunM.endsWell (enterFunction (callUntil (fun _ => false) 0) .none
        ⟨⟨0⟩, .null, [], 1⟩) before = true := by decide +kernel
  obtain ⟨value, after, ended⟩ := RunM.exists_of_endsWell endsWell
  obtain ⟨-, -, completion, yields, -, ref, -, -, -, held, serves⟩ :=
    deliveries_of_enterFunction
      (Program.reaches_endState _ 0 yieldingSteps .refl) within
      isGenerator ended
  have same : RunM.lastState called = after := congrArg RunM.lastState ended
  clear_value called
  subst same
  obtain rfl : ref = ⟨0⟩ := by
    have bound : ref.index < 1 := single ▸ held
    exact congrArg Ref.mk (Nat.lt_one_iff.1 bound)
  -- What the generator has at first are the yields and the completion of its
  -- body.
  have new := ((serves _ .refl).2 [] .refl).2.1
  rw [isNew] at new
  obtain rfl : completion = .string "end" := by
    simpa using new.completion_eq.symm
  have path : (RunM.lastState called).heap.Path (fun _ => True) beyond.2 :=
    .tail (.tail (.tail (.single (.next ⟨0⟩)) (.drain ⟨0⟩)) (.next ⟨0⟩))
      (.next ⟨0⟩)
  have history : (RunM.lastState called).heap.Uses ⟨0⟩ uses beyond.2 :=
    .next (.next (.look (.drain (.next .refl))))
  clear_value uses beyond
  obtain ⟨inOrder, served, -⟩ :=
    (serves _ (.move .refl (.of_path path))).2 uses history
  rw [← new.pending] at inOrder served
  exact ⟨inOrder, served⟩

end ClassLowering
