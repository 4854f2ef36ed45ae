import ClassLowering.Proofs.InStep.Stopped
import ClassLowering.Proofs.Objects.WithheldEntries

/-!
# Bodies of withheld functions

Whoever gets hold of a function can call it whenever and with what receiver it
likes. Bodies get hold of a constructor, or of the function of a computed key,
only if such a function runs and asks for itself.

So let a withheld function be hidden when its body does not ask for the function
that runs. In a run beside itself, bodies never get hold of hidden functions,
and the run enters them only where the engine calls them.
-/

namespace ClassLowering

/-- Nothing differs, and bodies get hold of no hidden function. -/
def Likeness.hiding (final : Heap) : Likeness :=
  .same (fun value => ∀ function, value = .function function ->
    ¬ final.Hides function)
    (fun function => (final.function function).kind = .constructor)
    fun _ others function same => absurd same (others function)

/-- A run beside itself, as long as its heap becomes a given one. -/
def Following.hiding (final : Heap) : Following (.hiding final) where
  Known _ := True
  Leads := State.EntersOnly final
  Lost state := ¬ state.heap.Extends final
  Cuts _ _ _ := False
  known _ _ := trivial
  trans := .trans
  unrecorded kept same := .quiet kept.heap same
  leaves := .leaving
  enters state entry seen := .entering state (seen entry.function rfl)
  keeps kept lost := fun extended => lost (kept.heap.trans extended)
  makes state cell := by
    by_cases extended : (state.heap.newFunction cell).2.Extends final
    · have same : final.function state.heap.functions.next = cell :=
        (extended.function_eq _ (state.heap.holds_newFunction cell)).trans
          (state.heap.function_newFunction_self cell)
      refine .inr ⟨?_, fun constructs =>
        (congrArg FunctionCell.kind same).trans constructs⟩
      rintro handedOut function ⟨⟩ hidden
      have withheld := hidden.withheld
      rw [same, handedOut] at withheld
      exact Bool.false_ne_true withheld
    · exact .inl extended
  limits := .inl
  goesOn _ := id
  wraps _ := id
  left _ := id
  caught := False.elim

section Constructions

variable {final : Heap} {call : Invoker} {klass : ClassRef} {args : List Value}
  {depth : Depth}
variable {origin between : State}

/-- How a run beside itself ends that is known to end in the given heap. -/
theorem Following.Ends.of_extends
    {α : Type}
    {claim : α -> α -> Prop}
    {before : State}
    {ended other : EStateM.Result Interruption State α}
    (ends : (Following.hiding final).Ends claim before ended other)
    (extended : (Stage.last ended).heap.Extends final) :
    before.EntersOnly final (Stage.last ended) ∧
      (Stage.last ended).Like (.hiding final) (Stage.last ended) := by
  cases ends with
  | @ok _ _ after later leads like =>
      have same : later = after := State.Like.eq like
      subst same
      exact ⟨leads, like⟩
  | @interrupted _ after later leads like =>
      have same : later = after := State.Like.eq like
      subst same
      exact ⟨leads, like⟩
  | lost lost => exact absurd extended lost
  | cut cuts => exact cuts.elim

/-- Leaving what a function results in, or an object instead of it, shows no
hidden function. -/
theorem inStep_constructed (object : ObjectRef) (result other : Value) :
    (Following.hiding final).InStep
      (Agree (Likeness.hiding final).visible result other)
      (pure (if result.isComposite then result
        else .object object) : RunM Value)
      (pure (if other.isComposite then other else .object object))
      (Agree (Likeness.hiding final).visible) :=
  .settled
    { quiet := fun _ => .refl _
      alike := fun _ _ facts like => by
        refine .ok ⟨by rw [facts.1], ?_⟩ like
        split
        · exact facts.2
        · exact Likeness.visible_object _ _ }

/-- A function is called in step, if it is entered in step should it be a hidden
one. -/
theorem ends_call_hiding
    {invocation : Invocation}
    (calls : (Following.hiding final).coupling.Calls call call)
    (leads : origin.EntersOnly final between)
    (like : between.Like (.hiding final) between)
    (receiver : (Likeness.hiding final).visible invocation.receiver)
    (args : (Likeness.hiding final).AllVisible invocation.args)
    (enters : between.heap.Extends final -> final.Hides invocation.function ->
      (Following.hiding final).Ends
        (Agree (Likeness.hiding final).visible) origin
        (call invocation between) (call invocation between)) :
    (Following.hiding final).Ends (Agree (Likeness.hiding final).visible) origin
      (call invocation between) (call invocation between) := by
  by_cases extended : between.heap.Extends final
  · by_cases hidden : final.Hides invocation.function
    · exact enters extended hidden
    · have follows := (calls invocation).follows between between
      refine (follows ⟨?_, receiver, args⟩ like trivial).after leads
      rintro function ⟨⟩
      exact hidden
  · exact .lost
      ((Following.hiding final).keeps
        ((calls invocation).keeps between) extended)

/-- Objects are constructed in step, if hidden constructors are entered in
step at the end. -/
theorem inStep_construct_hiding
    (calls : (Following.hiding final).coupling.Calls call call)
    (enters : ∀ {before between : State}, between.heap.Extends final ->
      between.Like (.hiding final) between ->
        (Likeness.hiding final).AllVisible args ->
        final.Hides (before.heap.klass klass).constructor ->
          ¬ (before.heap.klass klass).limits.callDepth < depth ->
            let made := before.heap.newObject (some klass)
            let start : State := { before with heap := made.2 }
            let construction :=
              (before.heap.klass klass).construction made.1 args (depth + 1)
            DefinesFields call made.1 (depth + 1)
            (before.heap.klass klass).fields start between ->
              start.EntersOnly final between ->
                (Following.hiding final).Ends
                  (Agree (Likeness.hiding final).visible) before
                  (call construction between) (call construction between)) :
    (Following.hiding final).InStep ((Likeness.hiding final).AllVisible args)
      (construct call klass args depth) (construct call klass args depth)
      (Agree (Likeness.hiding final).visible) where
  keeps before :=
    have inStep : (Following.hiding final).coupling.InStep False _ _ _ :=
      inStep_construct False.elim calls klass args depth
    inStep.keeps before
  follows before further visible like _ := by
    obtain rfl : further = before := State.Like.eq like
    let cell := further.heap.klass klass
    let made := further.heap.newObject (some klass)
    let start : State := { further with heap := made.2 }
    have makes : further.EntersOnly final start :=
      .quiet (further.heap.extends_newObject (some klass)) rfl
    by_cases deep : cell.limits.callDepth < depth
    · have refused : construct call klass args depth further =
          .error (.fault (.callDepthExceeded cell.limits.callDepth))
            further := by
        rw [construct, RunM.bind_of_ok (RunM.readHeap_apply _ _), if_pos deep]
        rfl
      rw [refused]
      exact .interrupted (.quiet (.refl _) rfl) like
    have likeStart : start.Like (.hiding final) start :=
      ⟨(like.heap.newObject (some klass)).2, like.session, like.record,
        like.stored⟩
    have fields : (Following.hiding final).coupling.InStep True _ _ _ :=
      inStep_defineFields calls made.1 (depth + 1) cell.fields
        fun _ => (like.heap.shows.klass klass).initializer
    have ends := fields.follows start start trivial likeStart trivial
    have course := fieldsEnd_defineFields call made.1
      (depth + 1) cell.fields start
    rw [construct_of_shallow call args deep]
    generalize ended :
      defineFields call made.1 (depth + 1) cell.fields start = result
      at ends course
    cases course with
    | stopped =>
        rw [RunM.bind_of_error ended]
        cases ends with
        | interrupted leads like => exact .interrupted (makes.trans leads) like
        | lost lost => exact .lost lost
        | cut cuts => exact cuts.elim
    | @defined between defines =>
        rw [RunM.bind_of_ok ended]
        refine Following.Ends.bind ?_ trivial (inStep_constructed made.1)
        cases ends with
        | lost lost =>
            exact .lost ((Following.hiding final).keeps
              ((calls _).keeps between) lost)
        | ok leads like =>
            refine ends_call_hiding calls (makes.trans leads) like
              (Likeness.visible_object _ _) visible fun extended hidden => ?_
            exact enters extended like visible hidden deep defines leads

/-- A class whose object is there in a sound state is one that existed when the
object was made. -/
theorem holds_klass_of_made
    {before between : State}
    (defines : DefinesFields call (before.heap.newObject (some klass)).1 depth
      (before.heap.klass klass).fields
      { before with heap := (before.heap.newObject (some klass)).2 } between)
    (extended : (before.heap.newObject (some klass)).2.Extends between.heap)
    (sound : between.Sound) :
    before.heap.Holds (.klass klass) := by
  let made := before.heap.newObject (some klass)
  have linked : (between.heap.object made.1).klass = some klass := by
    rw [extended.objectClass_eq made.1 (before.heap.holds_newObject _),
      Heap.object_newObject_self]
  have held : between.heap.Holds (.klass klass) :=
    (sound.heap.object made.1).klass klass linked
  by_contra unknown
  -- A class that did not exist declares no fields, so nothing has
  -- happened since.
  have none : (before.heap.klass klass).fields = [] := by
    rw [Heap.klass, Store.get?, Array.getElem?_eq_none (Nat.not_lt.1 unknown)]
    rfl
  rw [none] at defines
  cases defines
  exact unknown held

end Constructions

section Keys

variable {final : Heap} {call : Invoker} {scope : ScopeRef} {limits : Limits}
variable {between : State}

/-- The key of a member is evaluated in step, if a hidden function is entered
in step for it. -/
theorem ends_evaluateKey_hiding
    (calls : (Following.hiding final).coupling.Calls call call)
    (index : Nat)
    (key : MemberKey PropertyKey Expr)
    (like : between.Like (.hiding final) between)
    (enters : ∀ expr, key = .computed expr ->
      let request := KeyRequest.forBody scope limits index expr between
      request.state.heap.Extends final ->
        request.state.Like (.hiding final) request.state ->
        final.Hides request.invocation.function ->
          (Following.hiding final).Ends
            (Agree (Likeness.hiding final).visible) between
            (request.answer call) (request.answer call)) :
    (Following.hiding final).Ends (Agree fun _ => True) between
      (evaluateKey call scope limits key between)
      (evaluateKey call scope limits key between) := by
  cases key with
  | literal key => exact .ok (.quiet (.refl _) rfl) like ⟨rfl, trivial⟩
  | computed expr =>
      let request := KeyRequest.forBody scope limits index expr between
      have likeRequest : request.state.Like (.hiding final) request.state :=
        ⟨(like.heap.newFunction ⟨rfl, rfl, rfl, rfl, rfl, rfl⟩).2, like.session,
          like.record, like.stored⟩
      rw [evaluateKey, RunM.bind_of_ok (RunM.allocate_apply _ _)]
      have converts (value other : Value) :
          (Following.hiding final).coupling.InStep
          (Agree (Likeness.hiding final).visible value other)
          (toKey call value 1) (toKey call other 1) (Agree fun _ => True) :=
        Coupling.replace _ (inStep_toKey calls value 1)
          fun facts => by rw [facts.1]
      have makes : between.EntersOnly final request.state :=
        .quiet (between.heap.extends_newFunction _) rfl
      have called :
          (Following.hiding final).Ends
            (Agree (Likeness.hiding final).visible) between
          (call request.invocation request.state)
          (call request.invocation request.state) :=
        ends_call_hiding calls makes likeRequest
          (Likeness.visible_undefined _) .nil (enters expr rfl · likeRequest)
      exact called.bind trivial converts

/-- Whatever is hidden, evaluating keys keeps what there is. -/
theorem keeps_evaluateKeys
    (calls : (Following.hiding final).coupling.Calls call call)
    (index : Nat)
    (keys : List (MemberKey PropertyKey Expr))
    (before : State) :
    before.Keeps
      (Stage.last (evaluateKeys call scope limits index keys before)) := by
  have inStep : (Following.hiding final).InStep False
      (evaluateKeys call scope limits index keys)
      (evaluateKeys call scope limits index keys) (Agree fun _ => True) :=
    .keys index (List.forall₂_same.2 fun key _ =>
      inStep_evaluateKey False.elim calls scope False.elim False.elim)
  exact inStep.keeps before

/-- Keys are evaluated in step after others, if hidden functions are entered in
step for them. -/
theorem ends_evaluateKeys_hiding
    {written : List (MemberKey PropertyKey Expr)}
    {opened : State}
    (calls : (Following.hiding final).coupling.Calls call call)
    (enters : ∀ {index : Nat} {expr : Expr} {keys : List PropertyKey}
      {middle : State}, written[index]? = some (.computed expr) ->
        evaluateKeys call scope limits 0 (written.take index) opened =
          .ok keys middle ->
          let request := KeyRequest.forBody scope limits index expr middle
          request.state.heap.Extends final ->
            request.state.Like (.hiding final) request.state ->
            final.Hides request.invocation.function ->
              (Following.hiding final).Ends
                (Agree (Likeness.hiding final).visible) middle
                (request.answer call) (request.answer call))
    {done rest : List (MemberKey PropertyKey Expr)}
    {keys : List PropertyKey}
    (split : written = done ++ rest)
    (evaluated : evaluateKeys call scope limits 0 done opened =
      .ok keys between)
    (like : between.Like (.hiding final) between) :
    (Following.hiding final).Ends (Agree fun _ => True) between
      (evaluateKeys call scope limits done.length rest between)
      (evaluateKeys call scope limits done.length rest between) := by
  induction rest generalizing done keys between with
  | nil => exact .ok (.quiet (.refl _) rfl) like ⟨rfl, trivial⟩
  | cons key rest hypothesis =>
      have taken : written.take done.length = done := by
        rw [split, List.take_left]
      have next : written[done.length]? = some key := by
        rw [split, List.getElem?_append_right (le_refl _), Nat.sub_self,
          List.getElem?_cons_zero]
      have first := ends_evaluateKey_hiding calls done.length key like
        fun expr isComputed =>
          enters (isComputed ▸ next) (taken.symm ▸ evaluated)
      rw [evaluateKeys_cons]
      generalize ended : evaluateKey call scope limits key between =
        result at first
      cases first with
      | interrupted leads like => exact .interrupted leads like
      | cut cuts => exact cuts.elim
      | lost lost =>
          refine .lost ?_
          cases result with
          | error interruption after => exact lost
          | ok last middle =>
              have keeps : middle.Keeps
                  (Stage.last (evaluateKeys call scope limits
                    (done.length + 1) rest middle)) :=
                keeps_evaluateKeys calls (done.length + 1) rest middle
              have kept := (Following.hiding final).keeps keeps lost
              dsimp only
              generalize evaluateKeys call scope limits
                (done.length + 1) rest middle = others at kept ⊢
              cases others <;> exact kept
      | @ok last _ middle _ leads like =>
          have further := hypothesis
            (by rw [split, List.append_assoc, List.singleton_append])
            (evaluateKeys_concat evaluated ended) like
          rw [List.length_append, List.length_singleton] at further
          dsimp only
          generalize evaluateKeys call scope limits
            (done.length + 1) rest middle = others at further ⊢
          cases further with
          | ok leadsOn like _ =>
              exact .ok (leads.trans leadsOn) like ⟨rfl, trivial⟩
          | interrupted leadsOn like =>
              exact .interrupted (leads.trans leadsOn) like
          | lost lost =>
              refine .lost ?_
              cases others <;> exact lost
          | cut cuts => exact cuts.elim

end Keys

/-- Keys are evaluated in step in a new scope, if hidden functions are entered
in step for them. -/
theorem inStep_openKeys_hiding
    {final : Heap}
    {call : Caller}
    {given : Prop}
    {limits further : Limits}
    {draft last : ClassDraft}
    (calls : ∀ holding, (Following.hiding final).coupling.Calls (call holding)
      (call holding))
    (holding : Holding)
    (enters : ∀ {before : State} {index : Nat} {expr : Expr} {middle : State},
      ReachesKey call holding limits draft before index expr middle ->
        let scope := (before.heap.openClassScope draft.scope draft.name).1
        let request := KeyRequest.forBody scope limits index expr middle
        request.state.heap.Extends final ->
          request.state.Like (.hiding final) request.state ->
          final.Hides request.invocation.function ->
            (Following.hiding final).Ends
              (Agree (Likeness.hiding final).visible) middle
              (request.answer (call (holding.holdScope scope)))
              (request.answer (call (holding.holdScope scope))))
    (related : given -> (Likeness.hiding final).limits limits further)
    (alike : given -> draft.Like (Likeness.hiding final).body last) :
    (Following.hiding final).InStep given (openKeys call holding limits draft)
      (openKeys call holding further last) (Agree fun _ => True) where
  keeps before :=
    have inStep : (Following.hiding final).coupling.InStep False
        (openKeys call holding limits draft)
        (openKeys call holding limits draft) _ :=
      inStep_openKeys False.elim calls holding False.elim False.elim
    inStep.keeps before
  follows before start facts like _ := by
    obtain rfl : start = before := State.Like.eq like
    obtain rfl : limits = further := related facts
    obtain rfl : last = draft := (alike facts).eq
    let opening := start.heap.openClassScope last.scope last.name
    let opened : State := { start with heap := opening.2 }
    have opens : start.EntersOnly final opened :=
      .quiet (start.heap.extends_openClassScope last.scope last.name) rfl
    have likeOpened : opened.Like (.hiding final) opened :=
      ⟨(like.heap.openClassScope last.scope last.name).2, like.session,
        like.record, like.stored⟩
    have evaluates : (Following.hiding final).Ends (Agree fun _ => True) start
        (evaluateKeys (call (holding.holdScope opening.1)) opening.1 limits 0
          ((ClassBody.inOrder last.body.members).map Member.key) opened)
        (evaluateKeys (call (holding.holdScope opening.1)) opening.1 limits 0
          ((ClassBody.inOrder last.body.members).map Member.key) opened) := by
      refine Following.Ends.after ?_ opens
      refine ends_evaluateKeys_hiding (calls _) ?_
        (List.nil_append _).symm rfl likeOpened
      exact fun isWritten evaluated => enters ⟨isWritten, _, evaluated⟩
    rw [openKeys, RunM.bind_of_ok (RunM.allocate_apply _ _)]
    exact evaluates.bind trivial fun keys others => .settled
      { quiet := fun _ => .refl _
        alike := fun _ _ facts like => .ok ⟨congrArg _ facts.1, trivial⟩ like }

section Functions

variable {final : Heap} {stop : State -> Bool} {klass : ClassRef}
  {args : List Value}
variable {depth : Depth} {bound : Nat} {holding : Holding}
  {before between : State}

/-- A withheld function that does not ask for itself is entered in step where it
may be entered. -/
theorem ends_enterFunction_hiding
    {call : Caller}
    {invocation : Invocation}
    {home : ScopeRef}
    {origin : State}
    (hosts : (Following.hiding final).coupling.Hosts call call)
    (holding : Holding)
    (like : between.Like (.hiding final) between)
    (extended : between.heap.Extends final)
    (held : between.heap.Holds (.function invocation.function))
    (inside : (between.heap.function invocation.function).scope = some home)
    (hidden : final.Hides invocation.function)
    (receiver : (Likeness.hiding final).visible invocation.receiver)
    (args : (Likeness.hiding final).AllVisible invocation.args)
    (leads : origin.EntersOnly final between)
    (enters : origin.EntersOnly final (between.entering invocation.entry)) :
    (Following.hiding final).Ends (Agree (Likeness.hiding final).visible) origin
      (enterFunction call holding invocation between)
      (enterFunction call holding invocation between) := by
  let cell := between.heap.function invocation.function
  have same : final.function invocation.function = cell :=
    extended.function_eq _ held
  have withheld : cell.kind.isWithheld = true := same ▸ hidden.withheld
  have ordinary : cell.kind ≠ .generator := by
    intro generator
    rw [generator] at withheld
    exact nomatch withheld
  rw [enterFunction_of_home inside]
  split
  · exact .interrupted leads like
  · let frame := invocation.frame cell home
    let context : Context :=
      ⟨some frame,
        (holding.hold (invocation.receiver :: invocation.args)).holdScope home⟩
    have evaluates : (Following.hiding final).coupling.InStep True
        (evaluate call context cell.body)
        (evaluate call (context.withYieldLimit frame.yieldLimit) cell.body)
        (Agree (Likeness.hiding final).visible) := by
      refine inStep_evaluate hosts cell.body (fun _ => rfl) ?_ fun _ =>
        .inl (same ▸ hidden.avoids)
      rintro - _ ⟨⟩
      refine ⟨receiver, args, ?_⟩
      show Likeness.YieldLimits _ (ite _ _ _) (ite _ _ _)
      rw [if_neg ordinary]
      exact .none
    refine (Following.InStep.enters_from evaluates between between enters
      trivial trivial like).bind trivial fun result other => ?_
    have concludes (result : Value × YieldBuffer) : cell.conclude result =
        pure result.1 := by
      obtain ⟨value, yields⟩ := result
      rw [FunctionCell.conclude, if_neg ordinary]
    rw [concludes, concludes]
    exact .settled
      { quiet := fun _ => .refl _
        alike := fun _ _ facts like =>
          .ok ⟨congrArg Prod.fst facts.1, facts.2.1⟩ like }

/-- A hidden constructor whose object is there is entered in step, as the end of
its construction. -/
theorem ends_constructor_hiding
    (reached : ∀ state, stop state = false ->
      Program.initialState.Reaches state)
    (hosts : (Following.hiding final).coupling.Hosts (callUntil stop bound)
      (callUntil stop bound))
    (extended : between.heap.Extends final)
    (like : between.Like (.hiding final) between)
    (visible : (Likeness.hiding final).AllVisible args)
    (hidden : final.Hides (before.heap.klass klass).constructor)
    (shallow : ¬ (before.heap.klass klass).limits.callDepth < depth) :
    let made := before.heap.newObject (some klass)
    let start : State := { before with heap := made.2 }
    let construction :=
      (before.heap.klass klass).construction made.1 args (depth + 1)
    DefinesFields (callUntil stop (bound + 1) holding) made.1 (depth + 1)
        (before.heap.klass klass).fields start between ->
      start.EntersOnly final between ->
        (Following.hiding final).Ends
          (Agree (Likeness.hiding final).visible) before
          (callUntil stop (bound + 1) holding construction between)
          (callUntil stop (bound + 1) holding construction between) := by
  intro made start construction defines leads
  have makes := before.heap.extends_newObject (some klass)
  have starts : before.EntersOnly final between :=
    State.EntersOnly.trans
      (.quiet makes rfl : before.EntersOnly final start) leads
  rw [callUntil_apply]
  split
  · exact .interrupted starts like
  next goes =>
    have reaches := reached between (Bool.eq_false_iff.2 goes)
    have sound := reaches.sound Program.sound_initialState
    have held := holds_klass_of_made defines leads.heap sound
    have sameKlass := starts.heap.klass_eq klass held
    have soundKlass := sound.heap.klass klass (starts.heap.holds _ held)
    have own : construction.function ∈
        (between.heap.klass klass).functions := by
      rw [sameKlass]
      exact List.mem_cons_self
    have kind : (final.function construction.function).kind = .constructor := by
      have known := like.heap.constructors klass (starts.heap.holds _ held)
      rw [sameKlass] at known
      exact known
    have constructs :
        ReachesConstructor (callWithin (bound + 1) holding) klass args
          depth before
        between := by
      have defined := defines.imp callWithin_of_callUntil
      refine ⟨held, defined, starts.heap, ?_⟩
      exact (construct_of_shallow _ args shallow).trans
        (RunM.bind_of_ok defined.defineFields_eq)
    refine ends_enterFunction_hiding hosts holding like extended
      (soundKlass.holdsBounded own).1
      (soundKlass.home _ own) hidden
      (Likeness.visible_object _ _) visible starts ?_
    refine .withheld leads makes rfl (Nat.lt_irrefl _)
      (before.heap.holds_newObject _) ?_
    exact kind ▸ .constructor (.of constructs reaches rfl)

/-- The hidden function of a key is entered in step when an elaboration
reaches the key. -/
theorem ends_key_hiding
    {limits : Limits}
    {draft : ClassDraft}
    {index : Nat}
    {expr : Expr}
    {middle : State}
    (reached : ∀ state, stop state = false ->
      Program.initialState.Reaches state)
    (hosts : (Following.hiding final).coupling.Hosts (callUntil stop bound)
      (callUntil stop bound))
    (reaches : ReachesKey (callUntil stop (bound + 1)) holding limits draft
      before index expr middle) :
    let scope := (before.heap.openClassScope draft.scope draft.name).1
    let request := KeyRequest.forBody scope limits index expr middle
    request.state.heap.Extends final ->
      request.state.Like (.hiding final) request.state ->
      final.Hides request.invocation.function ->
        (Following.hiding final).Ends
          (Agree (Likeness.hiding final).visible) middle
          (request.answer
            (callUntil stop (bound + 1) (holding.holdScope scope)))
          (request.answer
            (callUntil stop (bound + 1) (holding.holdScope scope))) := by
  intro scope request extended like hidden
  let cell : FunctionCell := ⟨"", .computedKey, [], expr, some scope, limits⟩
  have makes := middle.heap.extends_newFunction cell
  have held := middle.heap.holds_newFunction cell
  have same : request.state.heap.function request.invocation.function = cell :=
    middle.heap.function_newFunction_self cell
  have kind : (final.function request.invocation.function).kind =
      .computedKey := by
    exact congrArg FunctionCell.kind ((extended.function_eq _ held).trans same)
  have leads : middle.EntersOnly final request.state := .quiet makes rfl
  unfold KeyRequest.answer
  rw [callUntil_apply]
  split
  · exact .interrupted leads like
  next goes =>
    refine ends_enterFunction_hiding hosts _ like extended held
      (congrArg FunctionCell.scope same)
      hidden (Likeness.visible_undefined _) .nil leads ?_
    have stays : request.state.EntersOnly final request.state :=
      .quiet (.refl _) rfl
    refine .withheld stays makes rfl (Nat.lt_irrefl _) held ?_
    exact kind ▸ .key
      (reaches.evaluatesKey (reached _ (Bool.eq_false_iff.2 goes)))

/-- Functions that are stopped outside of the states that are reached run in
step with themselves. -/
theorem hosts_callUntil_hiding
    (reached : ∀ state, stop state = false ->
      Program.initialState.Reaches state)
    (bound : Nat) :
    (Following.hiding final).coupling.Hosts (callUntil stop bound)
      (callUntil stop bound) := by
  induction bound with
  | zero =>
      have stalls (holding : Holding) : (Following.hiding final).coupling.Calls
          (callUntil stop 0 holding) (callUntil stop 0 holding) :=
        fun _ => (Following.hiding final).coupling.stall
      refine ⟨fun holding => ⟨stalls holding, fun klass args depth =>
        inStep_construct_hiding (stalls holding) ?_⟩, fun holding =>
          inStep_openKeys_hiding stalls holding ?_⟩
      · intro before between _ like _ _ _ made start construction _ leads
        have makes : before.EntersOnly final start :=
          .quiet (before.heap.extends_newObject (some klass)) rfl
        exact .interrupted (makes.trans leads) like
      · intro before index expr middle _ scope request _ like _
        exact .interrupted (.quiet (middle.heap.extends_newFunction _) rfl) like
  | succ bound hypothesis =>
      have calls (holding : Holding) : (Following.hiding final).coupling.Calls
          (callUntil stop (bound + 1) holding)
          (callUntil stop (bound + 1) holding) := by
        intro invocation
        have enters := calls_enterFunction hypothesis holding invocation
        constructor
        · intro before
          rw [callUntil_apply]
          split
          · exact .refl _
          · exact enters.keeps before
        · intro before further facts like known
          obtain rfl : further = before := State.Like.eq like
          rw [callUntil_apply]
          split
          · exact .interrupted (.quiet (.refl _) rfl) like
          · exact enters.follows further further facts like known
      exact ⟨fun holding => ⟨calls holding, fun klass args depth =>
        inStep_construct_hiding (calls holding)
            fun extended like visible hidden shallow =>
          ends_constructor_hiding reached hypothesis extended like visible
            hidden shallow⟩,
        fun holding => inStep_openKeys_hiding calls holding
          (ends_key_hiding reached hypothesis)⟩

end Functions

/-- A step enters hidden functions as it should, if its heap becomes the given
one. -/
theorem Step.entersOnly_run
    {final : Heap}
    {stop : State -> Bool}
    {before : State}
    (reached : ∀ state, stop state = false ->
      Program.initialState.Reaches state)
    (bound : Nat)
    (step : Step)
    (like : before.Like (.hiding final) before)
    (extended : (step.run (callUntil stop bound) before).2.heap.Extends final) :
    before.EntersOnly final (step.run (callUntil stop bound) before).2 ∧
      State.Like (.hiding final) (step.run (callUntil stop bound) before).2
        (step.run (callUntil stop bound) before).2 := by
  let fresh : State :=
    { before with session := { before.session with log := [] } }
  have starts : before.EntersOnly final fresh := .quiet (.refl _) rfl
  have likeFresh : fresh.Like (.hiding final) fresh :=
    ⟨like.heap, rfl, rfl, like.stored⟩
  have acts :
      (Following.hiding final).coupling.InStep True
        (step.act (callUntil stop bound))
      (step.act (callUntil stop bound)) _ :=
    inStep_act (hosts_callUntil_hiding reached bound) (.refl step)
  have ends := (Following.InStep.start acts).follows fresh fresh trivial
    likeFresh trivial
  have unfolded : (step.run (callUntil stop bound) before).2 =
      (Step.conclude (BodyM.start (step.act (callUntil stop bound)) fresh)).2 :=
        rfl
  rw [unfolded] at extended ⊢
  generalize BodyM.start (step.act (callUntil stop bound)) fresh =
    ended at ends extended
  rcases ended with ⟨result, after⟩ | ⟨cause | _, after⟩
  · have known := ends.of_extends extended
    exact ⟨starts.trans known.1, known.2⟩
  · -- The fault is shown at the end, for which nothing is entered.
    have shows : (Following.hiding final).coupling.InStep True (showFault cause)
        (showFault cause) (Agree fun _ => True) := inStep_showFault cause
    have kept := shows.keeps after
    have showing := shows.follows after after trivial
    unfold Step.conclude at extended ⊢
    dsimp only at extended ⊢
    generalize showFault cause after = shown at kept showing extended
    have last : (Stage.last shown).heap.Extends final := by
      cases shown <;> exact extended
    have known := ends.of_extends (kept.heap.trans last)
    have ended := (showing known.2 trivial).of_extends last
    cases shown <;> exact ⟨starts.trans (known.1.trans ended.1), ended.2⟩
  · have known := ends.of_extends extended
    exact ⟨starts.trans known.1, known.2⟩

namespace Program

/-- A program enters hidden functions as it should, if its heap becomes
the given one. -/
theorem entersOnly_endState
    {final : Heap}
    {stop : State -> Bool}
    {before : State}
    (reached : ∀ state, stop state = false -> initialState.Reaches state)
    (bound : Nat)
    (steps : List Step)
    (sound : before.Sound)
    (like : before.Like (.hiding final) before)
    (extended : (endState (callUntil stop bound) before steps).heap.Extends
      final) :
    before.EntersOnly final (endState (callUntil stop bound) before steps) ∧
      State.Like (.hiding final) (endState (callUntil stop bound) before steps)
        (endState (callUntil stop bound) before steps) := by
  induction steps generalizing before with
  | nil => exact ⟨.quiet (.refl _) rfl, like⟩
  | cons step rest hypothesis =>
      have soundNext : (step.run (callUntil stop bound) before).2.Sound :=
        sound_endState stop bound [step] sound
      have rests := (moves_endState stop bound rest soundNext).path.extension
      obtain ⟨first, likeNext⟩ :=
        step.entersOnly_run reached bound like (rests.trans extended)
      obtain ⟨further, likeLast⟩ := hypothesis soundNext likeNext extended
      exact ⟨first.trans further, likeLast⟩

/-- A program enters the functions that are hidden when it ends as it should. -/
theorem entersOnly_last
    (bound : Nat)
    (steps : List Step) :
    let last := endState (callWithin bound) initialState steps
    initialState.EntersOnly last.heap last ∧
      last.Like (.hiding last.heap) last := by
  classical
  intro last
  -- Every state in which a body is entered is reached, and so the run may as
  -- well stop elsewhere.
  let stop (state : State) : Bool := !decide (initialState.Reaches state)
  have reached (state : State) (goes : stop state = false) :
      initialState.Reaches state := by
    simpa [stop] using goes
  have never (state : State) (reaches : initialState.Reaches state) :
      stop state = false := by
    simpa [stop] using reaches
  have same : endState (callUntil stop bound) initialState steps = last :=
    endState_callUntil bound steps never .refl
  have known := @entersOnly_endState last.heap stop initialState
    reached bound steps sound_initialState (like_initialState _)
  rw [same] at known
  exact known (.refl _)

end Program

end ClassLowering
