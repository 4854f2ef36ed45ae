import ClassLowering.Proofs.Elaboration.Soundness
import ClassLowering.Proofs.Runs.Properties

/-!
# Runs of elaborations

An elaboration asks for the bodies of computed keys at the first depth and for
conversions of their values one level deeper. It asks for nothing else, and it
makes progress whichever key faults.
-/

namespace ClassLowering

/-- The bodies of computed keys may be asked for at the first depth. -/
def Demand.CoversKeys (demand : Demand) : Prop :=
  ∀ heap invocation, invocation.depth = 1 ->
    (heap.function invocation.function).kind = .computedKey ->
      demand heap invocation

/-- A demand that covers the first depth covers computed keys. -/
theorem Demand.Covers.keys
    {demand : Demand}
    (covers : demand.Covers 1) :
    demand.CoversKeys :=
  fun heap invocation atFirst _ => covers heap invocation atFirst

section Elaboration

variable {progress : Progress} {demand : Demand} {before : State}
  {limits : Limits}

/-- Evaluating a key makes progress. -/
theorem runs_evaluateKey
    {call : Invoker}
    {scope : ScopeRef}
    (key : MemberKey PropertyKey Expr)
    (serves : progress.Serves demand call)
    (total : ∀ cell, progress.Makes cell)
    (keys : demand.CoversKeys)
    (conversions : demand.Covers 2)
    (sound : before.Sound)
    (held : before.heap.Holds (.scope scope)) :
    progress.Runs (evaluateKey call scope limits key) before
      fun _ _ => True := by
  cases key with
  | literal key => exact .pure trivial
  | computed body =>
      let cell : FunctionCell :=
        ⟨"", .computedKey, [], body, some scope, limits⟩
      have step :
          before.heap.Step progress.Makes (before.heap.newFunction cell).2 := by
        refine .function cell (total cell) ?_
        rintro home ⟨⟩
        exact held
      have soundMade := sound.along (.single step)
      refine .allocate_bind (.single step) ?_
      have own :=
        serves ⟨(before.heap.newFunction cell).1, .undefined, [], 1⟩ _ soundMade
        ⟨before.heap.holds_newFunction cell, Value.within_undefined, .nil⟩
        (keys _ _ rfl (by rw [before.heap.function_newFunction_self]))
      refine .bind soundMade own ?_
      intro value between soundBetween _ known
      exact runs_toKey serves conversions soundBetween known

/-- Evaluating keys makes progress. -/
theorem runs_evaluateKeys
    {call : Invoker}
    {scope : ScopeRef}
    (index : Nat)
    (written : List (MemberKey PropertyKey Expr))
    (serves : progress.Serves demand call)
    (total : ∀ cell, progress.Makes cell)
    (keys : demand.CoversKeys)
    (conversions : demand.Covers 2)
    (sound : before.Sound)
    (held : before.heap.Holds (.scope scope)) :
    progress.Runs (evaluateKeys call scope limits index written) before
      fun evaluated _ => evaluated.length = written.length := by
  induction written generalizing index before with
  | nil => exact .pure rfl
  | cons key rest hypothesis =>
      refine .bind sound
        (.mapFault _
          (runs_evaluateKey key serves total keys conversions sound held)) ?_
      intro first between soundBetween extension _
      refine .bind soundBetween
        (hypothesis (index + 1) soundBetween (extension.holds _ held)) ?_
      intro others after _ _ lengths
      exact .pure (congrArg Nat.succ lengths)

/-- Elaborating a class makes progress. -/
theorem runs_elaborate
    {call : Caller}
    {holding : Holding}
    {draft : ClassDraft}
    (hint : Option String)
    (total : ∀ cell, progress.Makes cell)
    (serves : ∀ holding, progress.Serves demand (call holding))
    (keys : demand.CoversKeys)
    (conversions : demand.Covers 2)
    (sound : before.Sound)
    (held : before.heap.Holds (.scope draft.scope)) :
    progress.Runs (elaborate call holding limits hint draft) before
      fun klass after => after.heap.Holds (.klass klass) := by
  let members := ClassBody.inOrder draft.body.members
  let opening := before.heap.openClassScope draft.scope draft.name
  let opened : State := { before with heap := opening.2 }
  have path : before.heap.Path progress.Makes opening.2 :=
    .single (.classScope draft.scope draft.name held)
  have opens : progress.Leads before opened :=
    progress.quiet (.of_path path) rfl
  have heldScope := before.heap.holds_openClassScope draft.scope draft.name
  have runs :
      progress.Runs
        (evaluateKeys (call (holding.holdScope opening.1)) opening.1 limits 0
          (members.map Member.key)) opened fun evaluated _ =>
        evaluated.length = _ :=
    runs_evaluateKeys 0 _ (serves _) total keys conversions
      (sound.along path) heldScope
  unfold Progress.Runs at runs ⊢
  rw [elaborate_apply]
  cases evaluates :
      evaluateKeys (call (holding.holdScope opening.1)) opening.1 limits 0
      (members.map Member.key) opened with
  | error interruption after =>
      rw [evaluates] at runs
      exact ⟨progress.trans opens runs.1, fun stalled =>
        progress.stalls opens (runs.2 stalled)⟩
  | ok evaluated between =>
      rw [evaluates] at runs
      obtain ⟨leads, -⟩ := runs
      cases fault :
        declarationFault? ((members.map Member.kind).zip evaluated) with
      | some cause =>
          dsimp only
          rw [fault]
          exact ⟨progress.trans opens leads, nofun⟩
      | none =>
          have moves := progress.moves leads
          obtain ⟨inside, cell, assembled, assembles, -, fits, scope,
              internalName⟩ :=
            assembleClass_finishes progress.Makes total limits draft.name hint
              draft.body.constructor
              (moves.path.extension.holds _ heldScope) fault
          have finishes :
              before.heap.Path progress.Makes (inside.finishClass cell).2 := by
            refine .elaboration draft.scope cell (.refl _) held ?_ ?_ fits
            · rw [scope, internalName]
            · rw [internalName]
              exact (moves.path.mono fun cell _ => total cell).trans assembles
          have extension := assembles.extension.trans
            (inside.extends_finishClass cell)
          have settles : before.Moves progress.Makes
              { between with heap := (inside.finishClass cell).2 } := by
            refine ⟨finishes, fun soundSession => ?_⟩
            exact (moves.session (soundSession.mono path.extension)).mono
              extension
          dsimp only
          rw [fault, assembled]
          refine ⟨progress.goesOn (progress.trans opens leads) settles
            extension rfl, ?_⟩
          exact (Heap.extends_bindSelf _ _ _ _).holds _
            (inside.holds_newClass cell)

/-- Every way of elaborating a class makes progress. -/
theorem runs_elaborateAs
    {call : Caller}
    {holding : Holding}
    {draft : ClassDraft}
    (binding : ClassBinding)
    (total : ∀ cell, progress.Makes cell)
    (serves : ∀ holding, progress.Serves demand (call holding))
    (keys : demand.CoversKeys)
    (conversions : demand.Covers 2)
    (sound : before.Sound)
    (held : before.heap.Holds (.scope draft.scope)) :
    progress.Runs (elaborateAs call holding limits draft binding) before
      fun klass after => after.heap.Holds (.klass klass) := by
  cases binding with
  | expression =>
      exact runs_elaborate none total serves keys conversions sound held
  | hinted name =>
      exact runs_elaborate (some name) total serves keys conversions sound held
  | declaration =>
      cases named : draft.name with
      | none =>
          rw [elaborateAs, declareClass, named]
          exact .failType _
      | some name =>
          rw [elaborateAs, declareClass, named]
          refine .bind sound
            (runs_elaborate none total serves keys conversions sound held) ?_
          intro klass between _ extension heldClass
          have declares : between.heap.Step progress.Makes
              (between.heap.declare draft.scope name (.klass klass)) :=
            .declare draft.scope name (.klass klass) true
              ((Value.within_klass klass).2 heldClass)
          refine .changeHeap_bind (.single declares) (.pure ?_)
          exact declares.extension.holds _ heldClass

end Elaboration

end ClassLowering
