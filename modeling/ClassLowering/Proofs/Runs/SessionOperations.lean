import ClassLowering.Evaluation.SessionOperation
import ClassLowering.Proofs.Runs.Operations

/-!
# Runs of session operations

Expressions use the session and the bindings of scopes without running any
body. What they read from either is a value of the heap, and what they store
was one before.
-/

namespace ClassLowering

namespace Session.Sound

variable {heap : Heap} {session : Session}

/-- Numbering a composite leaves variables and scopes as they are. -/
theorem numberComposite (sound : session.Sound heap) (value : Value) :
    (session.numberComposite value).2.Sound heap := by
  unfold Session.numberComposite
  split
  · exact sound
  · exact ⟨sound.storedValues, sound.scopes⟩

/-- Numbering a symbol leaves variables and scopes as they are. -/
theorem numberSymbol (sound : session.Sound heap) (symbol : Symbol) :
    (session.numberSymbol symbol).2.Sound heap := by
  unfold Session.numberSymbol
  split
  · exact sound
  · exact ⟨sound.storedValues, sound.scopes⟩

/-- Setting a variable to a value of the heap keeps a session sound. -/
theorem setVariable
    (sound : session.Sound heap)
    (name : String)
    {value : Value}
    (within : value.Within heap) :
    Sound heap { session with storedValues :=
      session.storedValues.insert name value } := by
  refine ⟨?_, sound.scopes⟩
  intro other present
  rcases OrderedMap.mem_values_insert present with rfl | old
  · exact within
  · exact sound.storedValues other old

/-- Storing a scope of the heap keeps a session sound. -/
theorem storeScope
    (sound : session.Sound heap)
    (name : String)
    {scope : ScopeRef}
    (held : heap.Holds (.scope scope)) :
    Sound heap { session with scopes := session.scopes.insert name scope } := by
  refine ⟨sound.storedValues, ?_⟩
  intro other present
  rcases OrderedMap.mem_values_insert present with rfl | old
  · exact held
  · exact sound.scopes other old

/-- Releasing a class keeps a session sound. -/
theorem release
    (sound : session.Sound heap)
    (name : String)
    (klass : ClassRef) :
    (session.release name klass).Sound heap :=
  ⟨fun value present =>
      sound.storedValues value
        (OrderedMap.mem_values_of_mem_values_erase present),
    sound.scopes⟩

end Session.Sound

section Showing

variable {progress : Progress} {before : State}

/-- Showing a value makes progress. -/
theorem runs_showValue (value : Value) :
    progress.Runs (showValue value) before fun _ _ => True := by
  cases value with
  | symbol symbol =>
      exact .stepSession_bind (fun sound => sound.numberSymbol symbol)
        (.pure trivial)
  | undefined => exact .pure trivial
  | null => exact .pure trivial
  | bool b => exact .pure trivial
  | number x => exact .pure trivial
  | string text => exact .pure trivial
  | object ref =>
      exact .stepSession_bind (fun sound => sound.numberComposite _)
        (.readHeap_bind (.pure trivial))
  | klass ref =>
      exact .stepSession_bind (fun sound => sound.numberComposite _)
        (.readHeap_bind (.pure trivial))
  | function ref =>
      exact .stepSession_bind (fun sound => sound.numberComposite _)
        (.readHeap_bind (.pure trivial))
  | generator ref =>
      exact .stepSession_bind (fun sound => sound.numberComposite _)
        (.readHeap_bind (.pure trivial))

/-- Showing a key makes progress. -/
theorem runs_showKey (key : PropertyKey) :
    progress.Runs (showKey key) before fun _ _ => True := by
  cases key with
  | ofText text => exact .pure trivial
  | ofSymbol symbol =>
      exact .stepSession_bind (fun sound => sound.numberSymbol symbol)
        (.pure trivial)

/-- Showing a fault makes progress. -/
theorem runs_showFault (sound : before.Sound) (cause : Failure) :
    progress.Runs (showFault cause) before fun _ _ => True := by
  induction cause with
  | keyEvaluation index cause hypothesis =>
      exact .bind sound hypothesis fun _ _ _ _ _ => .pure trivial
  | accessorMissing key side =>
      exact .bind sound (runs_showKey key) fun _ _ _ _ _ => .pure trivial
  | memberConflict key =>
      exact .bind sound (runs_showKey key) fun _ _ _ _ _ => .pure trivial
  | readOnlyMember key =>
      exact .bind sound (runs_showKey key) fun _ _ _ _ _ => .pure trivial
  | thrown value =>
      exact .bind sound (runs_showValue value) fun _ _ _ _ _ => .pure trivial
  | _ => exact .pure trivial

/-- Logging makes progress. -/
theorem runs_log (entry : LogEntry) :
    progress.Runs (RunM.log entry) before fun _ _ => True :=
  .changeSession (fun sound => ⟨sound.storedValues, sound.scopes⟩) trivial

end Showing

section Names

variable {progress : Progress} {before : State}

/-- Finding a symbol by its name makes progress. -/
theorem runs_symbolNamed (name : String) :
    progress.Runs (symbolNamed name) before fun _ _ => True := by
  refine .readSession_bind ?_
  cases before.session.symbols.find? name with
  | some symbol => exact .pure trivial
  | none =>
      refine .allocate_bind (.single (.symbol (some name))) ?_
      exact .changeSession_bind
        (fun sound => ⟨sound.storedValues, sound.scopes⟩) (.pure trivial)

/-- A scope that is stored under a name is held. -/
theorem runs_scopeNamed (name : String) (sound : before.Sound) :
    progress.Runs (scopeNamed name) before fun scope after =>
      after.heap.Holds (.scope scope) := by
  refine .readSession_bind ?_
  cases stored : before.session.scopes.find? name with
  | none => exact .failType _
  | some scope =>
      exact .pure (sound.session.scopes scope
        (OrderedMap.mem_values_of_find? stored))

/-- Storing a scope of the heap makes progress. -/
theorem runs_storeScope
    {scope : ScopeRef}
    (name : String)
    (held : before.heap.Holds (.scope scope)) :
    progress.Runs (storeScope name scope) before fun _ _ => True :=
  .changeSession (fun sound => sound.storeScope name held) trivial

/-- The scope at which an operation on bindings starts is held. -/
theorem runs_siteScope
    {home : Option ScopeRef}
    (site : ScopeSite)
    (sound : before.Sound)
    (held : ∀ scope ∈ home, before.heap.Holds (.scope scope)) :
    progress.Runs (siteScope home site) before
      fun scope after => after.heap.Holds (.scope scope) := by
  cases site with
  | stored name => exact runs_scopeNamed name sound
  | home =>
      cases home with
      | none => exact .failType _
      | some scope => exact .pure (held scope rfl)

/-- Releasing a class makes progress. -/
theorem runs_releaseClass (holding : Holding) (name : String) :
    progress.Runs (releaseClass holding name) before Value.Known := by
  refine .readSession_bind ?_
  split
  next klass found =>
    exact .changeSession_bind (fun sound => sound.release name klass)
      (.get_bind (.pure (Value.within_bool _)))
  next => exact .failType _

end Names

namespace Heap

variable {heap : Heap} {scope : ScopeRef} {name : String}

/-- The nearest binding of a name holds a value of the heap. -/
theorem Sound.within_nearestBinding
    {owner : ScopeRef}
    {binding : Binding}
    (sound : heap.Sound)
    (found : heap.nearestBinding? scope name = some (owner, binding)) :
    binding.slot.Within heap := by
  rw [nearestBinding?, List.findSome?_eq_some_iff] at found
  obtain ⟨_, other, _, -, own, -⟩ := found
  obtain ⟨bound, located, equal⟩ := Option.map_eq_some_iff.1 own
  cases equal
  exact (sound.scope owner).slot binding
    (OrderedMap.mem_values_of_find? located)

/-- The value of a name is a value of the heap. -/
theorem Sound.within_resolve
    {isAlive : ClassRef -> Bool}
    {value : Value}
    (sound : heap.Sound)
    (resolved : heap.resolve isAlive scope name = .ok value) :
    value.Within heap := by
  unfold resolve at resolved
  split at resolved
  next owner binding found =>
    have within := sound.within_nearestBinding found
    unfold readBinding at resolved
    split at resolved
    next contents holds =>
      rw [holds] at within
      cases resolved
      exact within
    next => cases resolved
    next klass holds =>
      rw [holds] at within
      split at resolved
      · cases resolved
        exact (Value.within_klass klass).2 within
      · cases resolved
  next => cases resolved

end Heap

section Operations

variable {progress : Progress} {operands : List Value} {holding : Holding}

/-- Storing a scope of the heap makes progress, whatever the operation then
yields. -/
theorem runs_storeScope_then
    {before : State}
    {scope : ScopeRef}
    {result : Value}
    (store : String)
    (sound : before.Sound)
    (held : before.heap.Holds (.scope scope))
    (within : result.Within before.heap) :
    progress.Runs (do storeScope store scope; return result) before
      Value.Known :=
  .bind sound (runs_storeScope store held) fun _ _ _ extension _ =>
    .pure (within.mono extension)

/-- Storing a new scope makes progress. -/
theorem runs_storeNewScope
    {before : State}
    {outer : Option ScopeRef}
    (store : String)
    (sound : before.Sound)
    (held : ∀ scope ∈ outer, before.heap.Holds (.scope scope)) :
    progress.Runs (do
      let scope ← RunM.allocate (·.newScope outer)
      storeScope store scope
      return Value.undefined) before Value.Known := by
  have step : before.heap.Step progress.Makes (before.heap.newScope outer).2 :=
    .scope outer held
  exact .allocate_bind (.single step)
    (runs_storeScope_then store (sound.along (.single step))
      (before.heap.holds_newScope outer) Value.within_undefined)

/-- Operations on scopes and bindings make progress. -/
theorem runs_performScope
    {before : State}
    {home : Option ScopeRef}
    {operation : ScopeOperation}
    (sound : before.Sound)
    (held : ∀ scope ∈ home, before.heap.Holds (.scope scope))
    (within : AllWithin before.heap operands) :
    progress.Runs (performScope holding home operation operands) before
      Value.Known := by
  have first : (operand operands 0).Within before.heap := within.getD 0
  cases operation with
  | newRoot store => exact runs_storeNewScope store sound nofun
  | newChild store parent =>
      refine .bind sound (runs_scopeNamed parent sound) ?_
      intro outer between soundBetween _ heldOuter
      exact runs_storeNewScope store soundBetween (by simpa using heldOuter)
  | storeHome store =>
      refine .bind sound (runs_siteScope .home sound held) ?_
      intro scope between soundBetween _ heldScope
      exact runs_storeScope_then store soundBetween heldScope
        Value.within_undefined
  | storeClassScope store =>
      refine .asClass_bind first fun klass heldKlass => .readHeap_bind ?_
      exact runs_storeScope_then store sound
        (sound.heap.klass klass heldKlass).scope Value.within_undefined
  | storeParent store child =>
      refine .bind sound (runs_scopeNamed child sound) ?_
      intro scope between soundBetween _ _
      refine .readHeap_bind ?_
      cases parent : between.heap.parentScope? scope with
      | none => exact .pure (Value.within_bool _)
      | some outer =>
          have heldOuter : between.heap.Holds (.scope outer) :=
            (soundBetween.heap.scope scope).enclosing outer
              (List.mem_of_mem_head? parent)
          exact runs_storeScope_then store soundBetween heldOuter
            (Value.within_bool _)
  | same left right =>
      refine .bind sound (runs_scopeNamed left sound) ?_
      intro _ between soundBetween _ _
      refine .bind soundBetween (runs_scopeNamed right soundBetween) ?_
      exact fun _ _ _ _ _ => .pure (Value.within_bool _)
  | declare site name =>
      refine .bind sound (runs_siteScope site sound held) ?_
      intro scope between _ extension _
      have step : between.heap.Step progress.Makes
          (between.heap.declare scope name (operand operands 0)) :=
        .declare scope name (operand operands 0) true (first.mono extension)
      exact .changeHeap_bind (.single step) (.pure Value.within_undefined)
  | declareConst site name =>
      refine .bind sound (runs_siteScope site sound held) ?_
      intro scope between _ extension _
      have step : between.heap.Step progress.Makes
          (between.heap.declareConst scope name (operand operands 0)) :=
        .declare scope name (operand operands 0) false (first.mono extension)
      exact .changeHeap_bind (.single step) (.pure Value.within_undefined)
  | assign site name =>
      refine .bind sound (runs_siteScope site sound held) ?_
      intro scope between _ extension _
      refine .readHeap_bind (.ofExcept_bind fun later assigned => ?_)
      have step :
          between.heap.Step progress.Makes ((fun _ => later) between.heap) :=
        .assign scope name (operand operands 0) later
          (first.mono extension) assigned
      exact .changeHeap_bind (.single step) (.pure Value.within_undefined)
  | resolve site name =>
      refine .bind sound (runs_siteScope site sound held) ?_
      intro scope between soundBetween _ _
      refine .get_bind (.ofExcept ?_)
      intro value resolved
      exact soundBetween.heap.within_resolve resolved
  | hasOwn site name =>
      refine .bind sound (runs_siteScope site sound held) ?_
      exact fun _ _ _ _ _ => .readHeap_bind (.pure (Value.within_bool _))
  | isBound site name =>
      refine .bind sound (runs_siteScope site sound held) ?_
      exact fun _ _ _ _ _ => .readHeap_bind (.pure (Value.within_bool _))

/-- Operations on variables, symbols and the log make progress. -/
theorem runs_performStorage
    {before : BodyState}
    {operation : StorageOperation}
    (sound : before.Sound)
    (within : AllWithin before.state.heap operands) :
    progress.RunsBody (performStorage holding operation operands) before
      Value.Known := by
  have first : (operand operands 0).Within before.state.heap := within.getD 0
  cases operation with
  | symbol name =>
      refine .bind (.lift sound (runs_symbolNamed name)) ?_
      exact fun _ _ soundAfter _ _ => .pure soundAfter (Value.within_symbol _)
  | freshSymbol name description =>
      have stores : progress.Runs (do
          let symbol ← RunM.allocate (·.newSymbol description)
          storeSymbol name symbol
          return Value.symbol symbol) before.state Value.Known := by
        refine .allocate_bind (.single (.symbol description)) ?_
        exact .changeSession_bind
          (fun sound => ⟨sound.storedValues, sound.scopes⟩)
          (.pure (Value.within_symbol _))
      exact .lift sound stores
  | «variable» name =>
      refine .readSession_bind (.pure sound ?_)
      cases found : before.state.session.storedValues.find? name with
      | none => exact Value.within_undefined
      | some value =>
          exact sound.state.session.storedValues value
            (OrderedMap.mem_values_of_find? found)
  | setVariable name =>
      have stores : progress.Runs (RunM.changeSession fun session =>
          { session with storedValues :=
            session.storedValues.insert name (operand operands 0) })
          before.state fun _ _ => True :=
        .changeSession (fun session => session.setVariable name first) trivial
      refine .bind (.lift sound stores) ?_
      exact fun _ _ soundAfter extension _ =>
        .pure soundAfter (first.mono extension)
  | localVariable name => exact .getLocal sound
  | setLocalVariable name =>
      refine .bind (.setLocal sound first) ?_
      exact fun _ _ soundAfter extension _ =>
        .pure soundAfter (first.mono extension)
  | log =>
      refine .bind (.lift sound (runs_showValue _)) ?_
      intro shown between soundBetween extension _
      refine .bind (.lift soundBetween (runs_log (.value shown))) ?_
      exact fun _ _ soundAfter further _ =>
        .pure soundAfter (first.mono (extension.trans further))
  | release name => exact .lift sound (runs_releaseClass holding name)

end Operations

end ClassLowering
