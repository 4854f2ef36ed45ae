import ClassLowering.Proofs.Names.Lookup

/-!
# Forests of scopes

Scopes are opened outside of all others or inside one that is there, and names
are declared in them, assigned to, and bound to classes, in any order. A forest
lists all that was stored in its scopes on the way, the newest first.

From every scope of a forest the parents lead to a root. What a name does
from the scope is settled by the first scope on this way that anything was
stored in under the name, and by what was stored there last: reading,
assigning and asking whether the name is bound all act on it. An assignment
changes this one binding, and a declaration that of the scope itself. The
states of every run have forests.
-/

namespace ClassLowering

/-- What is stored under a name in a scope. -/
structure BindingStore where
  scope : ScopeRef
  name : String
  slot : Slot
  isMutable : Bool

namespace BindingStore

/-- What was stored last under a name in a scope, if anything was. -/
def latest? (stores : List BindingStore) (scope : ScopeRef) (name : String) :
    Option BindingStore :=
  stores.find? fun store => store.scope = scope ∧ store.name = name

/-- What is stored yields its value, or its class as long as the class
exists. -/
def read (isAlive : ClassRef -> Bool)
    (store : BindingStore) : Except Failure Value :=
  match store.slot with
  | .value value => .ok value
  | .uninitialized => .error (.uninitialized store.name)
  | .selfReference klass =>
      if isAlive klass then .ok (.klass klass)
        else .error (.reference store.name)

/-- What is found was stored under the name in the scope. -/
theorem eq_of_latest?
    {stores : List BindingStore}
    {scope : ScopeRef}
    {name : String}
    {store : BindingStore}
    (found : latest? stores scope name = some store) :
    store ∈ stores ∧ store.scope = scope ∧ store.name = name :=
  ⟨List.mem_of_find?_eq_some found, by simpa using List.find?_some found⟩

/-- What is stored is the latest of its scope and name, and no other one. -/
theorem latest?_cons
    (store : BindingStore)
    (stores : List BindingStore)
    (scope : ScopeRef)
    (name : String) :
    latest? (store :: stores) scope name =
      if store.scope = scope ∧ store.name = name then some store
      else latest? stores scope name := by
  rw [latest?, List.find?_cons]
  split
  next same => rw [if_pos (of_decide_eq_true same)]
  next other => rw [if_neg (of_decide_eq_false other), latest?]

end BindingStore

namespace Heap

/-- The way from a scope through its parents to a root. -/
inductive Chain (heap : Heap) : ScopeRef -> List ScopeRef -> Prop
  | root {scope : ScopeRef} :
      heap.parentScope? scope = none -> Chain heap scope [scope]
  | child {scope parent : ScopeRef} {rest : List ScopeRef} :
      heap.parentScope? scope = some parent -> Chain heap parent rest ->
        Chain heap scope (scope :: rest)

/-- The latest store under a name in the first scope, walking outwards, that has
any. -/
inductive Means (heap : Heap) (stores : List BindingStore) (name : String) :
    ScopeRef -> BindingStore -> Prop
  | own {scope : ScopeRef} {store : BindingStore} :
      BindingStore.latest? stores scope name = some store ->
        Means heap stores name scope store
  | outer {scope parent : ScopeRef} {store : BindingStore} :
      BindingStore.latest? stores scope name = none ->
        heap.parentScope? scope = some parent ->
        Means heap stores name parent store ->
          Means heap stores name scope store

/-- No scope has a store under a name, walking outwards to the root. -/
inductive Lacks (heap : Heap) (stores : List BindingStore)
    (name : String) : ScopeRef -> Prop
  | root {scope : ScopeRef} :
      BindingStore.latest? stores scope name = none ->
        heap.parentScope? scope = none -> Lacks heap stores name scope
  | outer {scope parent : ScopeRef} :
      BindingStore.latest? stores scope name = none ->
        heap.parentScope? scope = some parent ->
        Lacks heap stores name parent -> Lacks heap stores name scope

/--
A heap whose scopes were opened and bound by any operations in any order, with
all that was stored in them, the newest first.
-/
inductive ScopeForest : Heap -> List BindingStore -> Prop
  | empty : ScopeForest Heap.empty []
  | root {heap : Heap} {stores : List BindingStore} :
      ScopeForest heap stores -> ScopeForest (heap.newScope none).2 stores
  | child {heap : Heap} {stores : List BindingStore} (outer : ScopeRef) :
      ScopeForest heap stores -> heap.Holds (.scope outer) ->
        ScopeForest (heap.newScope (some outer)).2 stores
  | declare {heap : Heap} {stores : List BindingStore} (scope : ScopeRef)
      (name : String) (value : Value) :
      ScopeForest heap stores -> heap.Holds (.scope scope) ->
        ScopeForest (heap.declare scope name value)
          (⟨scope, name, .value value, true⟩ :: stores)
  | declareConst {heap : Heap} {stores : List BindingStore} (scope : ScopeRef)
      (name : String) (value : Value) :
      ScopeForest heap stores -> heap.Holds (.scope scope) ->
        ScopeForest (heap.declareConst scope name value)
          (⟨scope, name, .value value, false⟩ :: stores)
  | assign {heap later : Heap} {stores : List BindingStore}
      {store : BindingStore}
      (scope : ScopeRef) (name : String) (value : Value) :
      ScopeForest heap stores -> heap.Holds (.scope scope) ->
        heap.Means stores name scope store ->
          heap.assign scope name value = .ok later ->
          ScopeForest later (⟨store.scope, name, .value value, true⟩ :: stores)
  | openClassScope {heap : Heap} {stores : List BindingStore} (outer : ScopeRef)
      (internalName : Option String) :
      ScopeForest heap stores -> heap.Holds (.scope outer) ->
        ScopeForest (heap.openClassScope outer internalName).2
          (internalName.toList.map
            (⟨heap.scopes.next, ·, .uninitialized, false⟩) ++ stores)
  | finishClass {heap : Heap} {stores : List BindingStore} (cell : ClassCell) :
      ScopeForest heap stores -> heap.Holds (.scope cell.scope) ->
        ScopeForest (heap.finishClass cell).2
          (cell.internalName.toList.map
            (⟨cell.scope, ·, .selfReference heap.classes.next, false⟩) ++
            stores)
  | others {heap later : Heap} {stores : List BindingStore} :
      ScopeForest heap stores -> later.scopes = heap.scopes ->
        ScopeForest later stores

/-- What is in the scopes of a heap is what was stored in them last. -/
structure Mirrors (heap : Heap) (stores : List BindingStore) : Prop where
  held : ∀ store ∈ stores, heap.Holds (.scope store.scope)
  own : ∀ scope name,
    (heap.ownBinding? scope name).map
      (fun binding => (binding.slot, binding.isMutable)) =
      (BindingStore.latest? stores scope name).map fun store =>
        (store.slot, store.isMutable)
  /-- The scopes around a scope are those of its parent, which is older. -/
  linked : ∀ scope, heap.Holds (.scope scope) ->
    (heap.scope scope).enclosing = [] ∨
    ∃ parent, heap.Holds (.scope parent) ∧ parent.index < scope.index ∧
      (heap.scope scope).enclosing = heap.scopePath parent

/-- The scopes around a scope stay the same when a name is bound. -/
theorem enclosing_bind
    (heap : Heap)
    (ref other : ScopeRef)
    (name : String)
    (binding : Binding) :
    ((heap.bind ref name binding).scope other).enclosing =
      (heap.scope other).enclosing := by
  rcases heap.scope_bind ref other name binding with equal | ⟨rfl, -, equal⟩
  · rw [equal]
  · rw [equal]

namespace Mirrors

variable {heap later : Heap} {stores : List BindingStore}

/-- The heap without scopes mirrors that nothing was stored. -/
theorem empty : Heap.empty.Mirrors [] where
  held _ present := absurd present List.not_mem_nil
  own _ _ := rfl
  linked scope held := absurd held (Nat.not_lt_zero scope.index)

/-- Heaps with the same scopes mirror the same. -/
theorem of_scopes_eq
    (mirrors : heap.Mirrors stores)
    (same : later.scopes = heap.scopes) :
    later.Mirrors stores := by
  have cells : later.scope = heap.scope := by
    funext ref
    rw [scope, scope, same]
  refine ⟨fun store present => ?_, fun ref name => ?_, fun ref held => ?_⟩
  · rw [Holds, same]
    exact mirrors.held store present
  · rw [ownBinding?, cells]
    exact mirrors.own ref name
  · simp only [Holds, same, cells, scopePath] at held ⊢
    exact mirrors.linked ref held

/-- A binding that is set is the latest one. -/
theorem bind
    {ref : ScopeRef}
    (mirrors : heap.Mirrors stores)
    (held : heap.Holds (.scope ref))
    (name : String)
    (binding : Binding) :
    (heap.bind ref name binding).Mirrors
      (⟨ref, name, binding.slot, binding.isMutable⟩ :: stores) := by
  have extension := heap.extends_bind ref name binding
  refine ⟨?_, fun other otherName => ?_, fun other heldOther => ?_⟩
  · exact List.forall_mem_cons.2 ⟨extension.holds _ held, fun store present =>
      extension.holds _ (mirrors.held store present)⟩
  · rw [BindingStore.latest?_cons]
    split
    next same =>
      obtain ⟨rfl, rfl⟩ := same
      rw [ownBinding?_bind_self _ binding held]
      rfl
    next different =>
      have apart : other ≠ ref ∨ otherName ≠ name := by
        apply Decidable.not_and_iff_not_or_not.1
        rintro ⟨rfl, rfl⟩
        exact different ⟨rfl, rfl⟩
      rw [ownBinding?_bind_of_ne binding apart]
      exact mirrors.own other otherName
  · have before : heap.Holds (.scope other) := by
      simpa [Holds, Heap.bind] using heldOther
    rw [enclosing_bind]
    refine (mirrors.linked other before).imp_right ?_
    rintro ⟨parent, heldParent, older, around⟩
    refine ⟨parent, extension.holds _ heldParent, older, ?_⟩
    rw [around, scopePath, scopePath, enclosing_bind]

/-- A new scope has no bindings, and the scopes around it are those of its
parent. -/
theorem newScope
    {parent : Option ScopeRef}
    (mirrors : heap.Mirrors stores)
    (known : ∀ outer ∈ parent, heap.Holds (.scope outer)) :
    (heap.newScope parent).2.Mirrors stores := by
  have extension := heap.extends_newScope parent
  refine ⟨fun store present =>
    extension.holds _ (mirrors.held store present), ?_, ?_⟩
  · intro ref name
    by_cases held : heap.Holds (.scope ref)
    · rw [ownBinding?, scope_newScope parent held]
      exact mirrors.own ref name
    · have unstored : BindingStore.latest? stores ref name = none := by
        apply List.find?_eq_none.2
        intro store present same
        exact held ((of_decide_eq_true same).1 ▸ mirrors.held store present)
      have unbound : ((heap.newScope parent).2.scope ref).bindings = ∅ := by
        have unknown : heap.scopes.get? ref = none :=
          Array.getElem?_eq_none (Nat.not_lt.1 held)
        rcases Store.getD_push heap.scopes ⟨∅, _⟩ ref with equal | equal
        · exact congrArg ScopeCell.bindings (equal.trans (by rw [unknown]))
        · exact congrArg ScopeCell.bindings equal
      rw [ownBinding?, unbound, unstored]
      rfl
  · intro ref heldRef
    by_cases held : heap.Holds (.scope ref)
    · rw [scope_newScope parent held]
      refine (mirrors.linked ref held).imp_right ?_
      rintro ⟨outer, heldOuter, older, around⟩
      refine ⟨outer, extension.holds _ heldOuter, older, ?_⟩
      rw [around, scopePath, scopePath, scope_newScope parent heldOuter]
    · have isNext : ref = heap.scopes.next := by
        have bound : ref.index < heap.scopes.size + 1 := by
          simpa [Heap.newScope, Holds] using heldRef
        have outside : heap.scopes.size ≤ ref.index := Nat.not_lt.1 held
        exact congrArg Ref.mk
          (Nat.le_antisymm (Nat.le_of_lt_succ bound) outside)
      subst isNext
      cases parent with
      | none => exact .inl (by simp [scope, Heap.newScope])
      | some outer =>
          have heldOuter := known outer rfl
          refine .inr ⟨outer, extension.holds _ heldOuter, heldOuter, ?_⟩
          rw [scopePath, scope_newScope (some outer) heldOuter]
          simp [scope, Heap.newScope, scopePath]

end Mirrors

section Lookup

variable {heap : Heap} {stores : List BindingStore} {scope : ScopeRef}
  {name : String}

/-- From a scope that is held, the scopes around it are its parents up to a
root. -/
theorem Mirrors.chain
    (mirrors : heap.Mirrors stores)
    (held : heap.Holds (.scope scope)) :
    heap.Chain scope (heap.scopePath scope) := by
  -- Parents are older, so the way outwards ends.
  induction index :
    scope.index using Nat.strong_induction_on generalizing scope with
  | _ index hypothesis =>
      subst index
      rw [scopePath]
      rcases mirrors.linked scope held
        with alone | ⟨parent, heldParent, older, around⟩
      · rw [alone]
        exact .root (by rw [parentScope?, alone, List.head?_nil])
      · rw [around]
        exact .child (by rw [parentScope?, around, scopePath, List.head?_cons])
          (hypothesis _ older heldParent rfl)

/-- At most one store is meant. -/
theorem Means.unique
    {store other : BindingStore}
    (means : heap.Means stores name scope store)
    (further : heap.Means stores name scope other) :
    other = store := by
  induction means with
  | own found =>
      cases further with
      | own same => exact Option.some.inj (same.symm.trans found)
      | outer none _ _ => rw [found] at none; cases none
  | outer none around _ hypothesis =>
      cases further with
      | own found => rw [none] at found; cases found
      | outer _ same rest =>
          obtain rfl := Option.some.inj (same.symm.trans around)
          exact hypothesis rest

/-- What is meant was stored under the name. -/
theorem Means.mem
    {store : BindingStore}
    (means : heap.Means stores name scope store) :
    store ∈ stores ∧ store.name = name := by
  induction means with
  | own found =>
      obtain ⟨present, -, same⟩ := BindingStore.eq_of_latest? found
      exact ⟨present, same⟩
  | outer _ _ _ hypothesis => exact hypothesis

/-- What the lookup of a name finds: the store that is meant, or nothing. -/
inductive Finds (heap : Heap) (stores : List BindingStore) (name : String)
    (scope : ScopeRef) :
    Option (ScopeRef × Binding) -> Prop
  | store {store : BindingStore} {owner : ScopeRef} {binding : Binding} :
      heap.Means stores name scope store -> store.scope = owner ->
        binding.slot = store.slot ->
        binding.isMutable = store.isMutable ->
          Finds heap stores name scope (owner, binding)
  | nothing : heap.Lacks stores name scope -> Finds heap stores name scope none

/-- A scope has what was stored in it last under a name, or nothing. -/
theorem Mirrors.own_cases
    (mirrors : heap.Mirrors stores)
    (scope : ScopeRef)
    (name : String) :
    BindingStore.latest? stores scope name = none ∧
      heap.ownBinding? scope name = none ∨
      ∃ store binding, BindingStore.latest? stores scope name = some store ∧
        store.scope = scope ∧ heap.ownBinding? scope name = some binding ∧
          binding.slot = store.slot ∧ binding.isMutable = store.isMutable := by
  have mirrored := mirrors.own scope name
  cases stored : BindingStore.latest? stores scope name with
  | none =>
      rw [stored, Option.map_none, Option.map_eq_none_iff] at mirrored
      exact .inl ⟨rfl, mirrored⟩
  | some store =>
      rw [stored, Option.map_some, Option.map_eq_some_iff] at mirrored
      obtain ⟨binding, bound, same⟩ := mirrored
      exact .inr ⟨store, binding, rfl,
        (BindingStore.eq_of_latest? stored).2.1, bound,
        (Prod.mk.inj same).1, (Prod.mk.inj same).2⟩

/-- Along the way outwards the first binding of a name is the store that is
meant. -/
theorem Chain.finds
    {path : List ScopeRef}
    (chain : heap.Chain scope path)
    (mirrors : heap.Mirrors stores)
    (name : String) :
    heap.Finds stores name scope (path.findSome? fun scope =>
      (heap.ownBinding? scope name).map fun binding => (scope, binding)) := by
  induction chain with
  | @root scope outermost =>
      rcases mirrors.own_cases scope name with
        ⟨unstored, unbound⟩ | ⟨store, binding, stored, owner, bound,
          slot, isMutable⟩
      · rw [List.findSome?_cons, unbound]
        exact .nothing (.root unstored outermost)
      · rw [List.findSome?_cons, bound]
        exact .store (.own stored) owner slot isMutable
  | @child scope parent rest around _ hypothesis =>
      rcases mirrors.own_cases scope name with
        ⟨unstored, unbound⟩ | ⟨store, binding, stored, owner, bound,
          slot, isMutable⟩
      · rw [List.findSome?_cons, unbound]
        simp only [Option.map_none]
        generalize rest.findSome? _ = found at hypothesis ⊢
        cases hypothesis with
        | store means owner slot isMutable =>
            exact .store (.outer unstored around means) owner slot isMutable
        | nothing lacks => exact .nothing (.outer unstored around lacks)
      · rw [List.findSome?_cons, bound]
        exact .store (.own stored) owner slot isMutable

/-- The lookup of a name from a scope that is held finds the store that is
meant. -/
theorem Mirrors.finds
    (mirrors : heap.Mirrors stores)
    (held : heap.Holds (.scope scope))
    (name : String) :
    heap.Finds stores name scope (heap.nearestBinding? scope name) :=
  (mirrors.chain held).finds mirrors name

end Lookup

/-- A forest mirrors what was stored in it. -/
theorem ScopeForest.mirrors
    {heap : Heap}
    {stores : List BindingStore}
    (forest : heap.ScopeForest stores) :
    heap.Mirrors stores := by
  induction forest with
  | empty => exact .empty
  | root _ hypothesis => exact hypothesis.newScope (by simp)
  | child outer _ held hypothesis =>
      exact hypothesis.newScope (by simpa using held)
  | declare scope name value _ held hypothesis =>
      exact hypothesis.bind held name _
  | declareConst scope name value _ held hypothesis =>
      exact hypothesis.bind held name _
  | assign scope name value _ held means assigned hypothesis =>
      obtain ⟨owner, binding, nearest, -, -, rfl⟩ := assign_eq_ok assigned
      have finds := hypothesis.finds held name
      rw [nearest] at finds
      cases finds with
      | store further same _ _ =>
          obtain rfl := means.unique further
          subst same
          exact hypothesis.bind (hypothesis.held _ means.mem.1) name _
  | @openClassScope heap stores outer internalName _ held hypothesis =>
      have known : ∀ parent ∈ some outer, heap.Holds (.scope parent) := by
        simpa using held
      have opened := hypothesis.newScope known
      cases internalName with
      | none => exact opened
      | some name =>
          exact opened.bind (holds_newScope _ _) name ⟨.uninitialized, false⟩
  | @finishClass heap stores cell _ held hypothesis =>
      have made : (heap.newClass cell).2.Mirrors stores :=
        hypothesis.of_scopes_eq rfl
      unfold Heap.finishClass bindSelf
      cases cell.internalName with
      | none => exact made
      | some name => exact made.bind held name ⟨.selfReference _, false⟩
  | others _ same hypothesis => exact hypothesis.of_scopes_eq same

/-- Binding a name by a declaration turns a forest into a forest. -/
theorem ScopeForest.declaring
    {heap : Heap}
    {stores : List BindingStore}
    (forest : heap.ScopeForest stores)
    (ref : ScopeRef)
    (name : String)
    (value : Value)
    (isMutable : Bool) :
    ∃ all, (heap.bind ref name ⟨.value value, isMutable⟩).ScopeForest all := by
  by_cases held : heap.Holds (.scope ref)
  · cases isMutable with
    | true => exact ⟨_, forest.declare ref name value held⟩
    | false => exact ⟨_, forest.declareConst ref name value held⟩
  -- A scope that is not there cannot be bound in.
  · refine ⟨stores, forest.others (congrArg Store.mk (Array.ext (by simp) ?_))⟩
    intro index _ inside
    rw [Array.getElem_modify, if_neg]
    rintro rfl
    exact held inside

/-- A scope from which a name is found is held. -/
theorem holds_of_nearestBinding?
    {heap : Heap}
    {ref owner : ScopeRef}
    {name : String}
    {binding : Binding}
    (nearest : heap.nearestBinding? ref name = some (owner, binding)) :
    heap.Holds (.scope ref) := by
  by_contra unheld
  have unknown : heap.scopes.get? ref = none :=
    Array.getElem?_eq_none (Nat.not_lt.1 unheld)
  have empty : heap.scope ref = default := by rw [scope, unknown]; rfl
  rw [nearestBinding?, scopePath, empty, List.findSome?_cons, ownBinding?,
    empty] at nearest
  cases nearest

/-- A step of a run turns a forest into a forest. -/
theorem Step.exists_scopeForest
    {makes : FunctionCell -> Prop}
    {heap later : Heap}
    {stores : List BindingStore}
    (step : Step makes heap later)
    (forest : heap.ScopeForest stores) :
    ∃ all, later.ScopeForest all := by
  cases step with
  | scope parent known =>
      cases parent with
      | none => exact ⟨stores, forest.root⟩
      | some outer => exact ⟨stores, forest.child outer (known outer rfl)⟩
  | classScope outer internalName held =>
      exact ⟨_, forest.openClassScope outer internalName held⟩
  | declare ref name value isMutable _ =>
      exact forest.declaring ref name value isMutable
  | assign ref name value later _ assigned =>
      obtain ⟨owner, binding, nearest, -, -, -⟩ := assign_eq_ok assigned
      have held := holds_of_nearestBinding? nearest
      have finds := forest.mirrors.finds held name
      rw [nearest] at finds
      cases finds with
      | store means _ _ _ =>
          exact ⟨_, forest.assign ref name value held means assigned⟩
  | _ => exact ⟨stores, forest.others rfl⟩

/-- A path of a run turns a forest into a forest. -/
theorem Path.exists_scopeForest
    {makes : FunctionCell -> Prop}
    {heap later : Heap}
    {stores : List BindingStore}
    (path : Path makes heap later)
    (forest : heap.ScopeForest stores) :
    ∃ all, later.ScopeForest all := by
  induction path generalizing stores with
  | refl => exact ⟨stores, forest⟩
  | tail _ step hypothesis =>
      obtain ⟨all, grown⟩ := hypothesis forest
      exact step.exists_scopeForest grown
  | elaboration outer cell _ held opened inner _ hypothesis grows =>
      obtain ⟨all, grown⟩ := hypothesis forest
      obtain ⟨more, inside⟩ :=
        grows (grown.openClassScope outer cell.internalName held)
      refine ⟨_, inside.finishClass cell ?_⟩
      rw [opened]
      exact inner.extension.holds _
        (holds_openClassScope _ outer cell.internalName)

/-- One binding is made or replaced, and everything else in a heap stays as it
is. -/
structure ReplacesBinding (heap later : Heap) (ref : ScopeRef) (name : String)
    (slot : Slot) (isMutable : Bool) : Prop where
  own : later.ownBinding? ref name = some ⟨slot, isMutable⟩
  names : ∀ other otherName, other ≠ ref ∨ otherName ≠ name ->
    later.ownBinding? other otherName = heap.ownBinding? other otherName
  parents : ∀ other, later.parentScope? other = heap.parentScope? other
  rest : later = { heap with scopes := later.scopes }

/-- Binding a name in a scope that is held replaces its binding. -/
theorem replacesBinding_bind
    {heap : Heap}
    {ref : ScopeRef}
    (held : heap.Holds (.scope ref))
    (name : String)
    (binding : Binding) :
    heap.ReplacesBinding (heap.bind ref name binding) ref name binding.slot
      binding.isMutable where
  own := ownBinding?_bind_self name binding held
  names _ _ different := ownBinding?_bind_of_ne binding different
  parents other := by rw [parentScope?, parentScope?, enclosing_bind]
  rest := rfl

end Heap

/--
How an assignment to what was stored ends: it is refused as long as there is no
value, and for what is not mutable, and otherwise replaces this one binding.
-/
inductive BindingStore.Assigns (store : BindingStore) (heap : Heap)
    (value : Value) :
    Except Failure Heap -> Prop
  | uninitialized :
      store.slot = .uninitialized ->
        Assigns store heap value (.error (.uninitialized store.name))
  | fixed :
      store.slot ≠ .uninitialized -> store.isMutable = false ->
        Assigns store heap value (.error (.constAssignment store.name))
  | replaces {later : Heap} :
      store.slot ≠ .uninitialized -> store.isMutable = true ->
        heap.ReplacesBinding later store.scope store.name (.value value) true ->
          Assigns store heap value (.ok later)

/-- Reading, assigning and asking for a name all act on what is meant,
or find nothing. -/
inductive Heap.Acts (heap : Heap) (stores : List BindingStore)
    (scope : ScopeRef) (name : String) : Prop
  | bound (store : BindingStore) :
      heap.Means stores name scope store -> heap.isBound scope name = true ->
        (∀ isAlive, heap.resolve isAlive scope name = store.read isAlive) ->
          (∀ value, store.Assigns heap value (heap.assign scope name value)) ->
            Acts heap stores scope name
  | unbound :
      heap.Lacks stores name scope -> heap.isBound scope name = false ->
        (∀ isAlive, heap.resolve isAlive scope name =
          .error (.reference name)) ->
          (∀ value, heap.assign scope name value = .error (.reference name)) ->
            Acts heap stores scope name

/-- A name acts on what is meant from a scope that is held. -/
theorem Heap.Mirrors.acts
    {heap : Heap}
    {stores : List BindingStore}
    {scope : ScopeRef}
    (mirrors : heap.Mirrors stores)
    (held : heap.Holds (.scope scope))
    (name : String) :
    heap.Acts stores scope name := by
  have finds := mirrors.finds held name
  have bound : heap.isBound scope name =
    (heap.nearestBinding? scope name).isSome := rfl
  cases nearest : heap.nearestBinding? scope name with
  | none =>
      rw [nearest] at finds bound
      cases finds with
      | nothing lacks =>
          refine .unbound lacks bound (fun isAlive => ?_) fun value => ?_
          · rw [resolve, nearest]
          · rw [assign, nearest]
  | some found =>
      rw [nearest] at finds bound
      cases finds with
      | @store store owner binding means same slot isMutable =>
          obtain ⟨present, rfl⟩ := means.mem
          subst same
          refine .bound store means bound (fun isAlive => ?_) fun value => ?_
          · rw [resolve, nearest]
            show readBinding isAlive store.name binding = _
            cases stored : store.slot <;>
              simp only [readBinding, slot, BindingStore.read, stored]
          · rw [assign, nearest]
            simp only [slot, isMutable]
            split
            next early => exact .uninitialized early
            next initialized =>
              cases changes : store.isMutable with
              | false => exact .fixed initialized changes
              | true =>
                  exact .replaces initialized changes (replacesBinding_bind
                    (mirrors.held store present) store.name
                    ⟨.value value, true⟩)

/-- The scopes of every state that a run reaches are a forest. -/
theorem State.Reaches.exists_scopeForest
    {now : State}
    (reached : Program.initialState.Reaches now) :
    ∃ stores, now.heap.ScopeForest stores :=
  (reached.moves Program.sound_initialState).path.exists_scopeForest
    (.root .empty)

/-- What names do from a scope of a state, where some bindings were stored. -/
structure State.ActsOnNearest (now : State) (stores : List BindingStore)
    (scope : ScopeRef) :
    Prop where
  /-- The parents of the scope lead to a root. -/
  chain : now.heap.Chain scope (now.heap.scopePath scope)
  acts : ∀ name, now.heap.Acts stores scope name
  /-- An assignment that is refused changes nothing. -/
  refused : ∀ (holding : Holding) (home : Option ScopeRef) (site : ScopeSite)
    (name : String)
    (operands : List Value) (cause : Failure),
    siteScope home site now = .ok scope now ->
      now.heap.assign scope name (operand operands 0) = .error cause ->
        performScope holding home (.assign site name) operands now =
          .error (.fault cause) now
  /-- A declaration makes or replaces the binding of the scope itself, which can
  be assigned to. -/
  declare : ∀ name value, now.heap.ReplacesBinding
    (now.heap.declare scope name value) scope name (.value value) true
  /-- A constant does the same, and cannot be assigned to. -/
  declareConst : ∀ name value,
    now.heap.ReplacesBinding (now.heap.declareConst scope name value)
    scope name (.value value) false

/-- From every scope of a forest, names act on what was stored last in the
nearest binding. -/
theorem actsOnNearest_of_scopeForest
    {now : State}
    {stores : List BindingStore}
    {scope : ScopeRef}
    (forest : now.heap.ScopeForest stores)
    (held : now.heap.Holds (.scope scope)) :
    now.ActsOnNearest stores scope where
  chain := forest.mirrors.chain held
  acts := forest.mirrors.acts held
  refused holding _ _ _ _ _ starts refuses :=
    performScope_assign holding starts refuses
  declare name value := Heap.replacesBinding_bind held name ⟨.value value, true⟩
  declareConst name value :=
    Heap.replacesBinding_bind held name ⟨.value value, false⟩

/-- A name that is assigned to from an inner scope, and then shadowed there
by a constant. -/
def shadowingSteps : List Step :=
  let store (operation : ScopeOperation) (text : String) : Step :=
    .evaluate (.apply (.scope operation) [.literal (.string text)]) none
  [store (.declare (.stored globalScopeName) "name") "first",
    .evaluate (.apply (.scope (.newChild "inner" globalScopeName)) []) none,
    store (.assign (.stored "inner") "name") "assigned",
    store (.declareConst (.stored "inner") "name") "inner"]

/-- From the inner scope the name acts on the constant, and around it on
what was assigned. -/
theorem actsOnNearest_of_scopeForest_shadowingSteps :
    let now := Program.endState (callUntil (fun _ => false) 0)
      Program.initialState shadowingSteps
    ∃ stores, now.heap.ScopeForest stores ∧ now.heap.Holds (.scope ⟨1⟩) ∧
      now.heap.nearestBinding? ⟨1⟩ "name" =
          some (⟨1⟩, ⟨.value (.string "inner"), false⟩) ∧
        now.heap.nearestBinding? ⟨0⟩ "name" =
            some (⟨0⟩, ⟨.value (.string "assigned"), true⟩) ∧
          now.ActsOnNearest stores ⟨1⟩ := by
  intro now
  have held : now.heap.Holds (.scope ⟨1⟩) := by
    show 1 < Store.size _
    decide +kernel
  obtain ⟨stores, forest⟩ := State.Reaches.exists_scopeForest
    (Program.reaches_endState (fun _ => false) 0 shadowingSteps .refl)
  exact ⟨stores, forest, held, by decide +kernel, by decide +kernel,
    actsOnNearest_of_scopeForest forest held⟩

end ClassLowering
