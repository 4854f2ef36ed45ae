import ClassLowering.Proofs.Heap.Steps

/-!
# Names that nobody declares

What a name is bound to in a scope changes in two ways: a declaration replaces
the binding, and an assignment gives another value to a binding that is mutable.
Both store a value. So a binding that has no value of its own stays what it is
until the name gets one, and only a declaration in its very scope gives a value
to a name that is not mutable.

The scope of a class binds the internal name of the class without a declaration.
While the keys are evaluated the binding has no value. Afterwards it means the
class for good, unless somebody declares the name in this very scope.
-/

namespace ClassLowering

/-- A binding that holds a value, as declarations and assignments make it. -/
def Binding.HasValue (binding : Binding) : Prop :=
  ∃ value, binding.slot = .value value

/-- What may become of a binding: it stays, or gets a value. -/
def Binding.Becomes (old new : Binding) : Prop := new = old ∨ new.HasValue

namespace Binding.Becomes

/-- A binding may stay what it is. -/
theorem refl (binding : Binding) : binding.Becomes binding :=
  .inl rfl

/-- What may become of what may become of a binding. -/
theorem trans
    {first second third : Binding}
    (earlier : first.Becomes second)
    (later : second.Becomes third) :
    first.Becomes third := by
  rcases later with rfl | valued
  · exact earlier
  · exact .inr valued

end Binding.Becomes

namespace Heap

/-- A scope whose name is bound has the binding among its own. -/
theorem scope_bind_self
    {heap : Heap}
    {ref : ScopeRef}
    (name : String)
    (binding : Binding)
    (held : heap.Holds (.scope ref)) :
    (heap.bind ref name binding).scope ref =
      { heap.scope ref with bindings :=
        (heap.scope ref).bindings.insert name binding } := by
  obtain ⟨cell, found⟩ : ∃ cell, heap.scopes.get? ref = some cell :=
    ⟨_, Array.getElem?_eq_getElem held⟩
  simp only [scope, Heap.bind, Store.get?_modify_self, found, Option.map_some,
    Option.getD_some]

/-- Binding a name in one scope leaves the others alone. -/
theorem scope_bind_of_ne
    {heap : Heap}
    {ref other : ScopeRef}
    (name : String)
    (binding : Binding)
    (different : other ≠ ref) :
    (heap.bind ref name binding).scope other = heap.scope other := by
  simp only [scope, Heap.bind, Store.get?_modify_of_ne _ _ different]

/-- A name that is bound has the binding. -/
theorem ownBinding?_bind_self
    {heap : Heap}
    {ref : ScopeRef}
    (name : String)
    (binding : Binding)
    (held : heap.Holds (.scope ref)) :
    (heap.bind ref name binding).ownBinding? ref name = some binding := by
  rw [ownBinding?, scope_bind_self name binding held]
  exact OrderedMap.find?_insert_self _ _ _

/-- Binding a name leaves the same name in other scopes alone, and other
names everywhere. -/
theorem ownBinding?_bind_of_ne
    {heap : Heap}
    {ref other : ScopeRef}
    {name otherName : String}
    (binding : Binding)
    (different : other ≠ ref ∨ otherName ≠ name) :
    (heap.bind ref name binding).ownBinding? other otherName =
      heap.ownBinding? other otherName := by
  by_cases same : other = ref
  · have otherwise := different.resolve_left fun apart => apart same
    rcases heap.scope_bind ref other name binding with equal | ⟨-, -, equal⟩
    · rw [ownBinding?, equal]
      rfl
    · rw [ownBinding?, equal, same]
      exact OrderedMap.find?_insert_of_not_beq _ _ fun equal =>
        otherwise (beq_iff_eq.1 equal).symm
  · rw [ownBinding?, scope_bind_of_ne name binding same]
    rfl

/-- A new scope leaves the older ones as they are. -/
theorem scope_newScope
    {heap : Heap}
    {ref : ScopeRef}
    (parent : Option ScopeRef)
    (held : heap.Holds (.scope ref)) :
    (heap.newScope parent).2.scope ref = heap.scope ref := by
  unfold scope newScope
  rw [Store.get?_push_of_lt heap.scopes _ held]

/-- The scope of a class is none of the older scopes. -/
theorem ne_openClassScope
    {heap : Heap}
    {ref : ScopeRef}
    (outer : ScopeRef)
    (internalName : Option String)
    (held : heap.Holds (.scope ref)) :
    ref ≠ (heap.openClassScope outer internalName).1 := by
  have newest : (heap.openClassScope outer internalName).1 =
      heap.scopes.next := by
    cases internalName <;> rfl
  rintro rfl
  rw [newest] at held
  exact Nat.lt_irrefl _ held

/-- The scope of a class leaves the older ones as they are. -/
theorem scope_openClassScope
    {heap : Heap}
    {ref : ScopeRef}
    (outer : ScopeRef)
    (internalName : Option String)
    (held : heap.Holds (.scope ref)) :
    (heap.openClassScope outer internalName).2.scope ref = heap.scope ref := by
  cases internalName with
  | none => exact scope_newScope (some outer) held
  | some name =>
      have different : ref ≠ (heap.newScope (some outer)).1 :=
        ne_openClassScope outer none held
      exact (scope_bind_of_ne name _ different).trans
        (scope_newScope (some outer) held)

/-- Every binding of a scope is still there, as what may become of it. -/
def Rebinds (heap later : Heap) : Prop :=
  ∀ ref name binding, heap.Holds (.scope ref) ->
    heap.ownBinding? ref name = some binding ->
    ∃ new, later.ownBinding? ref name = some new ∧ binding.Becomes new

namespace Rebinds

/-- Bindings stay where the scopes stay. -/
theorem of_scope_eq
    {heap later : Heap}
    (same : ∀ ref, heap.Holds (.scope ref) ->
      later.scope ref = heap.scope ref) :
    heap.Rebinds later := by
  intro ref name binding held own
  refine ⟨binding, ?_, .refl binding⟩
  rw [ownBinding?, same ref held]
  exact own

/-- What may become of bindings that scopes may have. -/
theorem trans
    {first second third : Heap}
    (earlier : first.Rebinds second)
    (extension : first.Extends second)
    (later : second.Rebinds third) :
    first.Rebinds third := by
  intro ref name binding held own
  obtain ⟨between, found, becomes⟩ := earlier ref name binding held own
  obtain ⟨new, final, becomesNew⟩ :=
    later ref name between (extension.holds _ held) found
  exact ⟨new, final, becomes.trans becomesNew⟩

/-- A name may be bound to what may become of its binding. -/
theorem bind
    {heap : Heap}
    {ref : ScopeRef}
    {name : String}
    {new : Binding}
    (becomes : ∀ binding ∈ heap.ownBinding? ref name, binding.Becomes new) :
    heap.Rebinds (heap.bind ref name new) := by
  intro other otherName binding held own
  by_cases same : other = ref ∧ otherName = name
  · obtain ⟨rfl, rfl⟩ := same
    exact ⟨new, ownBinding?_bind_self _ new held, becomes binding own⟩
  · refine ⟨binding, ?_, .refl binding⟩
    rw [ownBinding?_bind_of_ne new (Decidable.not_and_iff_not_or_not.1 same)]
    exact own

end Rebinds

/-- The nearest binding of a name is one of the scope that has it. -/
theorem ownBinding?_of_nearestBinding?
    {heap : Heap}
    {ref owner : ScopeRef}
    {name : String}
    {binding : Binding}
    (nearest : heap.nearestBinding? ref name = some (owner, binding)) :
    heap.ownBinding? owner name = some binding := by
  obtain ⟨scope, -, own⟩ := List.exists_of_findSome?_eq_some nearest
  obtain ⟨found, isFound, same⟩ := Option.map_eq_some_iff.1 own
  cases same
  exact isFound

/-- A step turns bindings into what may become of them. -/
theorem Step.rebinds
    {makes : FunctionCell -> Prop}
    {heap later : Heap}
    (step : Step makes heap later) :
    heap.Rebinds later := by
  cases step with
  | scope parent known =>
      exact .of_scope_eq fun ref held => scope_newScope parent held
  | classScope outer internalName _ =>
      exact .of_scope_eq fun ref held =>
        scope_openClassScope outer internalName held
  | declare ref name value isMutable within =>
      exact .bind fun _ _ => .inr ⟨value, rfl⟩
  | assign ref name value later within assigned =>
      obtain ⟨owner, binding, -, -, -, rfl⟩ := assign_eq_ok assigned
      exact .bind fun _ _ => .inr ⟨value, rfl⟩
  | _ => exact .of_scope_eq fun _ _ => rfl

/-- Finishing a class leaves all scopes but its own alone. -/
theorem scope_finishClass
    {heap : Heap}
    {cell : ClassCell}
    {ref : ScopeRef}
    (different : ref ≠ cell.scope) :
    (heap.finishClass cell).2.scope ref = heap.scope ref := by
  unfold finishClass
  cases cell.internalName with
  | none => rfl
  | some name => exact scope_bind_of_ne name _ different

/-- Along a path bindings turn into what may become of them. -/
theorem Path.rebinds
    {makes : FunctionCell -> Prop}
    {heap later : Heap}
    (path : Path makes heap later) :
    heap.Rebinds later := by
  induction path with
  | refl => exact .of_scope_eq fun _ _ => rfl
  | tail earlier step hypothesis =>
      exact hypothesis.trans earlier.extension step.rebinds
  | @elaboration first outside inside outer cell earlier held opened inner fits
      outsideRebinds insideRebinds =>
      -- The scope that the class is finished in is newer than all that
      -- are looked at.
      intro ref name binding heldRef own
      have heldOutside := earlier.extension.holds _ heldRef
      have opens :
          outside.Rebinds (outside.openClassScope outer cell.internalName).2 :=
        .of_scope_eq fun ref held =>
          scope_openClassScope outer cell.internalName held
      have openExtension :=
        outside.extends_openClassScope outer cell.internalName
      obtain ⟨new, found, becomes⟩ := (outsideRebinds.trans earlier.extension
        (opens.trans openExtension insideRebinds)) ref name binding heldRef own
      refine ⟨new, ?_, becomes⟩
      have different : ref ≠ cell.scope := by
        rw [opened]
        exact ne_openClassScope outer cell.internalName heldOutside
      rw [ownBinding?, scope_finishClass different]
      exact found

end Heap
end ClassLowering
