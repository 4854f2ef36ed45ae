import ClassLowering.Proofs.Heap.Names

/-!
# Internal names of classes

A class that is finished has a scope that no other class has, and there its
internal name means the class. This stays so in every heap that is reached,
unless the name is declared in the scope of the class.

Whatever the scopes around it bind, a name that the scope of the class binds
itself is looked up there. So the name resolves to the class as long as the
class exists, and it cannot be assigned to.
-/

namespace ClassLowering

/-- The binding of the internal name of a class that is finished. -/
def Binding.ofClass (klass : ClassRef) : Binding :=
  ⟨.selfReference klass, false⟩

namespace Heap

/--
Whether a name was declared in a scope: it has a value there. Elaborations bind
names without a value, and what they bind is not mutable, so nothing but a
declaration gives it one.
-/
def Declares (heap : Heap) (ref : ScopeRef) (name : String) : Prop :=
  ∃ binding, heap.ownBinding? ref name = some binding ∧ binding.HasValue

/-- The internal name of every class means the class, unless its scope
declares the name. -/
def NamesKept (heap : Heap) : Prop :=
  ∀ klass name, heap.Holds (.klass klass) ->
    (heap.klass klass).internalName = some name ->
    heap.ownBinding? (heap.klass klass).scope name = some (.ofClass klass) ∨
      heap.Declares (heap.klass klass).scope name

/-- A binding stays until the name is declared. -/
theorem Rebinds.fixed
    {heap later : Heap}
    {ref : ScopeRef}
    {name : String}
    {binding : Binding}
    (rebinds : heap.Rebinds later)
    (held : heap.Holds (.scope ref))
    (own : heap.ownBinding? ref name = some binding) :
    later.ownBinding? ref name = some binding ∨ later.Declares ref name := by
  obtain ⟨new, found, rfl | valued⟩ := rebinds ref name binding held own
  · exact .inl found
  · exact .inr ⟨new, found, valued⟩

/-- A name that is declared in a scope stays so. -/
theorem Rebinds.declares
    {heap later : Heap}
    {ref : ScopeRef}
    {name : String}
    (rebinds : heap.Rebinds later)
    (held : heap.Holds (.scope ref))
    (declares : heap.Declares ref name) :
    later.Declares ref name := by
  obtain ⟨binding, own, valued⟩ := declares
  obtain ⟨new, found, rfl | again⟩ := rebinds ref name binding held own
  · exact ⟨new, found, valued⟩
  · exact ⟨new, found, again⟩

/-- A step makes no classes. -/
theorem Step.classes_eq
    {makes : FunctionCell -> Prop}
    {heap later : Heap}
    (step : Step makes heap later) :
    later.classes = heap.classes := by
  cases step with
  | classScope outer internalName _ => cases internalName <;> rfl
  | assign ref name value later within assigned =>
      obtain ⟨owner, binding, -, -, -, rfl⟩ := assign_eq_ok assigned
      rfl
  | _ => rfl

/-- Opening the scope of a class makes no class. -/
theorem classes_openClassScope
    (heap : Heap)
    (outer : ScopeRef)
    (internalName : Option String) :
    (heap.openClassScope outer internalName).2.classes = heap.classes := by
  cases internalName <;> rfl

/-- Finishing a class makes one class. -/
theorem classes_finishClass (heap : Heap) (cell : ClassCell) :
    (heap.finishClass cell).2.classes = heap.classes.push cell := by
  unfold finishClass
  cases cell.internalName <;> rfl

/-- A class is an old one, or the one that was just finished. -/
theorem klass_finishClass
    {heap : Heap}
    {cell : ClassCell}
    {klass : ClassRef}
    (held : (heap.finishClass cell).2.Holds (.klass klass)) :
    heap.Holds (.klass klass) ∨
      klass = heap.classes.next ∧
        (heap.finishClass cell).2.klass klass = cell := by
  by_cases old : heap.Holds (.klass klass)
  · exact .inl old
  · right
    have newest : klass = heap.classes.next := by
      simp only [Holds, classes_finishClass, Store.size_push] at held old
      exact congrArg Ref.mk (show klass.index = heap.classes.size by omega)
    refine ⟨newest, ?_⟩
    rw [Heap.klass, classes_finishClass, newest, Store.get?_push_next,
      Option.getD_some]

/-- Classes that are new along a path have scopes that are new along it. -/
theorem Path.newScope_of_newClass
    {makes : FunctionCell -> Prop}
    {heap later : Heap}
    (path : Path makes heap later)
    (klass : ClassRef)
    (held : later.Holds (.klass klass))
    (new : ¬ heap.Holds (.klass klass)) :
    ¬ heap.Holds (.scope (later.klass klass).scope) := by
  induction path with
  | refl => exact absurd held new
  | @tail first between last _ step hypothesis =>
      have same : last.klass klass = between.klass klass := by
        rw [Heap.klass, step.classes_eq]
        rfl
      rw [same]
      refine hypothesis ?_ new
      rw [Holds, step.classes_eq] at held
      exact held
  | @elaboration first outside inside outer cell earlier _ opened inner _
      outsideNew insideNew =>
      have opens := outside.extends_openClassScope outer cell.internalName
      rcases klass_finishClass held with heldInside | ⟨-, same⟩
      · rw [(inside.extends_finishClass cell).klass_eq klass heldInside]
        by_cases heldOutside : outside.Holds (.klass klass)
        · rw [(opens.trans inner.extension).klass_eq klass heldOutside]
          exact outsideNew heldOutside new
        · intro heldScope
          refine insideNew heldInside (fun heldOpened => heldOutside ?_)
            ((earlier.extension.trans opens).holds _ heldScope)
          rw [Holds, classes_openClassScope] at heldOpened
          exact heldOpened
      · rw [same, opened]
        intro heldScope
        exact ne_openClassScope outer cell.internalName
          (earlier.extension.holds _ heldScope) rfl

/-- The scope that is opened for a class is that of no class that is made before
it is finished. -/
theorem Path.ne_scope_of_opened
    {makes : FunctionCell -> Prop}
    {outside inside : Heap}
    {outer : ScopeRef}
    {internalName : Option String}
    (path : Path makes (outside.openClassScope outer internalName).2 inside)
    (sound : outside.Sound)
    (klass : ClassRef)
    (held : inside.Holds (.klass klass)) :
    (inside.klass klass).scope ≠
      (outside.openClassScope outer internalName).1 := by
  intro same
  by_cases old : outside.Holds (.klass klass)
  · have opens := outside.extends_openClassScope outer internalName
    rw [(opens.trans path.extension).klass_eq klass old] at same
    exact ne_openClassScope outer internalName
      (sound.klass klass old).scope same
  · refine path.newScope_of_newClass klass held (fun heldOpened => old ?_) ?_
    · rw [Holds, classes_openClassScope] at heldOpened
      exact heldOpened
    · rw [same]
      exact outside.holds_openClassScope outer internalName

/-- Names stay kept when a class is finished whose scope is that of no other
class. -/
theorem NamesKept.finishClass
    {heap : Heap}
    {cell : ClassCell}
    (kept : heap.NamesKept)
    (fits : cell.Sound heap)
    (alone : ∀ klass, heap.Holds (.klass klass) ->
      (heap.klass klass).scope ≠ cell.scope) :
    (heap.finishClass cell).2.NamesKept := by
  intro klass name held named
  rcases klass_finishClass held with old | ⟨rfl, same⟩
  · rw [(heap.extends_finishClass cell).klass_eq klass old] at named ⊢
    rw [Declares, ownBinding?, scope_finishClass (alone klass old)]
    exact kept klass name old named
  · left
    rw [same] at named ⊢
    unfold Heap.finishClass bindSelf
    rw [named]
    exact ownBinding?_bind_self name _ fits.scope

/-- No two classes have the same scope. -/
def ScopesApart (heap : Heap) : Prop :=
  ∀ klass other, heap.Holds (.klass klass) -> heap.Holds (.klass other) ->
    (heap.klass klass).scope = (heap.klass other).scope -> klass = other

/-- Scopes of classes stay apart where the classes stay the same. -/
theorem ScopesApart.of_classes_eq
    {heap later : Heap}
    (apart : heap.ScopesApart)
    (same : later.classes = heap.classes) :
    later.ScopesApart := by
  unfold ScopesApart Holds Heap.klass
  rw [same]
  exact apart

/-- Scopes of classes stay apart when a class is finished whose scope is that of
no other class. -/
theorem ScopesApart.finishClass
    {heap : Heap}
    {cell : ClassCell}
    (apart : heap.ScopesApart)
    (alone : ∀ klass, heap.Holds (.klass klass) ->
      (heap.klass klass).scope ≠ cell.scope) :
    (heap.finishClass cell).2.ScopesApart := by
  have old {klass : ClassRef} (held : heap.Holds (.klass klass)) :
      (heap.finishClass cell).2.klass klass = heap.klass klass :=
    (heap.extends_finishClass cell).klass_eq klass held
  intro klass other held heldOther same
  rcases klass_finishClass held with heldOld | ⟨rfl, new⟩
  · rw [old heldOld] at same
    rcases klass_finishClass heldOther with otherOld | ⟨rfl, newOther⟩
    · rw [old otherOld] at same
      exact apart klass other heldOld otherOld same
    · rw [newOther] at same
      exact absurd same (alone klass heldOld)
  · rw [new] at same
    rcases klass_finishClass heldOther with otherOld | ⟨rfl, -⟩
    · rw [old otherOld] at same
      exact absurd same.symm (alone other otherOld)
    · rfl

/-- Along a path the scopes of classes stay apart. -/
theorem Path.scopesApart
    {makes : FunctionCell -> Prop}
    {heap later : Heap}
    (path : Path makes heap later)
    (sound : heap.Sound)
    (apart : heap.ScopesApart) :
    later.ScopesApart := by
  induction path with
  | refl => exact apart
  | tail _ step hypothesis =>
      exact (hypothesis sound apart).of_classes_eq step.classes_eq
  | @elaboration first outside inside outer cell earlier heldOuter
      opened inner fits outsideApart insideApart =>
      have soundOutside := earlier.sound sound
      have apartOpened := (outsideApart sound apart).of_classes_eq
        (classes_openClassScope outside outer cell.internalName)
      refine (insideApart
        (soundOutside.openClassScope cell.internalName heldOuter)
        apartOpened).finishClass fun klass held => ?_
      rw [opened]
      exact inner.ne_scope_of_opened soundOutside klass held

/-- A function of two classes is one of the same class. -/
theorem ScopesApart.eq_of_function
    {heap : Heap}
    {klass other : ClassRef}
    {function : FunctionRef}
    (apart : heap.ScopesApart)
    (sound : heap.Sound)
    (held : heap.Holds (.klass klass))
    (heldOther : heap.Holds (.klass other))
    (own : function ∈ (heap.klass klass).functions)
    (shared : function ∈ (heap.klass other).functions) :
    klass = other := by
  refine apart klass other held heldOther (Option.some.inj ?_)
  rw [← (sound.klass klass held).home function own,
    (sound.klass other heldOther).home function shared]

end Heap
end ClassLowering
