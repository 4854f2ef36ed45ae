import ClassLowering.Proofs.Names.KeyEffects
import ClassLowering.Proofs.Names.Lookup
import ClassLowering.Proofs.Runs.KeyRequests

/-!
# Internal names

While the keys of a class are evaluated, its name has no value in the scope of
the class; when they fail it never gets one. Once the class exists its name
means it there, in every state that is reached. Other bindings change only where
keys change them, except for the one that the declaration of a class makes.
-/

namespace ClassLowering

/--
A binding of a scope after an elaboration, which has another one when the
keys are settled: a declaration that succeeds has replaced the binding of the
name of its class.
-/
def ClassBinding.replaced (binding : ClassBinding) (draft : ClassDraft)
    (ref : ScopeRef) (name : String) (old : Option Binding) :
    EStateM.Result Interruption State ClassRef -> Option Binding
  | .error _ _ => old
  | .ok klass _ =>
      if binding = .declaration ∧ ref = draft.scope ∧
          draft.name = some name then
        some ⟨.value (.klass klass), true⟩
      else old

/-- The class that is finished is the one that was put together. -/
theorem Heap.klass_finishClass_self (heap : Heap) (cell : ClassCell) :
    (heap.finishClass cell).2.klass (heap.finishClass cell).1 = cell := by
  have binds := (heap.newClass cell).2.extends_bindSelf cell.scope
    cell.internalName (heap.newClass cell).1
  have same := binds.klass_eq (heap.newClass cell).1 (heap.holds_newClass cell)
  exact same.trans (heap.klass_newClass_self cell)

namespace Elaborates

variable {draft : ClassDraft} {binding : ClassBinding} {scope : ScopeRef}
  {settled after : State}

/-- An elaboration ends with a class of the draft's name in the scope that was
opened for it. -/
theorem klass_eq
    {klass : ClassRef}
    (ends : Elaborates draft binding scope settled (.ok klass after)) :
    (after.heap.klass klass).scope = scope ∧
      (after.heap.klass klass).internalName = draft.name := by
  cases ends with
  | finished inside cell _ _ _ home named =>
      have binds := Heap.extends_bindSelf
        (inside.newClass cell).2 cell.scope cell.internalName
        (inside.newClass cell).1
      have held := binds.holds _ (inside.holds_newClass cell)
      have same : (binding.settle draft (inside.finishClass cell).1
          (inside.finishClass cell).2).klass
          (inside.finishClass cell).1 = cell :=
        ((binding.extends_settle draft _ _).klass_eq _ held).trans
          (inside.klass_finishClass_self cell)
      rw [same]
      exact ⟨home, named⟩

end Elaborates

end ClassLowering
