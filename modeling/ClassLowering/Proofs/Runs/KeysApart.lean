import ClassLowering.Proofs.Runs.Programs

/-!
# Fields and shared members

No key is ever both a field of an object and a shared member of its class. The
check at the end of an elaboration keeps declared fields apart from shared
members, fields are only defined as they are declared, and a write never stores
under a shared key. The heap of every state is sound, and this is what
soundness says.

Fields are never removed and classes never change. So a state in which a run is
stopped shows everything that the run did before, whether or not it would have
faulted later.
-/

namespace ClassLowering

/-- A key that does not belong to a map has another identity than every
key of the map. -/
theorem identity_ne_of_not_mem
    {α : Type}
    {map : OrderedMap PropertyKey α}
    {key stored : PropertyKey}
    (absent : key ∉ map)
    (present : stored ∈ map.keys) :
    key.identity ≠ stored.identity := by
  intro same
  refine absent (OrderedMap.mem_iff_keys.2 ⟨stored, present, ?_⟩)
  exact PropertyKey.beq_iff_identity_eq.2 same.symm

namespace Program

/--
Wherever a program is stopped, no key of an object has the identity of a key of
the prototype of its class, and no field that the class declares has. The link
to the class is one of the keys of the prototype.
-/
theorem keys_apart
    (stop : State -> Bool)
    (bound : Nat)
    (steps : List Step) :
    let heap := (endState (callUntil stop bound) initialState steps).heap
    (∀ ref klass, (heap.object ref).klass = some klass ->
      heap.Holds (.klass klass) ∧
      ∀ key ∈ (heap.object ref).fields.keys,
      ∀ shared ∈ (heap.klass klass).prototype.keys,
        key.identity ≠ shared.identity) ∧
    ∀ klass, heap.Holds (.klass klass) ->
      .constructor ∈ (heap.klass klass).prototype.keys ∧
        ∀ field ∈ (heap.klass klass).fields,
        ∀ shared ∈ (heap.klass klass).prototype.keys,
          field.key.identity ≠ shared.identity := by
  intro heap
  have sound : heap.Sound :=
    (sound_endState stop bound steps sound_initialState).heap
  refine ⟨fun ref klass linked => ?_, fun klass held => ?_⟩
  · have cell := sound.object ref
    refine ⟨cell.klass klass linked, fun key own shared present => ?_⟩
    exact identity_ne_of_not_mem
      (cell.apart klass linked key (OrderedMap.mem_of_mem_keys own)) present
  · have cell := sound.klass klass held
    refine ⟨?_, fun field declared shared present =>
      identity_ne_of_not_mem (cell.apart field declared) present⟩
    have linked : PropertyKey.constructor ∈ (heap.klass klass).prototype := by
      by_contra absent
      have missing := (Prototype.lookup_eq_none_iff _ _).2 absent
      rw [cell.link] at missing
      cases missing
    obtain ⟨stored, present, isLink⟩ := OrderedMap.mem_iff_keys.1 linked
    rwa [PropertyKey.beq_constructor_iff.1 isLink] at present

/-- A class with a field whose initializer throws, and an object of it that
leaked before. -/
def leakingSteps : List Step :=
  let keep : Expr :=
    .apply (.storage (.setVariable "leaked")) [.apply (.frame .receiver) []]
  let fault : Expr := .apply .throw [.literal .null]
  let form : ClassForm Expr := {
    blueprint := {
      name := some "Leaky"
      scope := none
      body := {
        members := [
          ⟨.method, .literal (.text "shared"), false, none, [], 0⟩,
          ⟨.field, .literal (.text "own"), false, none, [], 1⟩,
          ⟨.field, .literal (.text "late"), false,
            some (.sequence [keep, fault]), [], 2⟩]
        constructor := none } }
    binding := .expression
    limits := .standard }
  [.evaluate (.apply (.host .construct) [.klass form]) none]

/-- The object that leaked has its first field and none that its
prototype has. -/
theorem keys_apart_leakingSteps :
    let heap :=
      (endState (callUntil (fun _ => false) 2) initialState leakingSteps).heap
    (heap.object ⟨0⟩).klass = some ⟨0⟩ ∧
      (heap.object ⟨0⟩).fields.keys = [.ofText "own"] ∧
      (heap.klass ⟨0⟩).prototype.keys = [.constructor, .ofText "shared"] ∧
      ∀ key ∈ (heap.object ⟨0⟩).fields.keys,
      ∀ shared ∈ (heap.klass ⟨0⟩).prototype.keys,
        key.identity ≠ shared.identity := by
  have linked :
      ((endState (callUntil (fun _ => false) 2) initialState
        leakingSteps).heap.object ⟨0⟩).klass = some ⟨0⟩ := by
    decide +kernel
  have own :
      ((endState (callUntil (fun _ => false) 2) initialState
        leakingSteps).heap.object ⟨0⟩).fields.keys = [.ofText "own"] := by
    decide +kernel
  have shared :
      ((endState (callUntil (fun _ => false) 2) initialState
        leakingSteps).heap.klass ⟨0⟩).prototype.keys =
          [.constructor, .ofText "shared"] := by
    decide +kernel
  exact ⟨linked, own, shared,
    ((keys_apart (fun _ => false) 2 leakingSteps).1 ⟨0⟩ ⟨0⟩ linked).2⟩

end Program
end ClassLowering
