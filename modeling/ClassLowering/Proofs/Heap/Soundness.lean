import ClassLowering.Proofs.Heap.References
import ClassLowering.Heap.Bindings
import ClassLowering.Heap.Yields
import ClassLowering.Semantics.Properties

/-!
# Sound heaps

A heap is sound when its cells refer only to cells that it holds, when the
functions of a class are bounded by the limits of the class and run in its
scope, and when no key is both a field and a shared member: neither among the
declarations of a class nor between an object and the prototype of its class.

Soundness of a cell is a statement about the cell and the heap that it is, or
will be, part of. It stays true when the heap is extended.
-/

namespace ClassLowering

namespace Heap

/-- Whether a heap holds a function with certain limits. -/
def HoldsBounded (heap : Heap) (limits : Limits) (ref : FunctionRef) : Prop :=
  heap.Holds (.function ref) ∧ (heap.function ref).limits = limits

/-- A function keeps its limits when the heap is extended. -/
theorem HoldsBounded.mono
    {heap later : Heap}
    {limits : Limits}
    {ref : FunctionRef}
    (bounded : heap.HoldsBounded limits ref)
    (extension : heap.Extends later) :
    later.HoldsBounded limits ref :=
  ⟨extension.holds _ bounded.1, by
    rw [extension.function_eq ref bounded.1, bounded.2]⟩

end Heap

/-- A scope refers to cells of a heap. -/
structure ScopeCell.Sound (heap : Heap) (cell : ScopeCell) : Prop where
  slot : ∀ binding ∈ cell.bindings.values, binding.slot.Within heap
  enclosing : ∀ outer ∈ cell.enclosing, heap.Holds (.scope outer)

/-- An object refers to cells of a heap, and none of its fields hides a
shared member. -/
structure ObjectCell.Sound (heap : Heap) (cell : ObjectCell) : Prop where
  klass : ∀ klass ∈ cell.klass, heap.Holds (.klass klass)
  values : AllWithin heap cell.fields.values
  apart : ∀ klass ∈ cell.klass, ∀ key ∈ cell.fields,
    key ∉ (heap.klass klass).prototype

/-- A function runs in a scope of a heap. -/
def FunctionCell.Sound (heap : Heap) (cell : FunctionCell) : Prop :=
  ∀ scope ∈ cell.scope, heap.Holds (.scope scope)

/-- The functions of a class: its constructor, its initializers and its
shared members. -/
def ClassCell.functions (cell : ClassCell) : List FunctionRef :=
  cell.constructor :: (cell.fields.filterMap FieldDeclaration.initializer? ++
    cell.prototype.functions)

/-- A class refers to cells of a heap, bounds and houses its functions and keeps
its keys apart. -/
structure ClassCell.Sound (heap : Heap) (cell : ClassCell) : Prop where
  scope : heap.Holds (.scope cell.scope)
  constructor : heap.HoldsBounded cell.limits cell.constructor
  initializer : ∀ field ∈ cell.fields, ∀ initial ∈ field.initializer?,
    heap.HoldsBounded cell.limits initial
  shared : ∀ function ∈ cell.prototype.functions,
    heap.HoldsBounded cell.limits function
  link : cell.prototype.lookup .constructor = some .constructor
  apart : ∀ field ∈ cell.fields, field.key ∉ cell.prototype
  home : ∀ function ∈ cell.functions,
    (heap.function function).scope = some cell.scope

/-- The functions of a class are bounded by its limits. -/
theorem ClassCell.Sound.holdsBounded
    {heap : Heap}
    {cell : ClassCell}
    {function : FunctionRef}
    (sound : cell.Sound heap)
    (own : function ∈ cell.functions) :
    heap.HoldsBounded cell.limits function := by
  rcases List.mem_cons.1 own with rfl | further
  · exact sound.constructor
  · rcases List.mem_append.1 further with initializes | shared
    · obtain ⟨field, declared, present⟩ := List.mem_filterMap.1 initializes
      exact sound.initializer field declared function present
    · exact sound.shared function shared

/-- A generator hands out values within a heap. -/
def GeneratorCell.Sound (heap : Heap) (cell : GeneratorCell) : Prop :=
  AllWithin heap (cell.pending ++ cell.completion.toList)

section Default

variable (heap : Heap)

theorem ScopeCell.sound_default : (default : ScopeCell).Sound heap where
  slot _ present := absurd present List.not_mem_nil
  enclosing _ present := absurd present List.not_mem_nil

theorem ObjectCell.sound_default : (default : ObjectCell).Sound heap where
  klass _ linked := absurd linked (Option.not_mem_none _)
  values := AllWithin.nil
  apart _ linked := absurd linked (Option.not_mem_none _)

theorem FunctionCell.sound_default : (default : FunctionCell).Sound heap :=
  fun _ home => absurd home (Option.not_mem_none _)

theorem GeneratorCell.sound_default : (default : GeneratorCell).Sound heap :=
    AllWithin.nil

end Default

section Extension

variable {heap later : Heap}

theorem ScopeCell.Sound.mono
    {cell : ScopeCell}
    (sound : cell.Sound heap)
    (extension : heap.Extends later) :
    cell.Sound later where
  slot binding present := (sound.slot binding present).mono extension
  enclosing outer present := extension.holds _ (sound.enclosing outer present)

theorem ObjectCell.Sound.mono
    {cell : ObjectCell}
    (sound : cell.Sound heap)
    (extension : heap.Extends later) :
    cell.Sound later where
  klass klass linked := extension.holds _ (sound.klass klass linked)
  values := sound.values.mono extension
  apart klass linked := by
    rw [extension.klass_eq klass (sound.klass klass linked)]
    exact sound.apart klass linked

theorem FunctionCell.Sound.mono
    {cell : FunctionCell}
    (sound : cell.Sound heap)
    (extension : heap.Extends later) :
    cell.Sound later :=
  fun scope home => extension.holds _ (sound scope home)

theorem ClassCell.Sound.mono
    {cell : ClassCell}
    (sound : cell.Sound heap)
    (extension : heap.Extends later) :
    cell.Sound later where
  scope := extension.holds _ sound.scope
  constructor := sound.constructor.mono extension
  initializer field declared initial present :=
    (sound.initializer field declared initial present).mono extension
  shared function present := (sound.shared function present).mono extension
  link := sound.link
  apart := sound.apart
  home function own := by
    rw [extension.function_eq function (sound.holdsBounded own).1]
    exact sound.home function own

theorem GeneratorCell.Sound.mono
    {cell : GeneratorCell}
    (sound : cell.Sound heap)
    (extension : heap.Extends later) :
    cell.Sound later :=
  AllWithin.mono sound extension

end Extension

namespace Heap

/-- Every cell of a heap is sound. -/
structure Sound (heap : Heap) : Prop where
  scope : ∀ ref, (heap.scope ref).Sound heap
  object : ∀ ref, (heap.object ref).Sound heap
  function : ∀ ref, (heap.function ref).Sound heap
  klass : ∀ ref, heap.Holds (.klass ref) -> (heap.klass ref).Sound heap
  generator : ∀ ref, (heap.generator ref).Sound heap

/-- An extension is sound when every cell is an old one or sound itself. -/
theorem Sound.of_extends
    {heap later : Heap}
    (sound : heap.Sound)
    (extension : heap.Extends later)
    (scope : ∀ ref, later.scope ref = heap.scope ref ∨
      (later.scope ref).Sound later)
    (object : ∀ ref, later.object ref = heap.object ref ∨
      (later.object ref).Sound later)
    (function : ∀ ref, later.function ref = heap.function ref ∨
      (later.function ref).Sound later)
    (klass : ∀ ref, later.Holds (.klass ref) ->
      heap.Holds (.klass ref) ∨ (later.klass ref).Sound later)
    (generator : ∀ ref, later.generator ref = heap.generator ref ∨
      (later.generator ref).Sound later) :
    later.Sound where
  scope ref := (scope ref).elim
    (fun equal => equal ▸ (sound.scope ref).mono extension) id
  object ref := (object ref).elim
    (fun equal => equal ▸ (sound.object ref).mono extension) id
  function ref :=
    (function ref).elim (fun equal =>
      equal ▸ (sound.function ref).mono extension) id
  klass ref held := by
    rcases klass ref held with old | new
    · rw [extension.klass_eq ref old]
      exact (sound.klass ref old).mono extension
    · exact new
  generator ref :=
    (generator ref).elim (fun equal =>
      equal ▸ (sound.generator ref).mono extension) id

/-- The heap without cells is sound. -/
theorem sound_empty : Heap.empty.Sound where
  scope _ := ScopeCell.sound_default _
  object _ := ObjectCell.sound_default _
  function _ := FunctionCell.sound_default _
  klass ref held := absurd held (Nat.not_lt_zero ref.index)
  generator _ := GeneratorCell.sound_default _

end Heap

section Changes

variable {heap : Heap}

/-- Every scope on the path from a scope of a sound heap is held. -/
theorem Heap.Sound.holds_scopePath
    {ref : ScopeRef}
    (sound : heap.Sound)
    (known : heap.Holds (.scope ref)) :
    ∀ outer ∈ heap.scopePath ref, heap.Holds (.scope outer) := by
  intro outer present
  rcases List.mem_cons.1 present with rfl | further
  · exact known
  · exact (sound.scope ref).enclosing outer further

/-- A new scope is sound when the scopes around it are held. -/
theorem ScopeCell.sound_open
    {enclosing : List ScopeRef}
    (known : ∀ outer ∈ enclosing, heap.Holds (.scope outer)) :
    ScopeCell.Sound heap ⟨∅, enclosing⟩ where
  slot _ present := absurd present List.not_mem_nil
  enclosing := known

/-- A scope stays sound when a name is bound to something within the heap. -/
theorem ScopeCell.Sound.insert
    {cell : ScopeCell}
    {name : String}
    {binding : Binding}
    (sound : cell.Sound heap)
    (within : binding.slot.Within heap) :
    ScopeCell.Sound heap
      { cell with bindings := cell.bindings.insert name binding } where
  slot other present := by
    rcases OrderedMap.mem_values_insert present with rfl | old
    · exact within
    · exact sound.slot other old
  enclosing := sound.enclosing

/-- A new object without fields is sound when its class is held. -/
theorem ObjectCell.sound_new
    {klass : Option ClassRef}
    (known : ∀ linked ∈ klass, heap.Holds (.klass linked)) :
    ObjectCell.Sound heap ⟨klass, ∅⟩ where
  klass := known
  values := AllWithin.nil
  apart _ _ key present := absurd present (OrderedMap.not_mem_empty key)

/-- An object stays sound when a field is written whose key is no shared
member. -/
theorem ObjectCell.Sound.insert
    {cell : ObjectCell}
    {key : PropertyKey}
    {value : Value}
    (sound : cell.Sound heap)
    (within : value.Within heap)
    (free : key ∈ cell.fields ∨
      ∀ klass ∈ cell.klass, key ∉ (heap.klass klass).prototype) :
    ObjectCell.Sound heap
      { cell with fields := cell.fields.insert key value } where
  klass := sound.klass
  values other present := by
    rcases OrderedMap.mem_values_insert present with rfl | old
    · exact within
    · exact sound.values other old
  apart klass linked other present := by
    by_cases old : other ∈ cell.fields
    · exact sound.apart klass linked other old
    · have same := (OrderedMap.mem_insert.1 present).resolve_right old
      rw [← OrderedMap.mem_congr same] at old ⊢
      exact free.resolve_left old klass linked

/-- A generator stays sound when it hands out a value. -/
theorem GeneratorCell.Sound.next
    {cell : GeneratorCell}
    (sound : cell.Sound heap) :
    cell.next.2.Sound heap := by
  obtain ⟨pending, completion⟩ := cell
  cases pending with
  | nil => exact AllWithin.nil
  | cons value rest => exact sound.subset (List.subset_cons_self value _)

/-- A generator stays sound when it hands out all values. -/
theorem GeneratorCell.Sound.drain
    {cell : GeneratorCell}
    (sound : cell.Sound heap) :
    cell.drain.2.Sound heap :=
  sound.subset (List.subset_append_right cell.pending _)

end Changes
end ClassLowering
