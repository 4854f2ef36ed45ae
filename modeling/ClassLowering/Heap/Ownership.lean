import ClassLowering.Heap.Cells

/-!
# Ownership

A cell exists as long as something owns it: a root outside the heap, or
another cell that exists. An object owns its class and its field values, a
class its functions and its scope, a function its home scope, a scope the
scope around it and the values bound in it, a generator the values it will
hand out. The link from a class scope to its class and the link from a
prototype to its class own nothing.

Cells that own each other in a ring stay for ever, and so does what they own. A
cell therefore exists in two cases: a root reaches it, or it is left when cells
without an owner are taken away until there are none. Both searches visit a
cell at most once.
-/

namespace ClassLowering

/-- The identity of any cell. -/
inductive AnyRef
  | scope (ref : ScopeRef)
  | object (ref : ObjectRef)
  | klass (ref : ClassRef)
  | function (ref : FunctionRef)
  | generator (ref : GeneratorRef)
  deriving DecidableEq, Repr

/-- Values and scopes that computations in progress will still use. -/
structure Holding where
  values : List (List Value)
  scopes : List ScopeRef

namespace Value

/-- The cell that a value refers to. -/
def cell? : Value -> Option AnyRef
  | .object ref => some (.object ref)
  | .klass ref => some (.klass ref)
  | .function ref => some (.function ref)
  | .generator ref => some (.generator ref)
  | _ => none

end Value

namespace Holding

/-- Nothing is in progress. -/
def none : Holding := ⟨[], []⟩

/-- Hold some more values. -/
def hold (holding : Holding) (values : List Value) : Holding :=
  { holding with values := values :: holding.values }

/-- Hold one more scope. -/
def holdScope (holding : Holding) (scope : ScopeRef) : Holding :=
  { holding with scopes := scope :: holding.scopes }

/-- The cells that are held. -/
def cells (holding : Holding) : List AnyRef :=
  holding.values.flatMap (·.filterMap Value.cell?) ++ holding.scopes.map .scope

end Holding

namespace Heap

/-- The values that a slot owns. -/
def slotCells : Slot -> List AnyRef
  | .value value => value.cell?.toList
  | .uninitialized | .selfReference _ => []

/-- The cells that a cell owns. -/
def owns (heap : Heap) : AnyRef -> List AnyRef
  | .scope ref =>
      let cell := heap.scope ref
      (cell.enclosing.head?.map AnyRef.scope).toList ++
        cell.bindings.values.flatMap fun binding => slotCells binding.slot
  | .object ref =>
      let cell := heap.object ref
      (cell.klass.map AnyRef.klass).toList ++
        cell.fields.values.filterMap Value.cell?
  | .klass ref =>
      let cell := heap.klass ref
      .scope cell.scope :: .function cell.constructor ::
        (cell.fields.filterMap FieldDeclaration.initializer?).map .function ++
        cell.prototype.functions.map .function
  | .function ref => ((heap.function ref).scope.map AnyRef.scope).toList
  | .generator ref =>
      let cell := heap.generator ref
      (cell.pending ++ cell.completion.toList).filterMap Value.cell?

/-- Every cell of the heap. -/
def cells (heap : Heap) : List AnyRef :=
  heap.scopes.refs.map .scope ++ heap.objects.refs.map .object ++
    heap.classes.refs.map .klass ++ heap.functions.refs.map .function ++
    heap.generators.refs.map .generator

/-- The number of cells of the heap. -/
def cellCount (heap : Heap) : Nat :=
  heap.scopes.size + heap.objects.size + heap.classes.size +
    heap.functions.size + heap.generators.size

/-- The position of a cell among all cells. A cell that the heap lacks comes
behind all of them. -/
def cellIndex (heap : Heap) : AnyRef -> Nat
  | .scope ref =>
      if ref.index < heap.scopes.size then ref.index else heap.cellCount
  | .object ref =>
      if ref.index < heap.objects.size then heap.scopes.size + ref.index
        else heap.cellCount
  | .klass ref =>
      if ref.index < heap.classes.size
        then heap.scopes.size + heap.objects.size + ref.index
      else heap.cellCount
  | .function ref =>
      if ref.index < heap.functions.size then
        heap.scopes.size + heap.objects.size + heap.classes.size + ref.index
      else heap.cellCount
  | .generator ref =>
      if ref.index < heap.generators.size then
        heap.scopes.size + heap.objects.size + heap.classes.size +
          heap.functions.size + ref.index
      else heap.cellCount

/--
Whether a search meets a cell. The search has visited the marked cells and still
has to visit the pending ones; every step but the last marks one more cell.
-/
def searchMeets (heap : Heap) (target : AnyRef) :
    Nat -> Array Bool -> List AnyRef -> Bool
  | 0, _, _ => false
  | steps + 1, marks, pending =>
      match pending.dropWhile fun cell =>
          marks.getD (heap.cellIndex cell) true with
      | [] => false
      | cell :: rest =>
          if cell = target then true
          else
            heap.searchMeets target steps
              (marks.setIfInBounds (heap.cellIndex cell) true)
              (heap.owns cell ++ rest)

/-- Whether one of some cells is a given cell or owns it, at any remove. -/
def reaches (heap : Heap) (roots : List AnyRef) (target : AnyRef) : Bool :=
  heap.searchMeets target (heap.cellCount + 1)
    (Array.replicate heap.cellCount false) roots

/-- Count one more owner of a cell. -/
def countOwner (heap : Heap) (counts : Array Nat)
    (owned : AnyRef) : Array Nat :=
  counts.modify (heap.cellIndex owned) (· + 1)

/-- How many times each cell is owned by cells. -/
def ownerCounts (heap : Heap) : Array Nat :=
  heap.cells.foldl (fun counts owner =>
    (heap.owns owner).foldl heap.countOwner counts)
    (Array.replicate heap.cellCount 0)

/-- Take one owner from a cell. The cell is freed if that was the last one. -/
def takeOwner (heap : Heap) (left : Array Nat × List AnyRef) (owned : AnyRef) :
    Array Nat × List AnyRef :=
  let counts := left.1.modify (heap.cellIndex owned) (· - 1)
  if counts.getD (heap.cellIndex owned) 0 = 0 then (counts, owned :: left.2)
  else (counts, left.2)

/-- Take away freed cells, and the cells that this frees. Every step takes
one cell away. -/
def takeAway (heap : Heap) : Nat -> Array Nat × List AnyRef -> Array Nat
  | 0, (counts, _) => counts
  | _, (counts, []) => counts
  | steps + 1, (counts, cell :: rest) =>
      heap.takeAway steps ((heap.owns cell).foldl heap.takeOwner (counts, rest))

/-- Whether a cell is left when cells that no cell owns are taken away until
there are none. -/
def outlastsRoots (heap : Heap) (target : AnyRef) : Bool :=
  let counts := heap.ownerCounts
  let unowned := heap.cells.filter fun cell =>
    counts.getD (heap.cellIndex cell) 0 = 0
  (heap.takeAway heap.cellCount (counts, unowned)).getD
    (heap.cellIndex target) 0 ≠ 0

/-- Whether a cell exists while some roots are held. -/
def isOwned (heap : Heap) (roots : List AnyRef) (target : AnyRef) : Bool :=
  heap.reaches roots target || heap.outlastsRoots target

end Heap
end ClassLowering
