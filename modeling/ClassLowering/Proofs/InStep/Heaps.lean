import ClassLowering.Evaluation.Calculation
import ClassLowering.Outline.Basic
import ClassLowering.Proofs.Heap.Steps
import ClassLowering.Proofs.InStep.Likeness
import ClassLowering.Proofs.Runs.Properties
import ClassLowering.Session.Showing

/-!
# Heaps that are alike

What the engine reads off two heaps that are alike is the same, and what it does
to them leaves them alike. New cells get the same references in both.
-/

namespace ClassLowering

variable {likeness : Likeness}

namespace Store

variable {kind : CellKind} {α : Type} [Inhabited α] {related : α -> α -> Prop}

/-- Two new cells that are related leave the stores related. -/
theorem Like.push
    {store other : Store kind α}
    {cell otherCell : α}
    (like : store.Like related other)
    (cells : related cell otherCell) :
    (store.push cell).Like related (other.push otherCell) where
  size := by rw [size_push, size_push, like.size]
  cell ref := by
    have next : other.next = store.next := congrArg Ref.mk like.size
    by_cases newest : ref = store.next
    · rw [newest, get?_push_next, ← next, get?_push_next]
      exact cells
    · rw [get?_push_of_ne store cell newest,
        get?_push_of_ne other otherCell (next ▸ newest)]
      exact like.cell ref

/-- Related stores hand out the same reference next. -/
theorem Like.next
    {store other : Store kind α}
    (like : store.Like related other) :
    other.next = store.next :=
  congrArg Ref.mk like.size

end Store

namespace Heap

variable {heap other : Heap}

/-- The texts of members do not show their bodies. -/
theorem memberDiagnostics_eq
    {body : Expr -> Expr -> Prop}
    {members others : List (Member PropertyKey Expr)}
    (like : List.Forall₂ (Member.Like body) members others) :
    others.map memberDiagnostic = members.map memberDiagnostic := by
  induction like with
  | nil => rfl
  | cons first _ hypothesis =>
      rw [List.map_cons, List.map_cons, hypothesis]
      obtain ⟨kind, isGenerator, params, position, key, -⟩ := first
      cases key <;> rfl

/-- The text of a designated constructor does not show its body. -/
theorem constructorDiagnostic_eq
    {body : Expr -> Expr -> Prop}
    {part other : Option (ConstructorPart Expr)}
    (like : Option.Rel (ConstructorPart.Like body) part other) :
    (other.map fun part => memberDiagnostic (constructorMember part)) =
      part.map fun part => memberDiagnostic (constructorMember part) := by
  cases like with
  | none => rfl
  | some parts =>
      cases parts
      rfl

namespace Shows

variable {visible : Value -> Prop} {later : Heap}

/-- What changed cells show may be shown when what they show is. -/
theorem of_cells
    (shows : heap.Shows visible)
    (object : ∀ ref, later.object ref = heap.object ref ∨
      (later.object ref).Shows visible)
    (scope : ∀ ref, later.scope ref = heap.scope ref ∨
      (later.scope ref).Shows visible)
    (generator : ∀ ref, later.generator ref = heap.generator ref ∨
      (later.generator ref).Shows visible)
    (klass : ∀ ref, later.klass ref = heap.klass ref ∨
      (later.klass ref).Shows visible) :
    later.Shows visible where
  object ref := (object ref).elim (fun equal => equal ▸ shows.object ref) id
  scope ref := (scope ref).elim (fun equal => equal ▸ shows.scope ref) id
  generator ref := (generator ref).elim
    (fun equal => equal ▸ shows.generator ref) id
  klass ref := (klass ref).elim (fun equal => equal ▸ shows.klass ref) id

/-- A field with a value that may be shown. -/
theorem defineField
    {value : Value}
    (shows : heap.Shows visible)
    (ref : ObjectRef)
    (key : PropertyKey)
    (seen : visible value) :
    (heap.defineField ref key value).Shows visible := by
  refine shows.of_cells ?_ (fun _ => .inl rfl) (fun _ => .inl rfl)
    (fun _ => .inl rfl)
  intro other
  rcases heap.object_defineField ref other key value with equal | ⟨-, -, equal⟩
  · exact .inl equal
  · right
    intro held present
    rw [equal] at present
    rcases OrderedMap.mem_values_insert present with rfl | old
    · exact seen
    · exact shows.object ref held old

/-- A new object shows nothing. -/
theorem newObject (shows : heap.Shows visible) (klass : Option ClassRef) :
    (heap.newObject klass).2.Shows visible := by
  refine shows.of_cells ?_ (fun _ => .inl rfl) (fun _ => .inl rfl)
    (fun _ => .inl rfl)
  intro ref
  refine (Store.getD_push heap.objects _ ref).imp_right fun equal => ?_
  rw [show (heap.newObject klass).2.object ref = _ from equal]
  exact fun _ present => absurd present List.not_mem_nil

/-- A new scope shows nothing. -/
theorem newScope (shows : heap.Shows visible) (parent : Option ScopeRef) :
    (heap.newScope parent).2.Shows visible := by
  refine shows.of_cells (fun _ => .inl rfl) ?_ (fun _ => .inl rfl)
    (fun _ => .inl rfl)
  intro ref
  refine (Store.getD_push heap.scopes _ ref).imp_right fun equal => ?_
  rw [show (heap.newScope parent).2.scope ref = _ from equal]
  exact fun _ present => absurd present List.not_mem_nil

/-- A binding of a value that may be shown, or of no value. -/
theorem bind
    {binding : Binding}
    (shows : heap.Shows visible)
    (ref : ScopeRef)
    (name : String)
    (seen : ∀ value, binding.slot = .value value -> visible value) :
    (heap.bind ref name binding).Shows visible := by
  refine shows.of_cells (fun _ => .inl rfl) ?_ (fun _ => .inl rfl)
    (fun _ => .inl rfl)
  intro other
  rcases heap.scope_bind ref other name binding with equal | ⟨-, -, equal⟩
  · exact .inl equal
  · right
    intro held present
    rw [equal] at present
    rcases OrderedMap.mem_values_insert present with rfl | old
    · exact seen
    · exact shows.scope ref held old

/-- The scope of a class shows nothing. -/
theorem openClassScope
    (shows : heap.Shows visible)
    (outer : ScopeRef)
    (internalName : Option String) :
    (heap.openClassScope outer internalName).2.Shows visible := by
  have opened := shows.newScope (some outer)
  cases internalName with
  | none => exact opened
  | some name => exact opened.bind _ name nofun

/-- The internal name of a class shows nothing. -/
theorem bindSelf
    (shows : heap.Shows visible)
    (scope : ScopeRef)
    (internalName : Option String)
    (klass : ClassRef) :
    (heap.bindSelf scope internalName klass).Shows visible := by
  cases internalName with
  | none => exact shows
  | some name => exact shows.bind scope name nofun

/-- A new class whose functions may be shown. -/
theorem newClass
    {cell : ClassCell}
    (shows : heap.Shows visible)
    (seen : cell.Shows visible) :
    (heap.newClass cell).2.Shows visible := by
  refine shows.of_cells (fun _ => .inl rfl) (fun _ => .inl rfl)
    (fun _ => .inl rfl) ?_
  intro ref
  refine (Store.getD_push heap.classes cell ref).imp_right fun equal => ?_
  rw [show (heap.newClass cell).2.klass ref = cell from equal]
  exact seen

/-- A new function shows nothing by itself. -/
theorem newFunction (shows : heap.Shows visible) (cell : FunctionCell) :
    (heap.newFunction cell).2.Shows visible :=
  shows.of_cells (fun _ => .inl rfl) (fun _ => .inl rfl) (fun _ => .inl rfl)
    (fun _ => .inl rfl)

/-- A new generator of values that may be shown. -/
theorem newGenerator
    {yields : List Value}
    {completion : Value}
    (shows : heap.Shows visible)
    (seen : ∀ value ∈ yields, visible value)
    (completes : visible completion) :
    (heap.newGenerator yields completion).2.Shows visible := by
  refine shows.of_cells (fun _ => .inl rfl) (fun _ => .inl rfl) ?_
    (fun _ => .inl rfl)
  intro ref
  refine (Store.getD_push heap.generators _ ref).imp_right fun equal => ?_
  rw [show (heap.newGenerator yields completion).2.generator ref = _ from equal]
  intro value present
  rcases List.mem_append.1 present with yielded | completed
  · exact seen value yielded
  · rw [List.mem_singleton.1 completed]
    exact completes

/-- A generator that has handed out a value shows no more than before. -/
theorem nextYield (shows : heap.Shows visible) (ref : GeneratorRef) :
    (heap.nextYield ref).2.Shows visible := by
  refine shows.of_cells (fun _ => .inl rfl) (fun _ => .inl rfl) ?_
    (fun _ => .inl rfl)
  intro other
  refine (Store.getD_set heap.generators ref _ other).imp_right fun equal => ?_
  rw [show (heap.nextYield ref).2.generator other = _ from equal]
  have seen := shows.generator ref
  generalize heap.generator ref = cell at seen ⊢
  obtain ⟨pending, completion⟩ := cell
  cases pending with
  | nil => exact fun _ present => absurd present List.not_mem_nil
  | cons first rest =>
      exact fun value present => seen value (List.mem_cons_of_mem _ present)

/-- A generator that has handed out everything shows no more than before. -/
theorem drainYields (shows : heap.Shows visible) (ref : GeneratorRef) :
    (heap.drainYields ref).2.Shows visible := by
  refine shows.of_cells (fun _ => .inl rfl) (fun _ => .inl rfl) ?_
    (fun _ => .inl rfl)
  intro other
  refine (Store.getD_set heap.generators ref _ other).imp_right fun equal => ?_
  rw [show (heap.drainYields ref).2.generator other = _ from equal]
  exact fun value present =>
    shows.generator ref value (List.mem_append_right _ present)

end Shows

namespace Like

/-- Functions of one reference are alike. -/
theorem function (like : heap.Like likeness other) (ref : FunctionRef) :
    (heap.function ref).Like likeness (other.function ref) :=
  like.functions.cell ref

/-- Classes of one reference are alike. -/
theorem klass (like : heap.Like likeness other) (ref : ClassRef) :
    (heap.klass ref).Like likeness (other.klass ref) :=
  like.classes.cell ref

section Reads

variable (like : heap.Like likeness other)

include like

theorem object_eq : other.object = heap.object := by
  funext ref
  rw [Heap.object, Heap.object, like.objects]

theorem scope_eq : other.scope = heap.scope := by
  funext ref
  rw [Heap.scope, Heap.scope, like.scopes]

theorem generator_eq : other.generator = heap.generator := by
  funext ref
  rw [Heap.generator, Heap.generator, like.generators]

theorem prototype?_eq : other.prototype? = heap.prototype? := by
  funext ref
  simp only [Heap.prototype?, like.object_eq, fun klass =>
    (like.klass klass).prototype]

theorem sharedMember?_eq : other.sharedMember? = heap.sharedMember? := by
  funext ref key
  rw [sharedMember?, sharedMember?, like.prototype?_eq]

theorem readPlan_eq : other.readPlan = heap.readPlan := by
  funext ref key
  simp only [readPlan, like.object_eq, fun klass =>
    (like.klass klass).prototype]

theorem writePlan_eq : other.writePlan = heap.writePlan := by
  funext ref key
  rw [writePlan, writePlan, like.object_eq, like.sharedMember?_eq]

theorem hasConversion_eq : other.hasConversion = heap.hasConversion := by
  funext ref
  rw [hasConversion, hasConversion, like.object_eq, like.prototype?_eq]

theorem className?_eq : other.className? = heap.className? := by
  funext ref
  simp only [className?, like.object_eq, fun klass => (like.klass klass).name]

theorem text_eq : other.text = heap.text := by
  funext value
  cases value <;> simp only [text, (like.klass _).name, (like.function _).name]

theorem diagnostic_eq : other.diagnostic = heap.diagnostic := by
  funext value
  cases value <;> simp only [diagnostic, like.text_eq, like.className?_eq]

theorem guardFault_eq : other.guardFault = heap.guardFault := by
  funext ref
  rw [guardFault, guardFault, (like.klass ref).name]

theorem calculate_eq : other.calculate = heap.calculate := by
  funext calculation operands
  have add : other.add = heap.add := by
    funext left right
    unfold Heap.add
    rw [like.text_eq]
  cases calculation <;>
    simp only [calculate, add, like.text_eq, like.diagnostic_eq]

theorem fieldValue_eq : other.fieldValue = heap.fieldValue := by
  funext ref key
  rw [fieldValue, fieldValue, like.object_eq]

theorem ownTextKeys_eq : other.ownTextKeys = heap.ownTextKeys := by
  funext value
  cases value <;> simp only [ownTextKeys, like.object_eq]

theorem loopKeys_eq : other.loopKeys = heap.loopKeys := by
  funext ref
  rw [loopKeys, loopKeys, like.object_eq, like.prototype?_eq]

theorem isInstance_eq : other.isInstance = heap.isInstance := by
  funext value klass
  cases value <;> simp only [isInstance, like.object_eq]

theorem nearestBinding?_eq : other.nearestBinding? = heap.nearestBinding? := by
  funext ref name
  simp only [nearestBinding?, scopePath, ownBinding?, like.scope_eq]

theorem resolve_eq : other.resolve = heap.resolve := by
  funext isAlive ref name
  rw [resolve, resolve, like.nearestBinding?_eq]

theorem compositeLabel_eq : other.compositeLabel = heap.compositeLabel := by
  funext value
  cases value <;> simp only [compositeLabel, (like.klass _).name,
    (like.function _).name, like.className?_eq]

theorem functionDiagnostic_eq : other.functionDiagnostic =
    heap.functionDiagnostic := by
  funext ref
  simp only [functionDiagnostic, (like.function ref).name,
    (like.function ref).kind, (like.function ref).params]

theorem classDiagnostic_eq : other.classDiagnostic = heap.classDiagnostic := by
  funext ref
  simp only [classDiagnostic, (like.klass ref).name,
    (like.klass ref).internalName, (like.klass ref).fields,
    (like.klass ref).prototype]

theorem objectDiagnostic_eq : other.objectDiagnostic =
    heap.objectDiagnostic := by
  funext ref
  rw [objectDiagnostic, objectDiagnostic, like.object_eq, like.className?_eq]

theorem prototypeDiagnostic_eq : other.prototypeDiagnostic =
    heap.prototypeDiagnostic := by
  have entry : other.entryDiagnostic = heap.entryDiagnostic := by
    funext entry
    cases entry <;> simp only [entryDiagnostic, like.functionDiagnostic_eq]
  funext prototype
  rw [prototypeDiagnostic, prototypeDiagnostic, entry]

theorem scopeDiagnostic_eq : other.scopeDiagnostic = heap.scopeDiagnostic := by
  funext ref
  rw [scopeDiagnostic, scopeDiagnostic, like.scope_eq]

theorem classOutline_eq : other.classOutline = heap.classOutline := by
  have function : other.functionOutline = heap.functionOutline := by
    funext ref
    simp only [functionOutline, (like.function ref).name,
      (like.function ref).kind, (like.function ref).params]
  have entry : other.entryOutline = heap.entryOutline := by
    funext entry
    cases entry <;> simp only [entryOutline, function]
  funext ref
  simp only [classOutline, (like.klass ref).name, (like.klass ref).internalName,
    (like.klass ref).constructor, (like.klass ref).fields,
    (like.klass ref).prototype, (like.function _).params, entry]

theorem parentScope?_eq : other.parentScope? = heap.parentScope? := by
  funext ref
  rw [parentScope?, parentScope?, like.scope_eq]

theorem hasOwnBinding_eq : other.hasOwnBinding = heap.hasOwnBinding := by
  funext ref name
  simp only [hasOwnBinding, ownBinding?, like.scope_eq]

theorem isBound_eq : other.isBound = heap.isBound := by
  funext ref name
  rw [isBound, isBound, like.nearestBinding?_eq]

theorem draftDiagnostic_eq
    {draft further : ClassDraft}
    (drafts : Blueprint.Like likeness.body draft further) :
    other.draftDiagnostic further = heap.draftDiagnostic draft := by
  obtain ⟨name, scope, members, constructor⟩ := drafts
  rw [draftDiagnostic, draftDiagnostic, memberDiagnostics_eq members,
    constructorDiagnostic_eq constructor, like.scopeDiagnostic_eq]

end Reads

section Ownership

variable (like : heap.Like likeness other)

include like

theorem owns_eq : other.owns = heap.owns := by
  funext cell
  cases cell with
  | scope ref => rw [owns, owns, like.scope_eq]
  | object ref => rw [owns, owns, like.object_eq]
  | klass ref =>
      have klass := like.klass ref
      simp only [owns, klass.scope, klass.constructor, klass.fields,
        klass.prototype]
  | function ref => rw [owns, owns, (like.function ref).scope]
  | generator ref => rw [owns, owns, like.generator_eq]

theorem cells_eq : other.cells = heap.cells := by
  simp only [cells, Store.refs, like.scopes, like.objects, like.classes.size,
    like.functions.size, like.generators]

theorem cellCount_eq : other.cellCount = heap.cellCount := by
  simp only [cellCount, like.scopes, like.objects, like.classes.size,
    like.functions.size, like.generators]

theorem cellIndex_eq : other.cellIndex = heap.cellIndex := by
  funext cell
  cases cell <;> simp only [cellIndex, like.cellCount_eq, like.scopes,
    like.objects, like.classes.size, like.functions.size, like.generators]

theorem reaches_eq : other.reaches = heap.reaches := by
  have search (target : AnyRef) (steps : Nat) (marks : Array Bool)
      (pending : List AnyRef) :
      other.searchMeets target steps marks pending =
        heap.searchMeets target steps marks pending := by
    induction steps generalizing marks pending with
    | zero => rfl
    | succ steps hypothesis =>
        simp only [searchMeets, like.cellIndex_eq, like.owns_eq, hypothesis]
  funext roots target
  rw [reaches, reaches, search, like.cellCount_eq]

theorem ownerCounts_eq : other.ownerCounts = heap.ownerCounts := by
  have counts : other.countOwner = heap.countOwner := by
    funext counts owned
    rw [countOwner, countOwner, like.cellIndex_eq]
  rw [ownerCounts, ownerCounts, counts, like.owns_eq, like.cells_eq,
    like.cellCount_eq]

theorem takeAway_eq : other.takeAway = heap.takeAway := by
  have takes : other.takeOwner = heap.takeOwner := by
    funext left owned
    simp only [takeOwner, like.cellIndex_eq]
  funext steps left
  induction steps generalizing left with
  | zero => rfl
  | succ steps hypothesis =>
      obtain ⟨counts, _ | ⟨cell, rest⟩⟩ := left
      · rfl
      · rw [takeAway, takeAway, takes, like.owns_eq, hypothesis]

theorem outlastsRoots_eq : other.outlastsRoots = heap.outlastsRoots := by
  funext target
  rw [outlastsRoots, outlastsRoots, like.ownerCounts_eq, like.takeAway_eq,
    like.cells_eq, like.cellCount_eq, like.cellIndex_eq]

theorem isOwned_eq : other.isOwned = heap.isOwned := by
  funext roots target
  rw [isOwned, isOwned, like.reaches_eq, like.outlastsRoots_eq]

end Ownership

section Changes

variable (like : heap.Like likeness other)

include like

/-- What changes neither functions nor classes leaves heaps alike that it
changes alike. -/
theorem of_changes
    {later further : Heap}
    (scopes : further.scopes = later.scopes)
    (objects : further.objects = later.objects)
    (generators : further.generators = later.generators)
    (nextSymbol : further.nextSymbol = later.nextSymbol)
    (functions : later.functions = heap.functions ∧
      further.functions = other.functions)
    (classes : later.classes = heap.classes ∧ further.classes = other.classes)
    (shows : later.Shows likeness.visible) :
    later.Like likeness further where
  scopes := scopes
  objects := objects
  generators := generators
  nextSymbol := nextSymbol
  functions := by
    rw [functions.1, functions.2]
    exact like.functions
  classes := by
    rw [classes.1, classes.2]
    exact like.classes
  shows := shows
  constructors ref held := by
    rw [Heap.Holds, classes.1] at held
    rw [Heap.klass, classes.1]
    exact like.constructors ref held

theorem defineField
    {value : Value}
    (ref : ObjectRef)
    (key : PropertyKey)
    (seen : likeness.visible value) :
    (heap.defineField ref key value).Like likeness
      (other.defineField ref key value) := by
  refine like.of_changes like.scopes ?_ like.generators like.nextSymbol
    ⟨rfl, rfl⟩ ⟨rfl, rfl⟩ (like.shows.defineField ref key seen)
  rw [Heap.defineField, Heap.defineField, like.objects]

theorem bind
    {binding : Binding}
    (ref : ScopeRef)
    (name : String)
    (seen : ∀ value, binding.slot = .value value -> likeness.visible value) :
    (heap.bind ref name binding).Like likeness
      (other.bind ref name binding) := by
  refine like.of_changes ?_ like.objects like.generators like.nextSymbol
    ⟨rfl, rfl⟩ ⟨rfl, rfl⟩ (like.shows.bind ref name seen)
  rw [Heap.bind, Heap.bind, like.scopes]

theorem bindSelf
    (scope : ScopeRef)
    (internalName : Option String)
    (klass : ClassRef) :
    (heap.bindSelf scope internalName klass).Like likeness
      (other.bindSelf scope internalName klass) := by
  cases internalName with
  | none => exact like
  | some name => exact like.bind scope name nofun

/-- Assigning a name fails for the same reason, or leaves the heaps alike. -/
theorem assign
    {value : Value}
    (ref : ScopeRef)
    (name : String)
    (seen : likeness.visible value) :
    match heap.assign ref name value with
    | .ok later => ∃ further, other.assign ref name value = .ok further ∧
        later.Like likeness further
    | .error cause => other.assign ref name value = .error cause := by
  unfold Heap.assign
  rw [like.nearestBinding?_eq]
  cases heap.nearestBinding? ref name with
  | none => rfl
  | some found =>
      obtain ⟨owner, binding⟩ := found
      dsimp only
      by_cases unusable : binding.slot = .uninitialized
      · rw [if_pos unusable]
        simp only [unusable, if_true]
      · rw [if_neg unusable, if_neg unusable]
        cases binding.isMutable with
        | true =>
            exact ⟨_, rfl, like.bind owner name
              fun held same => by cases same; exact seen⟩
        | false => rfl

theorem newScope (parent : Option ScopeRef) :
    (other.newScope parent).1 = (heap.newScope parent).1 ∧
      (heap.newScope parent).2.Like likeness (other.newScope parent).2 := by
  refine ⟨congrArg Store.next like.scopes,
    like.of_changes ?_ like.objects like.generators
    like.nextSymbol ⟨rfl, rfl⟩ ⟨rfl, rfl⟩ (like.shows.newScope parent)⟩
  simp only [Heap.newScope, scopePath, like.scopes, like.scope_eq]

theorem openClassScope (outer : ScopeRef) (internalName : Option String) :
    (other.openClassScope outer internalName).1 =
      (heap.openClassScope outer internalName).1 ∧
      (heap.openClassScope outer internalName).2.Like likeness
        (other.openClassScope outer internalName).2 := by
  obtain ⟨same, opened⟩ := like.newScope (some outer)
  cases internalName with
  | none => exact ⟨same, opened⟩
  | some name =>
      refine ⟨same, ?_⟩
      have bound := opened.bind (heap.newScope (some outer)).1 name
        (fun _ => nofun : ∀ value, (⟨.uninitialized, false⟩ : Binding).slot =
          .value value -> _)
      simpa only [Heap.openClassScope, same] using bound

theorem newObject (klass : Option ClassRef) :
    (other.newObject klass).1 = (heap.newObject klass).1 ∧
      (heap.newObject klass).2.Like likeness (other.newObject klass).2 := by
  refine ⟨congrArg Store.next like.objects,
    like.of_changes like.scopes ?_ like.generators
    like.nextSymbol ⟨rfl, rfl⟩ ⟨rfl, rfl⟩ (like.shows.newObject klass)⟩
  simp only [Heap.newObject, like.objects]

theorem newSymbol (description : Option String) :
    (other.newSymbol description).1 = (heap.newSymbol description).1 ∧
      (heap.newSymbol description).2.Like likeness
        (other.newSymbol description).2 := by
  refine ⟨?_, like.of_changes like.scopes like.objects like.generators ?_
    ⟨rfl, rfl⟩ ⟨rfl, rfl⟩
    ⟨like.shows.object, like.shows.scope, like.shows.generator,
      like.shows.klass⟩⟩
  · simp only [Heap.newSymbol, like.nextSymbol]
  · simp only [Heap.newSymbol, like.nextSymbol]

theorem newGenerator
    {yields : List Value}
    {completion : Value}
    (seen : likeness.AllVisible yields)
    (completes : likeness.visible completion) :
    (other.newGenerator yields completion).1 =
      (heap.newGenerator yields completion).1 ∧
      (heap.newGenerator yields completion).2.Like likeness
        (other.newGenerator yields completion).2 := by
  refine ⟨congrArg Store.next like.generators,
    like.of_changes like.scopes like.objects ?_
    like.nextSymbol ⟨rfl, rfl⟩ ⟨rfl, rfl⟩
    (like.shows.newGenerator seen completes)⟩
  simp only [Heap.newGenerator, like.generators]

theorem nextYield (ref : GeneratorRef) :
    (other.nextYield ref).1 = (heap.nextYield ref).1 ∧
      (heap.nextYield ref).2.Like likeness (other.nextYield ref).2 := by
  refine ⟨?_, like.of_changes like.scopes like.objects ?_ like.nextSymbol
    ⟨rfl, rfl⟩ ⟨rfl, rfl⟩ (like.shows.nextYield ref)⟩
  · simp only [Heap.nextYield, like.generator_eq]
  · simp only [Heap.nextYield, like.generator_eq, like.generators]

theorem drainYields (ref : GeneratorRef) :
    (other.drainYields ref).1 = (heap.drainYields ref).1 ∧
      (heap.drainYields ref).2.Like likeness (other.drainYields ref).2 := by
  refine ⟨?_, like.of_changes like.scopes like.objects ?_ like.nextSymbol
    ⟨rfl, rfl⟩ ⟨rfl, rfl⟩ (like.shows.drainYields ref)⟩
  · simp only [Heap.drainYields, like.generator_eq]
  · simp only [Heap.drainYields, like.generator_eq, like.generators]

theorem newFunction
    {cell further : FunctionCell}
    (cells : cell.Like likeness further) :
    (other.newFunction further).1 = (heap.newFunction cell).1 ∧
      (heap.newFunction cell).2.Like likeness (other.newFunction further).2 :=
  ⟨like.functions.next, like.scopes, like.objects, like.generators,
    like.nextSymbol,
    like.functions.push cells, like.classes, like.shows.newFunction cell,
    like.constructors⟩

theorem newClass
    {cell further : ClassCell}
    (cells : cell.Like likeness further)
    (seen : cell.Shows likeness.visible)
    (constructs : likeness.constructs cell.constructor) :
    (other.newClass further).1 = (heap.newClass cell).1 ∧
      (heap.newClass cell).2.Like likeness (other.newClass further).2 := by
  refine ⟨like.classes.next, like.scopes, like.objects, like.generators,
    like.nextSymbol,
    like.functions, like.classes.push cells, like.shows.newClass seen,
    fun ref held => ?_⟩
  by_cases old : heap.Holds (.klass ref)
  · rw [klass_newClass old]
    exact like.constructors ref old
  · have newest : ref = (heap.newClass cell).1 := by
      simp only [Holds, Heap.newClass, Store.size_push] at held old
      exact congrArg Ref.mk (show ref.index = heap.classes.size by omega)
    rw [newest, klass_newClass_self]
    exact constructs

end Changes

end Like
end Heap

namespace State

variable {state other : State}

/-- A class exists in both of two states that are alike, or in neither. -/
theorem Like.isAlive_eq
    (like : state.Like likeness other) :
    other.isAlive = state.isAlive := by
  funext holding klass
  rw [isAlive, isAlive, like.session, like.heap.isOwned_eq]

end State
end ClassLowering
