import ClassLowering.Proofs.Heap.References
import ClassLowering.Session.State
import Mathlib.Data.List.Forall2
import Mathlib.Data.Option.Basic

/-!
# States that are alike

Two runs are in step when their states stay alike: when all that a body can look
at is the same in both. What may differ are the limits of classes, in so far as
this is allowed, and the bodies of functions, which may themselves have been
written with other limits.

There may also be values that no body ever gets hold of. Nothing in a state that
is seen by bodies refers to one of them: no field, no binding, no yield, no
variable of the session, and no function that a class hands out. What a class
does not hand out is its constructor, of which something else may be known.
-/

namespace ClassLowering

section Forms

variable {σ κ β : Type} (body : β -> β -> Prop)

/-- Two keys of members are alike, up to the bodies of computed ones. -/
inductive MemberKey.Like : MemberKey κ β -> MemberKey κ β -> Prop
  | literal (key : κ) : Like (.literal key) (.literal key)
  | computed {own other : β} :
      body own other -> Like (.computed own) (.computed other)

/-- Two members are alike, up to their bodies. -/
inductive Member.Like : Member κ β -> Member κ β -> Prop
  | of (kind : MemberKind) {key otherKey : MemberKey κ β} (isGenerator : Bool)
      {procedure otherProcedure : Option β} (params : List String)
      (position : Position) :
      MemberKey.Like body key otherKey ->
        Option.Rel body procedure otherProcedure ->
        Like ⟨kind, key, isGenerator, procedure, params, position⟩
          ⟨kind, otherKey, isGenerator, otherProcedure, params, position⟩

/-- Two designated constructors are alike, up to their bodies. -/
inductive ConstructorPart.Like : ConstructorPart β -> ConstructorPart β -> Prop
  | of (params : List String) {procedure otherProcedure : Option β}
      (position : Position) :
      Option.Rel body procedure otherProcedure ->
        Like ⟨params, procedure, position⟩ ⟨params, otherProcedure, position⟩

/-- Two classes as written are alike, up to their bodies. -/
inductive Blueprint.Like : Blueprint σ κ β -> Blueprint σ κ β -> Prop
  | of (name : Option String) {members others : List (Member κ β)}
      {constructor otherConstructor : Option (ConstructorPart β)} (scope : σ) :
      List.Forall₂ (Member.Like body) members others ->
        Option.Rel (ConstructorPart.Like body) constructor otherConstructor ->
          Like ⟨name, ⟨members, constructor⟩, scope⟩
            ⟨name, ⟨others, otherConstructor⟩, scope⟩

/-- Two classes as expressions write them are alike, up to their bodies and
limits. -/
inductive ClassForm.Like (limits : Limits -> Limits -> Prop) :
    ClassForm β -> ClassForm β -> Prop
  | of {blueprint other : Blueprint (Option String) WrittenKey β}
      (binding : ClassBinding)
      {own further : Limits} :
      Blueprint.Like body blueprint other -> limits own further ->
        Like limits ⟨blueprint, binding, own⟩ ⟨other, binding, further⟩

end Forms

/--
Two expressions have the same outermost form, and related parts. Only where
faults may be caught does an expression catch any.
-/
inductive Expr.Layer (limits : Limits -> Limits -> Prop) (catches : Prop)
    (related : Expr -> Expr -> Prop) : Expr -> Expr -> Prop
  | literal (value : Literal) :
      Layer limits catches related (.literal value) (.literal value)
  | apply (operation : Operation) {operands others : List Expr} :
      List.Forall₂ related operands others ->
        Layer limits catches related (.apply operation operands)
          (.apply operation others)
  | sequence {steps others : List Expr} :
      List.Forall₂ related steps others ->
        Layer limits catches related (.sequence steps) (.sequence others)
  | choose {condition whenTrue whenFalse otherCondition otherTrue
      otherFalse : Expr} :
      related condition otherCondition -> related whenTrue otherTrue ->
        related whenFalse otherFalse ->
          Layer limits catches related (.choose condition whenTrue whenFalse)
            (.choose otherCondition otherTrue otherFalse)
  | loop (name : String) {count body otherCount otherBody : Expr} :
      related count otherCount -> related body otherBody ->
        Layer limits catches related (.loop name count body)
          (.loop name otherCount otherBody)
  | attempt {body handler otherBody otherHandler : Expr} :
      catches -> related body otherBody -> related handler otherHandler ->
        Layer limits catches related (.attempt body handler)
          (.attempt otherBody otherHandler)
  | function (name : String) {body other : Expr} :
      related body other -> Layer limits catches related (.function name body)
        (.function name other)
  | run {body other : Expr} :
      related body other -> Layer limits catches related (.run body)
        (.run other)
  | klass {form other : ClassForm Expr} :
      ClassForm.Like related limits form other ->
        Layer limits catches related (.klass form) (.klass other)

/-- What two runs in step may differ in, and what bodies may get hold of. -/
structure Likeness where
  /-- How the limits of one class may differ. -/
  limits : Limits -> Limits -> Prop
  /-- How the bodies of one function may differ. -/
  body : Expr -> Expr -> Prop
  /-- Whether bodies may catch faults. -/
  catches : Prop
  /-- The values that bodies may get hold of. -/
  visible : Value -> Prop
  /-- What is known of the constructors of classes. -/
  constructs : FunctionRef -> Prop
  limits_refl (own : Limits) : limits own own
  nothing : body .nothing .nothing
  layer {own other : Expr} :
      body own other -> Expr.Layer limits catches body own other
  visible_of_not_function (value : Value) :
      (∀ ref, value ≠ .function ref) -> visible value

variable (likeness : Likeness)

/-- Bodies may get hold of all of some values. -/
def Likeness.AllVisible (values : List Value) : Prop :=
  ∀ value ∈ values, likeness.visible value

/-- Two functions are alike. -/
structure FunctionCell.Like (cell other : FunctionCell) : Prop where
  name : other.name = cell.name
  kind : other.kind = cell.kind
  params : other.params = cell.params
  scope : other.scope = cell.scope
  body : likeness.body cell.body other.body
  limits : likeness.limits cell.limits other.limits

/-- Two classes are alike. Their functions are the same references. -/
structure ClassCell.Like (cell other : ClassCell) : Prop where
  name : other.name = cell.name
  internalName : other.internalName = cell.internalName
  constructor : other.constructor = cell.constructor
  fields : other.fields = cell.fields
  prototype : other.prototype = cell.prototype
  scope : other.scope = cell.scope
  limits : likeness.limits cell.limits other.limits

/-- Two stores have handed out the same references, and their cells are
related. -/
structure Store.Like {kind : CellKind} {α : Type} [Inhabited α]
    (related : α -> α -> Prop) (store other : Store kind α) : Prop where
  size : other.size = store.size
  cell : ∀ ref, related ((store.get? ref).getD default)
    ((other.get? ref).getD default)

section Shows

variable (visible : Value -> Prop)

/-- Bodies may get hold of the values of all fields. -/
def ObjectCell.Shows (cell : ObjectCell) : Prop :=
  ∀ value ∈ cell.fields.values, visible value

/-- Bodies may get hold of the values of all bindings. -/
def ScopeCell.Shows (cell : ScopeCell) : Prop :=
  ∀ binding ∈ cell.bindings.values, ∀ value, binding.slot = .value value ->
    visible value

/-- Bodies may get hold of all values that are still to be handed out. -/
def GeneratorCell.Shows (cell : GeneratorCell) : Prop :=
  ∀ value ∈ cell.pending ++ cell.completion.toList, visible value

/-- Bodies may get hold of the functions of a class, but for its constructor. -/
structure ClassCell.Shows (cell : ClassCell) : Prop where
  initializer : ∀ field ∈ cell.fields, ∀ initial ∈ field.initializer?,
    visible (.function initial)
  shared : ∀ function ∈ cell.prototype.functions, visible (.function function)

/-- Bodies may get hold of all values that a heap hands out. -/
structure Heap.Shows (heap : Heap) : Prop where
  object : ∀ ref, (heap.object ref).Shows visible
  scope : ∀ ref, (heap.scope ref).Shows visible
  generator : ∀ ref, (heap.generator ref).Shows visible
  klass : ∀ ref, (heap.klass ref).Shows visible

/-- What is shown has every property that all visible values have. -/
theorem Heap.Shows.imp
    {visible further : Value -> Prop}
    {heap : Heap}
    (shows : heap.Shows visible)
    (implies : ∀ {value : Value}, visible value -> further value) :
    heap.Shows further where
  object ref value present := implies (shows.object ref value present)
  scope ref binding bound value held :=
    implies (shows.scope ref binding bound value held)
  generator ref value present := implies (shows.generator ref value present)
  klass ref :=
    { initializer := fun field declared initial makes =>
        implies ((shows.klass ref).initializer field declared initial makes)
      shared := fun function present =>
        implies ((shows.klass ref).shared function present) }

end Shows

/-- Two heaps are alike. -/
structure Heap.Like (heap other : Heap) : Prop where
  scopes : other.scopes = heap.scopes
  objects : other.objects = heap.objects
  generators : other.generators = heap.generators
  nextSymbol : other.nextSymbol = heap.nextSymbol
  functions : heap.functions.Like (FunctionCell.Like likeness) other.functions
  classes : heap.classes.Like (ClassCell.Like likeness) other.classes
  shows : heap.Shows likeness.visible
  constructors : ∀ ref, heap.Holds (.klass ref) ->
    likeness.constructs (heap.klass ref).constructor

/-- Two states are alike. -/
structure State.Like (state other : State) : Prop where
  heap : state.heap.Like likeness other.heap
  session : other.session = state.session
  record : other.record = state.record
  stored : likeness.AllVisible state.session.storedValues.values

section Defaults

variable {likeness}

/-- A function that does nothing is like itself. -/
theorem FunctionCell.Like.default :
    (default : FunctionCell).Like likeness default :=
  ⟨rfl, rfl, rfl, rfl, likeness.nothing, likeness.limits_refl _⟩

/-- A class without members is like itself. -/
theorem ClassCell.Like.default : (default : ClassCell).Like likeness default :=
  ⟨rfl, rfl, rfl, rfl, rfl, rfl, likeness.limits_refl _⟩

/-- A function is what another one is, but for its body and its limits. -/
theorem FunctionCell.Like.eq
    {cell other : FunctionCell}
    (like : cell.Like likeness other) :
    other = { cell with body := other.body, limits := other.limits } := by
  obtain ⟨name, kind, params, body, scope, limits⟩ := other
  obtain ⟨rfl, rfl, rfl, rfl, -, -⟩ := like
  rfl

/-- A class is what another one is, but for its limits. -/
theorem ClassCell.Like.eq
    {cell other : ClassCell}
    (like : cell.Like likeness other) :
    other = { cell with limits := other.limits } := by
  obtain ⟨name, internalName, constructor, fields, prototype, scope, limits⟩ :=
    other
  obtain ⟨rfl, rfl, rfl, rfl, rfl, rfl, -⟩ := like
  rfl

/-- Bodies may get hold of `undefined`. -/
theorem Likeness.visible_undefined
    (likeness : Likeness) :
    likeness.visible .undefined :=
  likeness.visible_of_not_function _ nofun

/-- Bodies may get hold of objects. -/
theorem Likeness.visible_object (likeness : Likeness) (ref : ObjectRef) :
    likeness.visible (.object ref) :=
  likeness.visible_of_not_function _ nofun

/-- Bodies may get hold of no values. -/
theorem Likeness.AllVisible.nil : likeness.AllVisible [] :=
    List.forall_mem_nil _

/-- Bodies may get hold of an operand when they may get hold of all. -/
theorem Likeness.AllVisible.getD
    {values : List Value}
    (visible : likeness.AllVisible values)
    (index : Nat) :
    likeness.visible (values.getD index .undefined) := by
  rw [List.getD_eq_getElem?_getD]
  cases found : values[index]? with
  | none => exact likeness.visible_undefined
  | some value => exact visible value (List.mem_of_getElem? found)

/-- Bodies may get hold of what is left of some values. -/
theorem Likeness.AllVisible.drop
    {values : List Value}
    (visible : likeness.AllVisible values)
    (count : Nat) :
    likeness.AllVisible (values.drop count) :=
  fun value present => visible value (List.mem_of_mem_drop present)

/-- Bodies may get hold of a value that is put in the place of another one. -/
theorem Likeness.AllVisible.insert
    {κ : Type}
    [DecidableEq κ]
    {map : OrderedMap κ Value}
    {value : Value}
    (visible : likeness.AllVisible map.values)
    (key : κ)
    (seen : likeness.visible value) :
    likeness.AllVisible (map.insert key value).values := by
  intro other present
  rcases OrderedMap.mem_values_insert present with rfl | old
  · exact seen
  · exact visible other old

/-- Bodies may get hold of what is found among values. -/
theorem Likeness.AllVisible.find?
    {κ : Type}
    [DecidableEq κ]
    {map : OrderedMap κ Value}
    (visible : likeness.AllVisible map.values)
    (key : κ) :
    likeness.visible ((map.find? key).getD .undefined) := by
  cases found : map.find? key with
  | none => exact likeness.visible_undefined
  | some value => exact visible value (OrderedMap.mem_values_of_find? found)

end Defaults

end ClassLowering
