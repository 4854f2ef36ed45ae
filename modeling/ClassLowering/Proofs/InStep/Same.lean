import ClassLowering.Proofs.InStep.Reports

/-!
# A run beside itself

A run is in step with itself. What a coupling then says is said about one run:
nothing differs in the two states, and all that is left are the values that no
body gets hold of.
-/

namespace ClassLowering

section Forms

variable {β : Type} {limits : Limits -> Limits -> Prop}

/-- A class as written is like itself, if what is smaller than the class is
related to itself. -/
theorem Blueprint.Like.of_smaller
    {σ κ : Type}
    [SizeOf σ]
    [SizeOf κ]
    [SizeOf β]
    {body : β -> β -> Prop}
    (blueprint : Blueprint σ κ β)
    (same : ∀ own : β, sizeOf own < sizeOf blueprint -> body own own) :
    blueprint.Like body blueprint := by
  obtain ⟨name, ⟨members, constructor⟩, scope⟩ := blueprint
  simp only [Blueprint.mk.sizeOf_spec, ClassBody.mk.sizeOf_spec] at same
  have procedures (procedure : Option β)
      (smaller : sizeOf procedure < sizeOf members + sizeOf constructor) :
      Option.Rel body procedure procedure := by
    cases procedure with
    | none => exact .none
    | some own =>
        simp only [Option.some.sizeOf_spec] at smaller
        exact .some (same own (by omega))
  refine .of name scope (List.forall₂_same.2 fun member present => ?_) ?_
  · have smaller := List.sizeOf_lt_of_mem present
    obtain ⟨kind, key, isGenerator, procedure, params, position⟩ := member
    simp only [Member.mk.sizeOf_spec] at smaller
    refine .of kind isGenerator params position ?_
      (procedures procedure (by omega))
    cases key with
    | literal key => exact .literal key
    | computed own =>
        simp only [MemberKey.computed.sizeOf_spec] at smaller
        exact .computed (same own (by omega))
  · cases constructor with
    | none => exact .none
    | some part =>
        obtain ⟨params, procedure, position⟩ := part
        refine .some (.of params position (procedures procedure ?_))
        simp only [Option.some.sizeOf_spec, ConstructorPart.mk.sizeOf_spec]
        omega

/-- A class as written is like itself. -/
theorem Blueprint.Like.refl
    {σ κ : Type}
    (blueprint : Blueprint σ κ β) :
    blueprint.Like (· = ·) blueprint :=
  .of_smaller blueprint fun _ _ => rfl

/-- A key is like itself. -/
theorem MemberKey.Like.refl
    {κ : Type}
    (key : MemberKey κ β) :
    key.Like (· = ·) key := by
  cases key with
  | literal key => exact .literal key
  | computed body => exact .computed rfl

/-- Where bodies are the same, classes as written that are alike are the
same. -/
theorem Blueprint.Like.eq
    {σ κ : Type}
    {blueprint other : Blueprint σ κ β}
    (like : blueprint.Like (· = ·) other) :
    other = blueprint := by
  have procedures {procedure last : Option β}
      (same : Option.Rel (· = ·) procedure last) :
      last = procedure := by
    cases same with
    | none => rfl
    | some equal => rw [equal]
  obtain ⟨name, scope, members, constructors⟩ := like
  have sameMembers := List.forall₂_eq_eq_eq ▸
      members.imp fun member last same => by
    obtain ⟨kind, isGenerator, params, position, keys, bodies⟩ := same
    cases keys with
    | literal key => rw [procedures bodies]
    | computed equal => rw [procedures bodies, equal]
  cases constructors with
  | none => rw [sameMembers]
  | some same =>
      obtain ⟨params, position, bodies⟩ := same
      rw [sameMembers, procedures bodies]

/-- A class as an expression writes it is like itself. -/
theorem ClassForm.Like.refl
    (form : ClassForm β) :
    form.Like (· = ·) (· = ·) form :=
  .of form.binding (.refl form.blueprint) rfl

/-- An expression has its own outermost form and its own parts. -/
theorem Expr.Layer.refl
    (expr : Expr) :
    Expr.Layer (· = ·) True (· = ·) expr expr := by
  cases expr with
  | literal literal => exact .literal literal
  | apply operation operands =>
      exact .apply operation (List.forall₂_same.2 fun _ _ => rfl)
  | sequence steps => exact .sequence (List.forall₂_same.2 fun _ _ => rfl)
  | choose condition whenTrue whenFalse => exact .choose rfl rfl rfl
  | loop name count body => exact .loop name rfl rfl
  | attempt body handler => exact .attempt trivial rfl rfl
  | function name body => exact .function name rfl
  | run body => exact .run rfl
  | klass form => exact .klass (.refl form)

end Forms

/-- Nothing differs, only some values may be got hold of, and something is known
of constructors. -/
def Likeness.same (visible : Value -> Prop) (constructs : FunctionRef -> Prop)
    (others : ∀ value : Value, (∀ ref, value ≠ .function ref) ->
      visible value) : Likeness where
  limits := (· = ·)
  body := (· = ·)
  catches := True
  visible := visible
  constructs := constructs
  limits_refl _ := rfl
  nothing := rfl
  layer {own _} same := same ▸ .refl own
  visible_of_not_function := others

/-- Nothing differs, and all values may be got hold of. -/
def Likeness.identical : Likeness :=
    .same (fun _ => True) (fun _ => True) fun _ _ => trivial

/-- Stores that are alike are the same when related cells are. -/
theorem Store.Like.eq
    {kind : CellKind}
    {α : Type}
    [Inhabited α]
    {related : α -> α -> Prop}
    {store other : Store kind α}
    (like : store.Like related other)
    (same : ∀ cell further, related cell further -> further = cell) :
    other = store := by
  obtain ⟨cells⟩ := store
  obtain ⟨others⟩ := other
  have sizes : others.size = cells.size := like.size
  refine congrArg Store.mk (Array.ext sizes fun index inOther inStore => ?_)
  have equal := same _ _ (like.cell ⟨index⟩)
  simpa only [Store.get?, Array.getElem?_eq_getElem inOther,
    Array.getElem?_eq_getElem inStore, Option.getD_some] using equal

section States

variable {visible : Value -> Prop} {constructs : FunctionRef -> Prop}
variable {others : ∀ value : Value, (∀ ref, value ≠ .function ref) ->
  visible value}

/-- A state is like itself when it shows no more than bodies may get hold of. -/
theorem State.Like.refl
    {state : State}
    (shows : state.heap.Shows visible)
    (constructors : ∀ ref, state.heap.Holds (.klass ref) ->
      constructs (state.heap.klass ref).constructor)
    (stored : ∀ value ∈ state.session.storedValues.values, visible value) :
    state.Like (.same visible constructs others) state where
  heap :=
    { scopes := rfl
      objects := rfl
      generators := rfl
      nextSymbol := rfl
      functions := ⟨rfl, fun _ => ⟨rfl, rfl, rfl, rfl, rfl, rfl⟩⟩
      classes := ⟨rfl, fun _ => ⟨rfl, rfl, rfl, rfl, rfl, rfl, rfl⟩⟩
      shows := shows
      constructors := constructors }
  session := rfl
  record := rfl
  stored := stored

/-- States that are alike where nothing differs are the same. -/
theorem State.Like.eq
    {state other : State}
    (like : state.Like (.same visible constructs others) other) :
    other = state := by
  have functions := like.heap.functions.eq fun cell further same => by
    have bodies : cell.body = further.body := same.body
    have limits : cell.limits = further.limits := same.limits
    rw [same.eq, ← bodies, ← limits]
  have classes := like.heap.classes.eq fun cell further same => by
    have limits : cell.limits = further.limits := same.limits
    rw [same.eq, ← limits]
  have heaps : other.heap = state.heap := by
    obtain ⟨scopes, objects, generators, symbols, -, -, -, -⟩ := like.heap
    cases own : state.heap
    cases final : other.heap
    rw [own, final] at scopes objects generators symbols functions classes
    rw [Heap.mk.injEq]
    exact ⟨scopes, objects, functions, classes, generators, symbols⟩
  cases state
  cases other
  obtain ⟨-, rfl, rfl, -⟩ := like
  cases heaps
  rfl

/-- A step is like itself. -/
theorem Step.Like.refl
    (step : Step) :
    step.Like (.same visible constructs others) step := by
  cases step with
  | evaluate subject target? => exact .evaluate target? rfl
  | askScope name => exact .askScope name
  | askDraft form => exact .askDraft (.refl form)
  | ask subject question =>
      refine .ask rfl ?_
      cases question with
      | lookUp key => exact .lookUp rfl
      | _ => exact .same _ nofun

end States

/-- Where all values may be got hold of, every state is like itself. -/
theorem State.Like.identical (state : State) : state.Like .identical state := by
  have shows : state.heap.Shows fun _ => True :=
    { object := fun _ _ _ => trivial
      scope := fun _ _ _ _ _ => trivial
      generator := fun _ _ _ => trivial
      klass := fun _ => ⟨fun _ _ _ _ => trivial, fun _ _ => trivial⟩ }
  exact .refl shows (fun _ _ => trivial) fun _ _ => trivial

end ClassLowering
