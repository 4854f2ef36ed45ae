import ClassLowering.Proofs.InStep.Likeness

/-!
# Parts of what is alike

What two runs in step are given may be alike only as long as something else is
given. The parts of the second can be named all the same, and then they are
alike as long as it is given.
-/

namespace ClassLowering

/-- What exists when something is given can be named before it is. -/
theorem exists_of_imp
    {given : Prop}
    {α : Type}
    {claim : α -> Prop}
    (otherwise : α)
    (exist : given -> ∃ thing, claim thing) :
    ∃ thing, given -> claim thing := by
  by_cases holds : given
  · obtain ⟨thing, claimed⟩ := exist holds
    exact ⟨thing, fun _ => claimed⟩
  · exact ⟨otherwise, fun contrary => absurd contrary holds⟩

/-- Lists whose items are related when something is given can be paired before
it is. -/
theorem forall₂_of_imp
    {given : Prop}
    {α : Type}
    {related : α -> α -> Prop}
    {items others : List α}
    (like : given -> List.Forall₂ related items others) :
    ∃ last, (given -> others = last) ∧
      List.Forall₂ (fun item other => given -> related item other)
        items last := by
  by_cases holds : given
  · exact ⟨others, fun _ => rfl, (like holds).imp fun _ _ same _ => same⟩
  · exact ⟨items, fun contrary => absurd contrary holds,
      List.forall₂_same.2 fun _ _ contrary => absurd contrary holds⟩

/-- What two things exist when something is given can be named before it is. -/
theorem exists₂_of_imp
    {given : Prop}
    {α β : Type}
    {claim : α -> β -> Prop}
    (first : α)
    (second : β)
    (exist : given -> ∃ thing other, claim thing other) :
    ∃ thing other, given -> claim thing other := by
  obtain ⟨thing, exists_other⟩ := exists_of_imp first exist
  exact ⟨thing, exists_of_imp second exists_other⟩

section Forms

variable {given : Prop} {σ κ β : Type} {body : β -> β -> Prop}

/-- What is related to a list with a first item has one, too. -/
theorem exists_cons_of_forall₂
    {related : β -> β -> Prop}
    {first : β}
    {rest others : List β}
    (like : given -> List.Forall₂ related (first :: rest) others) :
    ∃ last remaining, given -> others = last :: remaining ∧ related first last ∧
      List.Forall₂ related rest remaining :=
  exists₂_of_imp first rest fun facts => by
    cases like facts with
    | cons first following => exact ⟨_, _, rfl, first, following⟩

/-- What is like a computed key is computed, too. -/
theorem MemberKey.exists_computed
    {own : β}
    {last : MemberKey κ β}
    (like : given -> (MemberKey.computed own).Like body last) :
    ∃ other, given -> last = .computed other ∧ body own other :=
  exists_of_imp own fun facts => by
    cases like facts with
    | computed related => exact ⟨_, rfl, related⟩

/-- What is like a class has members and a constructor that are alike, and is
called the same. -/
theorem Blueprint.exists_parts
    {name : Option String}
    {members : List (Member κ β)}
    {constructor : Option (ConstructorPart β)}
    {scope : σ}
    {last : Blueprint σ κ β}
    (like : given -> Blueprint.Like body
      ⟨name, ⟨members, constructor⟩, scope⟩ last) :
    ∃ others otherConstructor, given ->
      last = ⟨name, ⟨others, otherConstructor⟩, scope⟩ ∧
      List.Forall₂ (Member.Like body) members others ∧
        Option.Rel (ConstructorPart.Like body) constructor otherConstructor :=
  exists₂_of_imp members constructor fun facts => by
    cases like facts with
    | of _ _ same procedures => exact ⟨_, _, rfl, same, procedures⟩

end Forms

namespace Likeness

variable {likeness : Likeness} {given : Prop} {last : Expr}

/-- What is like an operation is the same operation, of operands that are
alike. -/
theorem exists_apply
    {operation : Operation}
    {operands : List Expr}
    (like : given -> likeness.body (.apply operation operands) last) :
    ∃ others, given -> last = .apply operation others ∧
      List.Forall₂ likeness.body operands others :=
  exists_of_imp operands fun facts => by
    cases likeness.layer (like facts) with
    | apply _ related => exact ⟨_, rfl, related⟩

/-- What is like a sequence has steps that are alike. -/
theorem exists_sequence
    {steps : List Expr}
    (like : given -> likeness.body (.sequence steps) last) :
    ∃ others, given -> last = .sequence others ∧
      List.Forall₂ likeness.body steps others :=
  exists_of_imp steps fun facts => by
    cases likeness.layer (like facts) with
    | sequence related => exact ⟨_, rfl, related⟩

/-- What is like a choice has a condition and two branches that are alike. -/
theorem exists_choose
    {condition whenTrue whenFalse : Expr}
    (like : given -> likeness.body
      (.choose condition whenTrue whenFalse) last) :
    ∃ otherCondition otherTrue otherFalse, given ->
      last = .choose otherCondition otherTrue otherFalse ∧
        likeness.body condition otherCondition ∧
          likeness.body whenTrue otherTrue ∧
          likeness.body whenFalse otherFalse := by
  obtain ⟨otherCondition, branches⟩ :=
      exists_of_imp condition fun facts : given =>
    show ∃ otherCondition otherTrue otherFalse,
        last = .choose otherCondition otherTrue otherFalse ∧
        likeness.body condition otherCondition ∧
          likeness.body whenTrue otherTrue ∧
          likeness.body whenFalse otherFalse by
      cases likeness.layer (like facts) with
      | choose first second third => exact ⟨_, _, _, rfl, first, second, third⟩
  exact ⟨otherCondition, exists₂_of_imp whenTrue whenFalse branches⟩

/-- What is like a loop has a count and a body that are alike. -/
theorem exists_loop
    {name : String}
    {count body : Expr}
    (like : given -> likeness.body (.loop name count body) last) :
    ∃ otherCount otherBody, given -> last = .loop name otherCount otherBody ∧
      likeness.body count otherCount ∧ likeness.body body otherBody :=
  exists₂_of_imp count body fun facts => by
    cases likeness.layer (like facts) with
    | loop _ first second => exact ⟨_, _, rfl, first, second⟩

/-- What is like an attempt has a body and a handler that are alike. -/
theorem exists_attempt
    {body handler : Expr}
    (like : given -> likeness.body (.attempt body handler) last) :
    ∃ otherBody otherHandler, given -> last = .attempt otherBody otherHandler ∧
      likeness.catches ∧ likeness.body body otherBody ∧
        likeness.body handler otherHandler :=
  exists₂_of_imp body handler fun facts => by
    cases likeness.layer (like facts) with
    | attempt catches first second => exact ⟨_, _, rfl, catches, first, second⟩

/-- What is like a function has a body that is alike. -/
theorem exists_function
    {name : String}
    {body : Expr}
    (like : given -> likeness.body (.function name body) last) :
    ∃ other, given -> last = .function name other ∧ likeness.body body other :=
  exists_of_imp body fun facts => by
    cases likeness.layer (like facts) with
    | function _ related => exact ⟨_, rfl, related⟩

/-- What is like a body that is run is run, too. -/
theorem exists_run
    {body : Expr}
    (like : given -> likeness.body (.run body) last) :
    ∃ other, given -> last = .run other ∧ likeness.body body other :=
  exists_of_imp body fun facts => by
    cases likeness.layer (like facts) with
    | run related => exact ⟨_, rfl, related⟩

/-- What is like a class is a class. -/
theorem exists_klass
    {form : ClassForm Expr}
    (like : given -> likeness.body (.klass form) last) :
    ∃ other, given -> last = .klass other ∧
      form.Like likeness.body likeness.limits other :=
  exists_of_imp form fun facts => by
    cases likeness.layer (like facts) with
    | klass related => exact ⟨_, rfl, related⟩

end Likeness

end ClassLowering
