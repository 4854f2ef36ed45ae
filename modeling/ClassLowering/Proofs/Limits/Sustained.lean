import ClassLowering.Proofs.InStep.Same
import ClassLowering.Proofs.Limits.Raised

/-!
# Runs that are sustained

A run is sustained within greater limits if it ends there with the same result.
That is so until a limit is met. Where faults at limits do not end a run but
become part of its result, the result tells of them, and so it is known from the
result whether the run is sustained.

There is one rule for each way in which runs are put together.
-/

namespace ClassLowering

/-- Limits are no greater than themselves. -/
theorem Limits.AtMost.refl (limits : Limits) : limits.AtMost limits :=
  ⟨UInt32.le_refl _, le_refl _⟩

/-- An expression is itself within limits that are no greater. -/
theorem Expr.Raised.refl : ∀ expr : Expr, expr.Raised expr
  | .literal value => .of (.literal value)
  | .apply operation operands =>
      .of (.apply operation (List.forall₂_same.2 fun operand _ => refl operand))
  | .sequence steps =>
      .of (.sequence (List.forall₂_same.2 fun step _ => refl step))
  | .choose condition whenTrue whenFalse =>
      .of (.choose (refl condition) (refl whenTrue) (refl whenFalse))
  | .loop name count body => .of (.loop name (refl count) (refl body))
  | .attempt body handler => .of (.attempt trivial (refl body) (refl handler))
  | .function name body => .of (.function name (refl body))
  | .run body => .of (.run (refl body))
  | .klass ⟨blueprint, binding, limits⟩ =>
      .of (.klass (.of binding
        (.of_smaller blueprint fun own _ => refl own) (.refl limits)))
termination_by expr => sizeOf expr
decreasing_by
  all_goals simp_wf
  all_goals first
    | omega
    | (have smaller := List.sizeOf_lt_of_mem ‹_ ∈ _›
       omega)

/-- A class is itself within limits that are no greater. -/
theorem ClassDraft.raised_refl
    (draft : ClassDraft) :
    draft.Like Expr.Raised draft :=
  .of_smaller draft fun own _ => .refl own

/-- The state before any run is like itself. -/
theorem State.like_empty
    (likeness : Likeness) :
    State.empty.Like likeness State.empty where
  heap :=
    { scopes := rfl
      objects := rfl
      generators := rfl
      nextSymbol := rfl
      functions := ⟨rfl, fun _ => .default⟩
      classes := ⟨rfl, fun _ => .default⟩
      shows := Heap.shows_empty likeness.visible
      constructors := fun ref held => absurd held (Nat.not_lt_zero ref.index) }
  session := rfl
  record := rfl
  stored := nofun

/-- No entry of the log tells of a limit. -/
def State.IsUntold (state : State) : Prop :=
  ∀ entry ∈ state.session.log, entry.tellsLimit = false

/-- A state whose log tells of no limit is not one in which a limit was met. -/
theorem State.IsUntold.not_lost
    {state : State}
    (untold : state.IsUntold) :
    ¬ Following.raised.Lost state :=
  fun ⟨entry, logged, tells⟩ =>
    Bool.false_ne_true ((untold entry logged).symm.trans tells)

/--
A run is sustained by another one: unless its result or the log tells of a
limit, the other one ends with the same result. What there is, is kept.
-/
structure Sustains {α : Type} (tells : α -> Prop)
    (run other : RunM α) : Prop where
  keeps : ∀ before : State, before.Keeps (RunM.lastState (run before))
  sustains : ∀ {before start after : State} {result : α},
    before.Like .raised start ->
    run before = .ok result after -> ¬ tells result -> after.IsUntold ->
      ∃ later, other start = .ok result later ∧ after.Like .raised later

namespace Sustains

variable {α β : Type} {tells : α -> Prop} {further : β -> Prop}
  {run other : RunM α}

/-- What is followed is sustained. -/
theorem of_inStep
    {known : α -> Prop}
    (runs : Following.raised.coupling.InStep True run other (Agree known)) :
    Sustains (fun _ => False) run other where
  keeps before := by
    have keeps := runs.keeps before
    generalize run before = ended at keeps
    cases ended <;> exact keeps
  sustains {before start after result} like ended _ untold := by
    have ends := runs.follows before start trivial like trivial
    rw [ended] at ends
    generalize other start = ending at ends
    cases ends with
    | ok _ likeAfter agree =>
        obtain ⟨rfl, -⟩ := agree
        exact ⟨_, rfl, likeAfter⟩
    | lost lost => exact absurd lost untold.not_lost

/-- What comes later is sustained, if it shows whatever the first part tells. -/
theorem bind
    {next last : α -> RunM β}
    (first : Sustains tells run other)
    (rest : ∀ result, Sustains further (next result) (last result))
    (shows : ∀ result, tells result -> ∀ before final after,
      next result before = .ok final after -> further final) :
    Sustains further (run >>= next) (other >>= last) where
  keeps before := by
    have earlier := first.keeps before
    cases ended : run before with
    | ok result after =>
        rw [ended] at earlier
        rw [RunM.bind_of_ok ended]
        exact earlier.trans ((rest result).keeps after)
    | error interruption after =>
        rw [ended] at earlier
        rw [RunM.bind_of_error ended]
        exact earlier
  sustains {before start after final} like ended quiet untold := by
    obtain ⟨result, middle, firstEnded, restEnded⟩ :=
      RunM.bind_eq_ok_iff.1 ended
    have kept := (rest result).keeps middle
    rw [restEnded] at kept
    have silent : ¬ tells result := fun told =>
      quiet (shows result told middle final after restEnded)
    obtain ⟨between, firstLast, likeMiddle⟩ :=
      first.sustains like firstEnded silent
      fun entry logged => untold entry (kept.log.subset logged)
    obtain ⟨later, restLast, likeAfter⟩ :=
      (rest result).sustains likeMiddle restEnded quiet untold
    exact ⟨later, RunM.bind_eq_ok_iff.2
      ⟨result, between, firstLast, restLast⟩, likeAfter⟩

/-- What comes after a run that never tells of a limit is sustained. -/
theorem andThen
    {next last : α -> RunM β}
    (first : Sustains (fun _ => False) run other)
    (rest : ∀ result, Sustains further (next result) (last result)) :
    Sustains further (run >>= next) (other >>= last) :=
  first.bind rest fun _ impossible => impossible.elim

/-- A look at the state is sustained, if it shows the same in states
that are alike. -/
theorem look
    (see : State -> α)
    (looks : ∀ state, run state = .ok (see state) state)
    (same : ∀ {state start : State}, state.Like .raised start ->
      see start = see state) :
    Sustains tells run run where
  keeps before := by
    rw [looks]
    exact .refl before
  sustains like ended _ _ := by
    rw [looks] at ended
    cases ended
    exact ⟨_, by rw [looks, same like], like⟩

/-- What comes after a look at the heap is sustained if it goes on alike in
heaps that are alike. -/
theorem readHeap_bind
    {read : Heap -> α}
    {next : α -> RunM β}
    (rest : ∀ seen, Sustains further (next seen) (next seen))
    (same : ∀ {heap other : Heap}, heap.Like .raised other ->
      next (read other) = next (read heap)) :
    Sustains further (RunM.readHeap read >>= next)
      (RunM.readHeap read >>= next) where
  keeps before := (rest (read before.heap)).keeps before
  sustains {before start after result} like ended quiet untold := by
    obtain ⟨later, last, likeAfter⟩ := (rest _).sustains like ended quiet untold
    refine ⟨later, ?_, likeAfter⟩
    rwa [RunM.bind_of_ok (RunM.readHeap_apply read start), same like.heap]

/-- A result that is there already is sustained. -/
theorem pure
    (result : α) :
    Sustains tells (Pure.pure result) (Pure.pure result) :=
  .look (fun _ => result) (fun _ => rfl) fun _ => rfl

/-- The result or fault of what is followed is sustained, but for a
fault at a limit. -/
theorem attempt
    {known : α -> Prop}
    (runs : Following.raised.coupling.InStep True run other (Agree known)) :
    Sustains (fun ended => ∃ cause, ended = .error cause ∧ cause.isLimit = true)
      (RunM.attempt run) (RunM.attempt other) where
  keeps before := by
    have keeps := runs.keeps before
    unfold RunM.attempt
    generalize run before = ended at keeps
    rcases ended with ⟨result, after⟩ | ⟨cause | _, after⟩ <;> exact keeps
  sustains {before start after result} like ended quiet untold := by
    have ends := runs.follows before start trivial like trivial
    unfold RunM.attempt at ended ⊢
    generalize run before = first at ends ended
    generalize other start = ending at ends
    cases ends with
    | ok _ likeAfter agree =>
        obtain ⟨rfl, -⟩ := agree
        cases ended
        exact ⟨_, rfl, likeAfter⟩
    | @interrupted interruption _ _ _ likeAfter =>
        cases interruption with
        | stalled => cases ended
        | fault cause =>
            cases ended
            exact ⟨_, rfl, likeAfter⟩
    | lost lost =>
        -- An attempt ends in the state of what is attempted, so nothing is
        -- taken from the log.
        have kept : after = Stage.last first := by
          rcases first with ⟨value, after⟩ | ⟨cause | _, after⟩ <;>
            cases ended <;> rfl
        exact absurd (kept ▸ lost) untold.not_lost
    | cut cuts =>
        cases ended
        exact absurd ⟨_, rfl, cuts⟩ quiet

/-- Runs for some items are sustained, unless one of the results tells of a
limit. -/
theorem mapM
    {items : List α}
    {action deed : α -> RunM β}
    (each : ∀ item, Sustains further (action item) (deed item)) :
    Sustains (fun results => ∃ result ∈ results, further result)
        (items.mapM action)
      (items.mapM deed) := by
  induction items with
  | nil => exact .pure []
  | cons item rest hypothesis =>
      rw [List.mapM_cons, List.mapM_cons]
      refine (each item).bind
        (fun first => hypothesis.bind (fun _ => .pure _) ?_) ?_
      · rintro others ⟨result, isResult, told⟩ before final after ended
        cases ended
        exact ⟨result, .tail _ isResult, told⟩
      · intro first told before final after ended
        obtain ⟨others, middle, -, last⟩ := RunM.bind_eq_ok_iff.1 ended
        cases last
        exact ⟨first, .head _, told⟩

end Sustains

end ClassLowering
