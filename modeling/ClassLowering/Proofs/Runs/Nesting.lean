import ClassLowering.Proofs.Heap.References
import ClassLowering.Proofs.Runs.KeepsToFrame

/-!
# Nesting of bodies

The record of a run is a history of bodies within bodies. A history is fit when
every body in it was asked for by the one around it, at a depth that it may ask
for, and none runs deeper than its own limit.

The bodies that are active at some moment of a history are those entered
before and not left yet. In a fit history each of them was asked for by the
next one outwards.
-/

namespace ClassLowering

namespace BodyEntry

/-- The greatest depth at which the function of an entry may run. -/
def limit (heap : Heap) (entry : BodyEntry) : Depth :=
  (heap.function entry.function).limits.callDepth

/-- A body runs one level below a depth, or two if it belongs to a
construction there. -/
def Below (heap : Heap) (depth : Depth) (entry : BodyEntry) : Prop :=
  entry.depth = depth + 1 ∨ entry.depth = depth + 1 + 1 ∧
    depth + 1 ≤ entry.limit heap

/-- A body runs at a depth at which bodies run that are asked for outside
of all others. -/
def Fresh (entry : BodyEntry) : Prop := entry.depth = 1 ∨ entry.depth = 2

/-- What a body at a depth may ask for. Only one that does not keep to its frame
starts afresh. -/
def AskedFrom (keeps : Bool) (depth : Depth) (heap : Heap)
    (entry : BodyEntry) : Prop :=
  entry.Below heap depth ∨ keeps = false ∧ entry.Fresh

/-- What a body may ask for. -/
def AsksFor (heap : Heap) (parent entry : BodyEntry) : Prop :=
  AskedFrom (heap.function parent.function).body.keepsToFrame
    parent.depth heap entry

/-- Below a depth is deeper, while all limits are under the deepest level. -/
theorem Below.toNat_lt
    {heap : Heap}
    {entry : BodyEntry}
    {depth limit : Depth}
    (below : entry.Below heap depth)
    (within : depth ≤ limit)
    (shallow : limit < 4294967295)
    (ownShallow : entry.limit heap < 4294967295) :
    depth.toNat < entry.depth.toNat := by
  have first : (depth + 1).toNat = depth.toNat + 1 :=
    Depth.toNat_add_one (UInt32.lt_of_le_of_lt within shallow)
  rcases below with single | ⟨double, bounded⟩
  · rw [single, first]
    omega
  · have second : (depth + 1 + 1).toNat = (depth + 1).toNat + 1 :=
      Depth.toNat_add_one (UInt32.lt_of_le_of_lt bounded ownShallow)
    rw [double, second, first]
    omega

end BodyEntry

/-- A history whose outermost bodies satisfy a condition, with every body fit
for the one around. -/
inductive Nested (heap : Heap) : (BodyEntry -> Prop) -> List BodyEvent -> Prop
  | nil {asked : BodyEntry -> Prop} : Nested heap asked []
  | call
      {asked : BodyEntry -> Prop}
      {entry : BodyEntry}
      {inner older : List BodyEvent}
      (interruption : Option Interruption) :
      asked entry -> entry.depth ≤ entry.limit heap ->
        Nested heap (entry.AsksFor heap) inner -> Nested heap asked older ->
          Nested heap asked
            (.left interruption :: (inner ++ .entered entry :: older))

/-- The bodies that were entered and not left, newest first. -/
def active : List BodyEvent -> List BodyEntry
  | [] => []
  | .entered entry :: older => entry :: active older
  | .left _ :: older => (active older).tail

/-- A stack of bodies of which each was asked for by the next, and the outermost
one is allowed. -/
inductive Stacked (heap : Heap)
    (asked : BodyEntry -> Prop) : List BodyEntry -> Prop
  | nil : Stacked heap asked []
  | outermost {entry : BodyEntry} :
      asked entry -> entry.depth ≤ entry.limit heap ->
        Stacked heap asked [entry]
  | within {entry parent : BodyEntry} {outer : List BodyEntry} :
      parent.AsksFor heap entry -> entry.depth ≤ entry.limit heap ->
        Stacked heap asked (parent :: outer) ->
          Stacked heap asked (entry :: parent :: outer)

namespace Nested

variable {heap : Heap} {asked : BodyEntry -> Prop} {events : List BodyEvent}

/-- Histories follow each other. -/
theorem append
    {older : List BodyEvent}
    (later : Nested heap asked events)
    (earlier : Nested heap asked older) :
    Nested heap asked (events ++ older) := by
  induction later with
  | nil => exact earlier
  | call interruption allowed bounded inner _ _ hypothesis =>
      rw [List.cons_append, List.append_assoc, List.cons_append]
      exact .call interruption allowed bounded inner (hypothesis earlier)

/-- A history of fewer bodies may be asked for by more. -/
theorem mono
    {more : BodyEntry -> Prop}
    (nested : Nested heap asked events)
    (weaker : ∀ entry, asked entry -> more entry) :
    Nested heap more events := by
  induction nested with
  | nil => exact .nil
  | call interruption allowed bounded inner _ _ hypothesis =>
      exact .call interruption (weaker _ allowed) bounded inner
        (hypothesis weaker)

/-- Every body that was entered stays within its own limit. -/
theorem depth_le_limit
    {entry : BodyEntry}
    (nested : Nested heap asked events)
    (entered : .entered entry ∈ events) :
    entry.depth ≤ entry.limit heap := by
  induction nested with
  | nil => cases entered
  | call interruption _ bounded _ _ innerHypothesis olderHypothesis =>
      rcases List.mem_cons.1 entered with impossible | further
      · cases impossible
      · rcases List.mem_append.1 further with inInner | rest
        · exact innerHypothesis inInner
        · rcases List.mem_cons.1 rest with same | inOlder
          · cases same
            exact bounded
          · exact olderHypothesis inOlder

/-- At the end of a history no more bodies are active than before it. -/
theorem active_append
    (nested : Nested heap asked events)
    (older : List BodyEvent) :
    active (events ++ older) = active older := by
  induction nested generalizing older with
  | nil => rfl
  | @call asked entry inner rest interruption _ _ _ _ innerHypothesis
      olderHypothesis =>
      rw [List.cons_append, active, List.append_assoc, innerHypothesis,
        List.cons_append, active, List.tail_cons, olderHypothesis]

end Nested

namespace Stacked

variable {heap : Heap} {asked : BodyEntry -> Prop} {stack : List BodyEntry}

/-- A stack of bodies within a body is a stack with this body as the
outermost one. -/
theorem append_singleton
    {entry : BodyEntry}
    (stacked : Stacked heap (entry.AsksFor heap) stack)
    (allowed : asked entry)
    (bounded : entry.depth ≤ entry.limit heap) :
    Stacked heap asked (stack ++ [entry]) := by
  have outermost : Stacked heap asked [entry] := .outermost allowed bounded
  induction stacked with
  | nil => exact outermost
  | outermost asks bound => exact .within asks bound outermost
  | within asks bound _ hypothesis => exact .within asks bound hypothesis

/-- Every body of a stack stays within its own limit. -/
theorem depth_le_limit
    {entry : BodyEntry}
    (stacked : Stacked heap asked stack)
    (present : entry ∈ stack) :
    entry.depth ≤ entry.limit heap := by
  induction stacked with
  | nil => cases present
  | outermost _ bounded =>
      rw [List.mem_singleton.1 present]
      exact bounded
  | within _ bounded _ hypothesis =>
      rcases List.mem_cons.1 present with rfl | further
      · exact bounded
      · exact hypothesis further

end Stacked

/-- At every moment of a history, the active bodies are stacked. -/
theorem Nested.stacked
    {heap : Heap}
    {asked : BodyEntry -> Prop}
    {events newer older : List BodyEvent}
    (nested : Nested heap asked events)
    (moment : newer ++ older = events) :
    ∃ stack, Stacked heap asked stack ∧
      ∀ base, active (older ++ base) = stack ++ active base := by
  -- The moment is behind the newest body, within it, right after its
  -- entry, or before it.
  induction nested generalizing newer older with
  | nil =>
      obtain ⟨-, rfl⟩ := List.append_eq_nil_iff.1 moment
      exact ⟨[], .nil, fun _ => rfl⟩
  | @call asked entry inner rest interruption allowed bounded
      innerNested restNested innerHypothesis restHypothesis =>
      cases newer with
      | nil =>
          refine ⟨[], .nil, fun base => ?_⟩
          rw [List.nil_append] at moment
          rw [moment, List.nil_append]
          exact (Nested.call interruption allowed bounded innerNested
            restNested).active_append base
      | cons event newer =>
          rw [List.cons_append, List.cons.injEq,
            List.append_eq_append_iff] at moment
          rcases moment with ⟨-, ⟨cut, equal, rfl⟩ | ⟨cut, rfl, equal⟩⟩
          · obtain ⟨stack, stacked, actives⟩ := innerHypothesis equal.symm
            refine ⟨stack ++ [entry], stacked.append_singleton allowed bounded,
              fun base => ?_⟩
            rw [List.append_assoc, actives, List.cons_append, active,
              restNested.active_append, List.append_assoc,
              List.singleton_append]
          · cases cut with
            | nil =>
                rw [List.nil_append] at equal
                refine ⟨[entry], .outermost allowed bounded, fun base => ?_⟩
                rw [← equal, List.cons_append, active, restNested.active_append,
                  List.singleton_append]
            | cons first cut =>
                rw [List.cons_append, List.cons.injEq] at equal
                exact restHypothesis equal.2.symm

namespace Stacked

variable {heap : Heap} {asked : BodyEntry -> Prop} {stack : List BodyEntry}

/-- Depths grow inwards, and so no more bodies are active than the
innermost one is deep. -/
theorem depths
    (stacked : Stacked heap asked stack)
    (started : ∀ entry, asked entry -> 0 < entry.depth.toNat)
    (keeps : ∀ entry ∈ stack,
      (heap.function entry.function).body.keepsToFrame = true)
    (shallow : ∀ entry ∈ stack, entry.limit heap < 4294967295) :
    stack.Pairwise (fun inner outer => outer.depth < inner.depth) ∧
      ∀ innermost ∈ stack.head?, stack.length ≤ innermost.depth.toNat := by
  induction stacked with
  | nil => exact ⟨.nil, fun _ absent => absurd absent (Option.not_mem_none _)⟩
  | @outermost entry allowed bounded =>
      refine ⟨List.pairwise_singleton _ _, ?_⟩
      rintro _ ⟨⟩
      exact started entry allowed
  | @within entry parent outer asks bounded rest hypothesis =>
      obtain ⟨descending, long⟩ := hypothesis
        (fun other present => keeps other (List.mem_cons_of_mem _ present))
        (fun other present => shallow other (List.mem_cons_of_mem _ present))
      have inStack : parent ∈ entry :: parent :: outer :=
        List.mem_cons_of_mem _ List.mem_cons_self
      have below : entry.Below heap parent.depth := by
        rcases asks with below | ⟨leaves, -⟩
        · exact below
        · rw [keeps parent inStack] at leaves
          cases leaves
      have deeper : parent.depth.toNat < entry.depth.toNat :=
        below.toNat_lt (rest.depth_le_limit List.mem_cons_self)
          (shallow parent inStack) (shallow entry List.mem_cons_self)
      refine ⟨List.pairwise_cons.2 ⟨?_, descending⟩, ?_⟩
      · intro other present
        rw [UInt32.lt_iff_toNat_lt]
        rcases List.mem_cons.1 present with rfl | further
        · exact deeper
        · have outwards := (List.pairwise_cons.1 descending).1 other further
          have between := UInt32.lt_iff_toNat_lt.1 outwards
          omega
      · rintro _ ⟨⟩
        have few := long parent rfl
        rw [List.length_cons]
        omega

end Stacked

end ClassLowering
