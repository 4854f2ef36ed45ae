import ClassLowering.Proofs.Repetitions
import ClassLowering.Prototype
import Mathlib.Data.List.DropRight

/-!
# The meaning of definitions

A prototype takes definitions one by one. What it holds in the end can be read
off the list of definitions without doing so. The last definition of a key
decides whether the key holds a method. If it does not, the key holds an
accessor, whose sides are the last getter and the last setter behind the last
method of the key.

The keys are those of the definitions in the order in which they first occur,
behind the link to the class.
-/

namespace ClassLowering

namespace Definition

/-- The definitions of one key, in order. -/
def ofKey (definitions : List Definition)
    (key : PropertyKey) : List Definition :=
  definitions.filter fun definition => definition.key == key

/-- The definitions of one key behind its last method. -/
def behindMethod (definitions : List Definition)
    (key : PropertyKey) : List Definition :=
  (ofKey definitions key).rtakeWhile fun definition => definition.role ≠ .method

/-- The function of the last definition in a role, among those of one key behind
its last method. -/
def lastSide? (definitions : List Definition) (key : PropertyKey)
    (role : MemberRole) :
    Option FunctionRef :=
  ((behindMethod definitions key).filter fun definition =>
    definition.role = role).getLast?.map Definition.function

/-- What a key means by a list of definitions. -/
def meaning? (definitions : List Definition)
    (key : PropertyKey) : Option PrototypeEntry :=
  match (ofKey definitions key).getLast? with
  | none => none
  | some last =>
      if last.role = .method then some (.method last.function)
      else some (.accessor (lastSide? definitions key .getter)
        (lastSide? definitions key .setter))

variable (definitions : List Definition) (last : Definition)

/-- Another key's definition is not one of this key. -/
theorem ofKey_concat_of_not_beq {key : PropertyKey} (other : ¬last.key == key) :
    ofKey (definitions ++ [last]) key = ofKey definitions key := by
  simp [ofKey, other]

/-- Keys that count as one mean the same. -/
theorem meaning?_congr {key other : PropertyKey} (same : key == other) :
    meaning? definitions key = meaning? definitions other := by
  have alike : ofKey definitions key = ofKey definitions other := by
    simp only [ofKey, BEq.congr_right same]
  simp only [meaning?, lastSide?, behindMethod, alike]

/-- A definition of the key comes last among those of the key. -/
theorem ofKey_concat_self :
    ofKey (definitions ++ [last]) last.key = ofKey definitions last.key ++
      [last] := by
  simp [ofKey]

/-- Another key's definition leaves the meaning of this key. -/
theorem meaning?_concat_of_not_beq
    {key : PropertyKey}
    (other : ¬last.key == key) :
    meaning? (definitions ++ [last]) key = meaning? definitions key := by
  simp only [meaning?, lastSide?, behindMethod,
    ofKey_concat_of_not_beq definitions last other]

/-- A getter or setter that comes last is behind the last method. -/
theorem behindMethod_concat_accessor (accessor : last.role ≠ .method) :
    behindMethod (definitions ++ [last]) last.key =
      behindMethod definitions last.key ++ [last] := by
  rw [behindMethod, ofKey_concat_self]
  exact List.rtakeWhile_concat_pos _ _ last (by simpa using accessor)

/-- A getter or setter that comes last is the last of its side. -/
theorem lastSide?_concat_self (accessor : last.role ≠ .method) :
    lastSide? (definitions ++ [last]) last.key last.role =
      some last.function := by
  simp [lastSide?, behindMethod_concat_accessor definitions last accessor]

/-- A getter or setter that comes last leaves the other side. -/
theorem lastSide?_concat_of_ne
    (role : MemberRole)
    (accessor : last.role ≠ .method)
    (other : last.role ≠ role) :
    lastSide? (definitions ++ [last]) last.key role =
      lastSide? definitions last.key role := by
  simp [lastSide?, behindMethod_concat_accessor definitions last
    accessor, other]

/-- When the last definition of a key is a method, no side is behind it. -/
theorem lastSide?_eq_none_of_method
    {key : PropertyKey}
    {previous : Definition}
    (ends : (ofKey definitions key).getLast? = some previous)
    (method : previous.role = .method)
    (role : MemberRole) :
    lastSide? definitions key role = none := by
  have nothing : behindMethod definitions key = [] := by
    rw [behindMethod, List.rtakeWhile_eq_nil_iff]
    intro nonempty
    rw [List.getLast?_eq_some_getLast nonempty, Option.some.injEq] at ends
    simp [ends, method]
  simp [lastSide?, nothing]

/-- A key without definitions has no sides. -/
theorem lastSide?_eq_none_of_nil
    {key : PropertyKey}
    (ends : (ofKey definitions key).getLast? = none)
    (role : MemberRole) :
    lastSide? definitions key role = none := by
  rw [List.getLast?_eq_none_iff] at ends
  simp [lastSide?, behindMethod, ends]

/-- A getter keeps the setter of the key. -/
theorem define_getter_meaning? (key : PropertyKey) (function : FunctionRef) :
    PrototypeEntry.define function .getter (meaning? definitions key) =
      .accessor (some function) (lastSide? definitions key .setter) := by
  unfold meaning?
  cases ends : (ofKey definitions key).getLast? with
  | none =>
      simp [PrototypeEntry.define, lastSide?_eq_none_of_nil definitions ends]
  | some previous =>
      by_cases method : previous.role = .method
      · simp [PrototypeEntry.define, method,
          lastSide?_eq_none_of_method definitions ends method]
      · simp [PrototypeEntry.define, method]

/-- A setter keeps the getter of the key. -/
theorem define_setter_meaning? (key : PropertyKey) (function : FunctionRef) :
    PrototypeEntry.define function .setter (meaning? definitions key) =
      .accessor (lastSide? definitions key .getter) (some function) := by
  unfold meaning?
  cases ends : (ofKey definitions key).getLast? with
  | none =>
      simp [PrototypeEntry.define, lastSide?_eq_none_of_nil definitions ends]
  | some previous =>
      by_cases method : previous.role = .method
      · simp [PrototypeEntry.define, method,
          lastSide?_eq_none_of_method definitions ends method]
      · simp [PrototypeEntry.define, method]

/-- One more definition of a key changes its meaning as it changes its entry. -/
theorem meaning?_concat_self :
    meaning? (definitions ++ [last]) last.key =
      some (.define last.function last.role
        (meaning? definitions last.key)) := by
  have ends : (ofKey (definitions ++ [last]) last.key).getLast? =
      some last := by
    rw [ofKey_concat_self, List.getLast?_concat]
  simp only [meaning?, ends]
  cases role : last.role with
  | method => rfl
  | getter =>
      have accessor : last.role ≠ .method := by simp [role]
      have own := lastSide?_concat_self definitions last accessor
      have other := lastSide?_concat_of_ne definitions last .setter accessor
        (by simp [role])
      rw [role] at own
      rw [if_neg (by decide), own, other]
      exact congrArg some
        (define_getter_meaning? definitions last.key last.function).symm
  | setter =>
      have accessor : last.role ≠ .method := by simp [role]
      have own := lastSide?_concat_self definitions last accessor
      have other := lastSide?_concat_of_ne definitions last .getter accessor
        (by simp [role])
      rw [role] at own
      rw [if_neg (by decide), own, other]
      exact congrArg some
        (define_setter_meaning? definitions last.key last.function).symm

end Definition

namespace Prototype

/-- A prototype takes its last definition last. -/
theorem ofDefinitions_concat
    (definitions : List Definition)
    (last : Definition) :
    ofDefinitions (definitions ++ [last]) =
      (ofDefinitions definitions).define last := by
  simp [ofDefinitions]

/-- Every key but the link to the class holds what it means by the
definitions. -/
theorem lookup_ofDefinitions
    (definitions : List Definition)
    {key : PropertyKey}
    (ordinary : key ≠ .constructor) :
    (ofDefinitions definitions).lookup key =
      Definition.meaning? definitions key := by
  -- The last definition decides, so the induction is on the list from its end.
  induction definitions using List.reverseRecOn with
  | nil =>
      rw [ofDefinitions, List.foldl_nil, initial, lookup,
        OrderedMap.find?_insert_of_not_beq]
      · rfl
      · rwa [PropertyKey.constructor_beq_iff]
  | append_singleton definitions last hypothesis =>
      rw [ofDefinitions_concat, lookup_define]
      by_cases same : last.key == key
      · rw [if_pos same, lookup_congr _ same, hypothesis,
          ← Definition.meaning?_congr _
            same, ← Definition.meaning?_congr _ same,
          Definition.meaning?_concat_self]
      · rw [if_neg same, Definition.meaning?_concat_of_not_beq
          definitions last same, hypothesis]

/-- Definitions of other keys leave the link to the class. -/
theorem lookup_ofDefinitions_constructor
    (definitions : List Definition)
    (ordinary : ∀ definition ∈ definitions, definition.key ≠ .constructor) :
    (ofDefinitions definitions).lookup .constructor = some .constructor := by
  induction definitions using List.reverseRecOn with
  | nil => rfl
  | append_singleton definitions last hypothesis =>
      have different : ¬last.key == PropertyKey.constructor := by
        rw [PropertyKey.beq_constructor_iff]
        exact ordinary last (by simp)
      rw [ofDefinitions_concat, lookup_define, if_neg different]
      exact hypothesis fun definition present =>
        ordinary definition (List.mem_append_left _ present)

/-- A key belongs to a prototype as the link to the class or by a definition. -/
theorem mem_ofDefinitions {definitions : List Definition} {key : PropertyKey} :
    key ∈ ofDefinitions definitions ↔
      key = .constructor ∨ (definitions.map Definition.key).contains
        key = true := by
  induction definitions using List.reverseRecOn with
  | nil => simp [ofDefinitions, initial, OrderedMap.mem_insert]
  | append_singleton definitions last hypothesis =>
      rw [ofDefinitions_concat, define, OrderedMap.mem_insert, hypothesis,
        BEq.comm (a := last.key)]
      simp [or_left_comm, or_comm]

/-- The keys are the link to the class and then those of the definitions as
they first occur. -/
theorem keys_ofDefinitions
    (definitions : List Definition)
    (ordinary : ∀ definition ∈ definitions, definition.key ≠ .constructor) :
    (ofDefinitions definitions).keys =
      .constructor :: (definitions.map Definition.key).eraseDups := by
  induction definitions using List.reverseRecOn with
  | nil => rfl
  | append_singleton definitions last hypothesis =>
      have earlier := hypothesis fun definition present =>
        ordinary definition (List.mem_append_left _ present)
      have different : last.key ≠ .constructor := ordinary last (by simp)
      rw [ofDefinitions_concat, define, OrderedMap.keys_insert, earlier,
        List.map_append, List.map_singleton, eraseDups_concat]
      simp only [mem_ofDefinitions, different, false_or]
      split <;> rfl

/-- Accessors can be configured; methods and the link can be written over as
well. -/
theorem attributes_ofDefinitions
    {definitions : List Definition}
    {slot : PrototypeSlot}
    (present : slot ∈ (ofDefinitions definitions).values) :
    slot.attributes =
      match slot.entry with
      | .accessor _ _ => ⟨false, false, true⟩
      | .constructor | .method _ => ⟨true, false, true⟩ := by
  induction definitions using List.reverseRecOn with
  | nil =>
      obtain rfl : slot = ⟨.constructor, .ofMethod⟩ :=
        List.mem_singleton.1 present
      rfl
  | append_singleton definitions last hypothesis =>
      rw [ofDefinitions_concat, define] at present
      rcases OrderedMap.mem_values_insert present with rfl | old
      · generalize (ofDefinitions definitions).lookup last.key = previous
        cases last.role <;> rcases previous with - | - | - | ⟨-, -⟩ <;> rfl
      · exact hypothesis old

end Prototype
end ClassLowering
