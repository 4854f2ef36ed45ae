/-!
# Insertion-ordered maps

A map from keys to values that remembers the order in which its keys first
arrived. Keys are compared with `==`, so two keys that differ as data may count
as one. Storing under a key that is already present leaves the key of the map as
it is and where it is, and replaces its value; a new key goes to the end.

No two keys of a map count as one. The invariant is a field of the type, so
every map built here has it.
-/

namespace ClassLowering

section Entries

variable {κ α : Type} [BEq κ]

/-- Store a value under a key of an association list, at the key's place
or at the end. -/
def insertEntry (key : κ) (value : α) : List (κ × α) -> List (κ × α)
  | [] => [(key, value)]
  | entry :: rest =>
      if entry.1 == key then (entry.1, value) :: rest
      else entry :: insertEntry key value rest

/-- The keys after a store: unchanged when the key was present, one more
otherwise. -/
theorem keys_insertEntry (key : κ) (value : α) (entries : List (κ × α)) :
    (insertEntry key value entries).map Prod.fst =
      if entries.any fun entry => entry.1 == key then entries.map Prod.fst
      else entries.map Prod.fst ++ [key] := by
  induction entries with
  | nil => simp [insertEntry]
  | cons entry rest hypothesis =>
      by_cases same : entry.1 == key
      · simp [insertEntry, same]
      · rw [Bool.not_eq_true] at same
        simp only [insertEntry, same, Bool.false_eq_true, if_false,
          List.map_cons, hypothesis, List.any_cons, Bool.false_or]
        split <;> rfl

end Entries

/-- Finite maps whose keys keep the order of their arrival. -/
structure OrderedMap (κ α : Type) [BEq κ] where
  /-- The pairs, oldest key first. -/
  entries : List (κ × α)
  /-- No two keys count as one. -/
  apart_keys : (entries.map Prod.fst).Pairwise fun key other => ¬key == other

namespace OrderedMap

variable {κ α : Type} [BEq κ]

/-- The map without entries. -/
def empty : OrderedMap κ α where
  entries := []
  apart_keys := List.Pairwise.nil

instance : EmptyCollection (OrderedMap κ α) := ⟨empty⟩

instance : Inhabited (OrderedMap κ α) := ⟨empty⟩

/-- The keys, oldest first. -/
def keys (map : OrderedMap κ α) : List κ := map.entries.map Prod.fst

/-- The values, in the order of their keys. -/
def values (map : OrderedMap κ α) : List α := map.entries.map Prod.snd

/-- The number of keys. -/
def size (map : OrderedMap κ α) : Nat := map.entries.length

/-- The value stored under a key. -/
def find? (map : OrderedMap κ α) (key : κ) : Option α :=
  (map.entries.find? fun entry => entry.1 == key).map Prod.snd

/-- Whether a key is present. -/
def contains (map : OrderedMap κ α) (key : κ) : Bool :=
  map.entries.any fun entry => entry.1 == key

/-- A key belongs to a map that has a value for it. -/
instance : Membership κ (OrderedMap κ α) := ⟨fun map key => map.contains key⟩

instance (map : OrderedMap κ α) (key : κ) : Decidable (key ∈ map) :=
  inferInstanceAs (Decidable (map.contains key = true))

@[simp] theorem empty_eq : (empty : OrderedMap κ α) = ∅ := rfl

/-- The map without entries has no keys. -/
@[simp] theorem not_mem_empty
    (key : κ) :
    key ∉ (∅ : OrderedMap κ α) := Bool.false_ne_true

@[simp] theorem entries_empty : (∅ : OrderedMap κ α).entries = [] := rfl

/-- Membership is what the map answers when it is asked for a key. -/
theorem mem_iff_contains {map : OrderedMap κ α} {key : κ} :
    key ∈ map ↔ map.contains key = true :=
  .rfl

/-- No two keys of a map count as one. -/
theorem pairwise_keys (map : OrderedMap κ α) :
    map.keys.Pairwise fun key other => ¬key == other :=
  map.apart_keys

/-- A key is present when one of the keys counts as it. -/
theorem mem_iff_keys {map : OrderedMap κ α} {key : κ} :
    key ∈ map ↔ ∃ stored ∈ map.keys, stored == key := by
  simp [mem_iff_contains, contains, keys]

/-- Store a value under a key, at the key's place or at the end. -/
def insert (map : OrderedMap κ α) (key : κ) (value : α) : OrderedMap κ α where
  entries := insertEntry key value map.entries
  apart_keys := by
    rw [keys_insertEntry]
    split
    · exact map.apart_keys
    · rename_i absent
      rw [List.pairwise_append]
      refine ⟨map.apart_keys, List.pairwise_singleton _ _, ?_⟩
      intro stored present other isKey same
      rw [List.mem_singleton] at isKey
      obtain ⟨entry, listed, rfl⟩ := List.mem_map.1 present
      exact absent (List.any_eq_true.2 ⟨entry, listed, isKey ▸ same⟩)

/-- Forget a key. -/
def erase (map : OrderedMap κ α) (key : κ) : OrderedMap κ α where
  entries := map.entries.filter fun entry => !(entry.1 == key)
  apart_keys := map.apart_keys.sublist (List.filter_sublist.map Prod.fst)

/-- A present key stays in its place and a new one goes to the end. -/
theorem keys_insert (map : OrderedMap κ α) (key : κ) (value : α) :
    (map.insert key value).keys = if key ∈ map then map.keys
      else map.keys ++ [key] :=
  keys_insertEntry key value map.entries

/-- A key that is absent goes to the end with its value. -/
theorem entries_insert_of_not_mem
    {map : OrderedMap κ α}
    {key : κ}
    (absent : key ∉ map)
    (value : α) :
    (map.insert key value).entries = map.entries ++ [(key, value)] := by
  obtain ⟨entries, apart⟩ := map
  simp only [mem_iff_contains, contains, List.any_eq_true, not_exists,
    not_and] at absent
  simp only [insert]
  clear apart
  induction entries with
  | nil => rfl
  | cons entry rest hypothesis =>
      rw [insertEntry, if_neg (absent entry List.mem_cons_self),
        List.cons_append, hypothesis fun other inRest =>
          absent other (List.mem_cons_of_mem _ inRest)]

/-- Storing the value that a key has already changes nothing. -/
theorem insert_of_find? {map : OrderedMap κ α} {key : κ} {value : α}
    (found : map.find? key = some value) :
    map.insert key value = map := by
  obtain ⟨entries, apart⟩ := map
  simp only [find?, insert, mk.injEq] at found ⊢
  clear apart
  induction entries with
  | nil => simp at found
  | cons entry rest hypothesis =>
      rw [List.find?_cons] at found
      by_cases same : entry.1 == key
      · simp only [same, Option.map_some, Option.some.injEq] at found
        rw [insertEntry, if_pos same, ← found]
      · simp only [same] at found
        rw [insertEntry, if_neg same, hypothesis found]

/-- A key without a value is absent. -/
theorem find?_eq_none_iff (map : OrderedMap κ α) (key : κ) :
    map.find? key = none ↔ key ∉ map := by
  simp only [mem_iff_contains, find?, contains, Option.map_eq_none_iff,
    List.find?_eq_none, List.any_eq_true, not_exists, not_and]

/-- A key is present when it has a value. -/
theorem mem_iff_find? (map : OrderedMap κ α) (key : κ) :
    key ∈ map ↔ ∃ value, map.find? key = some value := by
  rw [← Option.ne_none_iff_exists', ne_eq, find?_eq_none_iff, Decidable.not_not]

/-- After a store the values are old ones and the new one. -/
theorem mem_values_insert {map : OrderedMap κ α} {key : κ} {value other : α}
    (present : other ∈ (map.insert key value).values) :
    other = value ∨ other ∈ map.values := by
  obtain ⟨entries, apart⟩ := map
  simp only [values, insert] at present ⊢
  clear apart
  induction entries with
  | nil => simpa [insertEntry] using present
  | cons entry rest hypothesis =>
      by_cases same : entry.1 == key
      · rw [insertEntry, if_pos same, List.map_cons, List.mem_cons] at present
        exact present.imp_right fun inRest => List.mem_cons_of_mem _ inRest
      · rw [insertEntry, if_neg same, List.map_cons, List.mem_cons] at present
        rcases present with equal | inRest
        · exact .inr (equal ▸ List.mem_cons_self)
        · exact (hypothesis inRest).imp_right fun old =>
            List.mem_cons_of_mem _ old

/-- Forgetting a key brings in no value. -/
theorem mem_values_of_mem_values_erase
    {map : OrderedMap κ α}
    {key : κ}
    {value : α} (present : value ∈ (map.erase key).values) :
    value ∈ map.values :=
  (List.filter_sublist.map Prod.snd).subset present

variable [EquivBEq κ]

/-- The keys of a map belong to it. -/
theorem mem_of_mem_keys
    {map : OrderedMap κ α}
    {key : κ}
    (present : key ∈ map.keys) :
    key ∈ map :=
  mem_iff_keys.2 ⟨key, present, BEq.rfl⟩

/-- Keys that count as one have the same value. -/
theorem find?_congr
    (map : OrderedMap κ α)
    {key other : κ}
    (same : key == other) :
    map.find? key = map.find? other := by
  have alike : (fun entry : κ × α => entry.1 == key) = fun entry =>
      entry.1 == other :=
    funext fun _ => BEq.congr_right same
  rw [find?, find?, alike]

/-- Keys that count as one are present together. -/
theorem mem_congr {map : OrderedMap κ α} {key other : κ} (same : key == other) :
    key ∈ map ↔ other ∈ map := by
  have alike : (fun entry : κ × α => entry.1 == key) = fun entry =>
      entry.1 == other :=
    funext fun _ => BEq.congr_right same
  rw [mem_iff_contains, mem_iff_contains, contains, contains, alike]

/-- A store is seen under the keys that count as its own. -/
theorem find?_insert (map : OrderedMap κ α) (key : κ) (value : α) (other : κ) :
    (map.insert key value).find? other =
      if key == other then some value else map.find? other := by
  obtain ⟨entries, apart⟩ := map
  simp only [find?, insert]
  clear apart
  induction entries with
  | nil => by_cases same : key == other <;> simp [insertEntry, same]
  | cons entry rest hypothesis =>
      by_cases stored : entry.1 == key
      · have alike : (entry.1 == other) = (key == other) :=
          BEq.congr_left stored
        by_cases same : key == other <;> simp [insertEntry, stored, alike, same]
      · by_cases found : entry.1 == other
        · have apart : ¬key == other := fun same =>
            stored (BEq.trans found (BEq.symm same))
          simp [insertEntry, stored, found, apart]
        · simpa [insertEntry, stored, found] using hypothesis

/-- Storing under a key makes it readable. -/
theorem find?_insert_self (map : OrderedMap κ α) (key : κ) (value : α) :
    (map.insert key value).find? key = some value := by
  rw [find?_insert, if_pos BEq.rfl]

/-- Storing under a key leaves every other key's value. -/
theorem find?_insert_of_not_beq
    (map : OrderedMap κ α)
    {key other : κ}
    (value : α) (apart : ¬key == other) :
    (map.insert key value).find? other = map.find? other := by
  rw [find?_insert, if_neg apart]

/-- A store adds its key and takes none away. -/
theorem mem_insert {map : OrderedMap κ α} {key other : κ} {value : α} :
    other ∈ map.insert key value ↔ key == other ∨ other ∈ map := by
  rw [mem_iff_find?, mem_iff_find?, find?_insert]
  by_cases same : key == other <;> simp [same]

/-- A value that is found stands beside a key that counts as the one asked
for. -/
theorem find?_eq_some_iff {map : OrderedMap κ α} {key : κ} {value : α} :
    map.find? key = some value ↔ ∃ stored, (stored, value) ∈ map.entries ∧
      stored == key := by
  obtain ⟨entries, apart⟩ := map
  simp only [find?]
  induction entries with
  | nil => simp
  | cons entry rest hypothesis =>
      obtain ⟨first, restApart⟩ := List.pairwise_cons.1 apart
      rw [List.find?_cons]
      by_cases same : entry.1 == key
      · simp only [same, Option.map_some, Option.some.injEq, List.mem_cons]
        constructor
        · rintro rfl
          exact ⟨entry.1, .inl rfl, same⟩
        · rintro ⟨stored, rfl | inRest, isKey⟩
          · rfl
          · exact absurd (BEq.trans same (BEq.symm isKey))
              (first stored (List.mem_map_of_mem (f := Prod.fst) inRest))
      · simp only [same, hypothesis restApart, List.mem_cons]
        refine exists_congr fun stored => and_congr_left fun isKey => ?_
        exact ⟨.inr, fun either => either.resolve_left fun equal =>
          same (equal ▸ isKey)⟩

/-- A value that is found is a value of the map. -/
theorem mem_values_of_find? {map : OrderedMap κ α} {key : κ} {value : α}
    (found : map.find? key = some value) :
    value ∈ map.values := by
  obtain ⟨stored, listed, -⟩ := find?_eq_some_iff.1 found
  exact List.mem_map_of_mem listed

end OrderedMap
end ClassLowering
