/-!
# Maps in order of arrival

A map from keys to values that remembers the order in which its keys arrived. Writing to a key that
is present keeps its place, a new key goes to the end, and erasing a key closes the gap. `get?` is
the view through which the operations are described.
-/

namespace Redraw

/-- Entries with distinct keys, in order of arrival. -/
structure OrderedMap (κ α : Type) where
  entries : List (κ × α)
  distinct : (entries.map Prod.fst).Nodup

namespace OrderedMap

variable {κ α : Type}

/-- The map without entries. -/
def empty : OrderedMap κ α := ⟨[], List.nodup_nil⟩

instance : Inhabited (OrderedMap κ α) := ⟨empty⟩

instance : EmptyCollection (OrderedMap κ α) := ⟨empty⟩

/-- The keys in order of arrival. -/
def keys (m : OrderedMap κ α) : List κ := m.entries.map Prod.fst

/-- The number of entries. -/
def size (m : OrderedMap κ α) : Nat := m.entries.length

/-- The map has no entries. -/
def isEmpty (m : OrderedMap κ α) : Bool := m.entries.isEmpty

@[ext]
theorem ext {a b : OrderedMap κ α} (h : a.entries = b.entries) : a = b := by
  cases a; cases b; cases h; rfl

variable [DecidableEq κ]

/-- The value at a key in a list of entries. -/
def find? (key : κ) : List (κ × α) → Option α
  | [] => none
  | (other, value) :: rest => if other = key then some value else find? key rest

/-- The value at a key. -/
def get? (m : OrderedMap κ α) (key : κ) : Option α := find? key m.entries

/-- The key has a value. -/
def contains (m : OrderedMap κ α) (key : κ) : Bool := (m.get? key).isSome

/-- Entries with the value at `key` written in place, or put at the end where the key is new. -/
def write (key : κ) (value : α) : List (κ × α) → List (κ × α)
  | [] => [(key, value)]
  | (other, old) :: rest =>
    if other = key then (other, value) :: rest else (other, old) :: write key value rest

theorem keys_write (key : κ) (value : α) (entries : List (κ × α)) :
    (write key value entries).map Prod.fst =
      if key ∈ entries.map Prod.fst then entries.map Prod.fst
      else entries.map Prod.fst ++ [key] := by
  induction entries with
  | nil => simp [write]
  | cons entry rest ih =>
    obtain ⟨other, old⟩ := entry
    by_cases h : other = key
    · simp [write, h]
    · have h' : ¬ key = other := fun he => h he.symm
      simp only [write, h, if_false, List.map_cons, ih, List.mem_cons, h', false_or]
      split <;> simp

/-- The map with `value` at `key`. -/
def insert (m : OrderedMap κ α) (key : κ) (value : α) : OrderedMap κ α where
  entries := write key value m.entries
  distinct := by
    rw [keys_write]
    split
    · exact m.distinct
    · next h =>
      exact List.nodup_append.2 ⟨m.distinct, by simp, fun a ha b hb hab => by simp_all⟩

/-- The map without `key`. -/
def erase (m : OrderedMap κ α) (key : κ) : OrderedMap κ α where
  entries := m.entries.filter fun entry => !decide (entry.1 = key)
  distinct := m.distinct.sublist (List.filter_sublist.map _)

/-- The map that results from writing entries one after the other. -/
def ofList (entries : List (κ × α)) : OrderedMap κ α :=
  entries.foldl (fun m entry => m.insert entry.1 entry.2) empty

theorem find?_write (key : κ) (value : α) (entries : List (κ × α)) (k : κ) :
    find? k (write key value entries) = if key = k then some value else find? k entries := by
  induction entries with
  | nil => simp [write, find?]
  | cons entry rest ih =>
    obtain ⟨other, old⟩ := entry
    simp only [write]
    split
    · next h => subst h; simp only [find?]; split <;> rfl
    · next h =>
      simp only [find?, ih]
      by_cases hk : key = k
      · have : ¬ other = k := fun ho => h (ho.trans hk.symm)
        simp [hk, this]
      · simp [hk]

theorem find?_filter (key : κ) (entries : List (κ × α)) (k : κ) :
    find? k (entries.filter fun entry => !decide (entry.1 = key)) =
      if key = k then none else find? k entries := by
  induction entries with
  | nil => simp [find?]
  | cons entry rest ih =>
    obtain ⟨other, old⟩ := entry
    by_cases h : other = key
    · simp only [h, decide_true, Bool.not_true, List.filter_cons_of_neg, Bool.false_eq_true,
        not_false_eq_true, ih, find?]
      split <;> rfl
    · simp only [h, decide_false, Bool.not_false, List.filter_cons_of_pos, find?, ih]
      by_cases hk : key = k
      · have : ¬ other = k := fun ho => h (ho.trans hk.symm)
        simp [hk, this]
      · simp [hk]

@[simp]
theorem get?_empty (k : κ) : (∅ : OrderedMap κ α).get? k = none := rfl

/-- A key has what was written to it last, and the other keys have what they had. -/
@[simp]
theorem get?_insert (m : OrderedMap κ α) (key : κ) (value : α) (k : κ) :
    (m.insert key value).get? k = if key = k then some value else m.get? k :=
  find?_write key value m.entries k

/-- An erased key has no value, and the other keys have what they had. -/
@[simp]
theorem get?_erase (m : OrderedMap κ α) (key k : κ) :
    (m.erase key).get? k = if key = k then none else m.get? k :=
  find?_filter key m.entries k

/-- A new key goes to the end and a present one keeps its place. -/
theorem keys_insert (m : OrderedMap κ α) (key : κ) (value : α) :
    (m.insert key value).keys = if key ∈ m.keys then m.keys else m.keys ++ [key] :=
  keys_write key value m.entries

theorem mem_of_find? {key : κ} {value : α} {entries : List (κ × α)}
    (found : find? key entries = some value) : (key, value) ∈ entries := by
  induction entries with
  | nil => cases found
  | cons entry rest ih =>
    obtain ⟨other, old⟩ := entry
    unfold find? at found
    split at found
    · next same =>
      cases found
      subst same
      exact List.mem_cons_self
    · exact List.mem_cons_of_mem _ (ih found)

/-- Where keys are distinct, a lookup finds the entry of its key. -/
theorem find?_of_mem {key : κ} {value : α} {entries : List (κ × α)}
    (distinct : (entries.map Prod.fst).Nodup) (inside : (key, value) ∈ entries) :
    find? key entries = some value := by
  induction entries with
  | nil => cases inside
  | cons entry rest ih =>
    obtain ⟨other, old⟩ := entry
    obtain ⟨new, distinct⟩ := List.nodup_cons.1 distinct
    obtain same | later := List.mem_cons.1 inside
    · cases same
      exact if_pos rfl
    · have differ : other ≠ key := by
        rintro rfl
        exact new (List.mem_map.2 ⟨_, later, rfl⟩)
      rw [find?, if_neg differ, ih distinct later]

/-- The value at a key is the one that the key is listed with. -/
theorem get?_eq_some_iff {m : OrderedMap κ α} {key : κ} {value : α} :
    m.get? key = some value ↔ (key, value) ∈ m.entries :=
  ⟨mem_of_find?, find?_of_mem m.distinct⟩

/-- Exactly the keys of the map have a value. -/
theorem mem_keys_iff {m : OrderedMap κ α} {key : κ} :
    key ∈ m.keys ↔ ∃ value, m.get? key = some value := by
  simp only [keys, List.mem_map, get?_eq_some_iff]
  constructor
  · rintro ⟨⟨_, value⟩, inside, rfl⟩
    exact ⟨value, inside⟩
  · rintro ⟨value, inside⟩
    exact ⟨(key, value), inside, rfl⟩

/-- A key has a value exactly if it is listed. -/
theorem contains_iff {m : OrderedMap κ α} {key : κ} : m.contains key = true ↔ key ∈ m.keys := by
  rw [mem_keys_iff, contains, Option.isSome_iff_exists]

theorem get?_eq_none_iff {m : OrderedMap κ α} {key : κ} : m.get? key = none ↔ key ∉ m.keys := by
  rw [mem_keys_iff, ← Option.isSome_iff_exists, Bool.not_eq_true, Option.isSome_eq_false_iff,
    Option.isNone_iff_eq_none]

/-! ## Maps from lists of entries -/

/-- Writing to a new key puts it at the end. -/
theorem write_new {key : κ} {entries : List (κ × α)} (new : key ∉ entries.map Prod.fst) (value : α) :
    write key value entries = entries ++ [(key, value)] := by
  induction entries with
  | nil => rfl
  | cons entry rest ih =>
    obtain ⟨other, old⟩ := entry
    obtain ⟨differ, new⟩ := not_or.1 (mt List.mem_cons.2 new)
    rw [write, if_neg (Ne.symm differ), ih new]
    rfl

/-- A new key goes to the end with its value. -/
theorem entries_insert_new {m : OrderedMap κ α} {key : κ} (new : key ∉ m.keys) (value : α) :
    (m.insert key value).entries = m.entries ++ [(key, value)] :=
  write_new new value

/-- Writing what is there already changes nothing. -/
theorem write_found {key : κ} {value : α} {entries : List (κ × α)}
    (found : find? key entries = some value) : write key value entries = entries := by
  induction entries with
  | nil => cases found
  | cons entry rest ih =>
    obtain ⟨other, old⟩ := entry
    unfold find? at found
    unfold write
    split at found
    · next same =>
      cases found
      rw [if_pos same]
    · next differ => rw [if_neg differ, ih found]

theorem insert_found {m : OrderedMap κ α} {key : κ} {value : α} (found : m.get? key = some value) :
    m.insert key value = m :=
  ext (write_found found)

theorem write_write (key : κ) (old value : α) (entries : List (κ × α)) :
    write key value (write key old entries) = write key value entries := by
  induction entries with
  | nil => exact if_pos rfl
  | cons entry rest ih =>
    obtain ⟨other, first⟩ := entry
    by_cases same : other = key
    · simp only [write, same, if_true]
    · simp only [write, same, if_false, ih]

/-- Of two values that are written to one key, the second stays. -/
theorem insert_insert (m : OrderedMap κ α) (key : κ) (old value : α) :
    (m.insert key old).insert key value = m.insert key value :=
  ext (write_write key old value m.entries)

/-- What is written is there, and everything else was there before. -/
theorem mem_of_mem_write {key : κ} {value : α} {entries : List (κ × α)} {entry : κ × α}
    (inside : entry ∈ write key value entries) : entry = (key, value) ∨ entry ∈ entries := by
  induction entries with
  | nil => exact .inl (List.mem_singleton.1 inside)
  | cons first rest ih =>
    obtain ⟨other, old⟩ := first
    unfold write at inside
    split at inside
    · next same =>
      subst same
      exact (List.mem_cons.1 inside).imp_right (List.mem_cons_of_mem _)
    · obtain rfl | later := List.mem_cons.1 inside
      · exact .inr List.mem_cons_self
      · exact (ih later).imp_right (List.mem_cons_of_mem _)

/-- Entries with distinct new keys are put at the end in their order. -/
theorem entries_foldl_insert {rest : List (κ × α)} {m : OrderedMap κ α}
    (distinct : ((m.entries ++ rest).map Prod.fst).Nodup) :
    (rest.foldl (fun m entry => m.insert entry.1 entry.2) m).entries = m.entries ++ rest := by
  induction rest generalizing m with
  | nil => exact (List.append_nil m.entries).symm
  | cons entry rest ih =>
    obtain ⟨key, value⟩ := entry
    have new : key ∉ m.entries.map Prod.fst := by
      rw [List.map_append] at distinct
      intro old
      exact (List.nodup_append.1 distinct).2.2 key old key List.mem_cons_self rfl
    have entries : (m.insert key value).entries = m.entries ++ [(key, value)] :=
      entries_insert_new new value
    have longer := ih (m := m.insert key value) (by rw [entries, List.append_assoc]; exact distinct)
    rw [entries, List.append_assoc] at longer
    exact longer

/-- A map is what results from writing its entries in their order. -/
theorem ofList_entries (m : OrderedMap κ α) : ofList m.entries = m :=
  ext (entries_foldl_insert (m := ∅) m.distinct)

theorem mem_of_mem_foldl_insert {rest : List (κ × α)} {m : OrderedMap κ α} {entry : κ × α}
    (inside : entry ∈ (rest.foldl (fun m entry => m.insert entry.1 entry.2) m).entries) :
    entry ∈ m.entries ∨ entry ∈ rest := by
  induction rest generalizing m with
  | nil => exact .inl inside
  | cons first rest ih =>
    obtain early | late := ih inside
    · obtain rfl | old := mem_of_mem_write early
      · exact .inr List.mem_cons_self
      · exact .inl old
    · exact .inr (List.mem_cons_of_mem _ late)

/-- A map that results from writing entries has none but these. -/
theorem mem_of_mem_ofList {entries : List (κ × α)} {entry : κ × α}
    (inside : entry ∈ (ofList entries).entries) : entry ∈ entries := by
  obtain none | there := mem_of_mem_foldl_insert inside
  · cases none
  · exact there

end OrderedMap

end Redraw
