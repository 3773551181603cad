import Mathlib.Data.List.Nodup

/-!
An insertion-ordered dictionary with unique keys. Assigning to a present key
keeps its position, assigning to an absent one appends it, and removal keeps
the order of the other keys. The uniqueness of the keys is a field, so a
dictionary that lists one key twice cannot be built.
-/

namespace RemoteIface.Library.InsertionOrder

set_option autoImplicit false

structure OrderedDict (Key Value : Type*) where
  entries : List (Key × Value)
  uniqueKeys : (entries.map Prod.fst).Nodup

variable {Key Value : Type*}

def lookupEntry [DecidableEq Key] (key : Key) : List (Key × Value) → Option Value
  | [] => none
  | entry :: rest => if key = entry.1 then some entry.2 else lookupEntry key rest

def replaceEntry [DecidableEq Key] (key : Key) (value : Value)
    (entries : List (Key × Value)) : List (Key × Value) :=
  entries.map fun entry => if entry.1 = key then (key, value) else entry

theorem replace_entry_keys [DecidableEq Key] (key : Key) (value : Value)
    (entries : List (Key × Value)) :
    (replaceEntry key value entries).map Prod.fst = entries.map Prod.fst := by
  unfold replaceEntry
  rw [List.map_map]
  apply List.map_congr_left
  intro entry _
  by_cases same : entry.1 = key <;> simp [same]

namespace OrderedDict

def empty : OrderedDict Key Value := ⟨[], List.nodup_nil⟩

def keys (dict : OrderedDict Key Value) : List Key := dict.entries.map Prod.fst

@[simp] theorem keys_empty : (empty : OrderedDict Key Value).keys = [] := rfl

theorem keys_nodup (dict : OrderedDict Key Value) : dict.keys.Nodup := dict.uniqueKeys

variable [DecidableEq Key]

/-- `dict.get(key)` -/
def get? (dict : OrderedDict Key Value) (key : Key) : Option Value :=
  lookupEntry key dict.entries

/-- `dict[key] = value` -/
def set (dict : OrderedDict Key Value) (key : Key) (value : Value) : OrderedDict Key Value :=
  if present : key ∈ dict.keys then
    ⟨replaceEntry key value dict.entries, by
      rw [replace_entry_keys]
      exact dict.uniqueKeys⟩
  else
    ⟨dict.entries ++ [(key, value)], by
      simp only [List.map_append, List.map_cons, List.map_nil]
      refine List.nodup_append.mpr ⟨dict.uniqueKeys, List.nodup_singleton _, ?_⟩
      intro old member new same equal
      rw [List.mem_singleton] at same
      exact present (same ▸ equal ▸ member)⟩

/-- `dict.pop(key, None)` without its result -/
def pop (dict : OrderedDict Key Value) (key : Key) : OrderedDict Key Value :=
  ⟨dict.entries.filter fun entry => entry.1 ≠ key,
    dict.uniqueKeys.sublist (List.filter_sublist.map Prod.fst)⟩

@[simp] theorem get_empty (key : Key) : (empty : OrderedDict Key Value).get? key = none := rfl

theorem keys_set_present {dict : OrderedDict Key Value} {key : Key} (value : Value)
    (present : key ∈ dict.keys) : (dict.set key value).keys = dict.keys := by
  unfold set
  rw [dif_pos present]
  exact replace_entry_keys key value dict.entries

theorem keys_set_absent {dict : OrderedDict Key Value} {key : Key} (value : Value)
    (absent : key ∉ dict.keys) : (dict.set key value).keys = dict.keys ++ [key] := by
  unfold set
  rw [dif_neg absent]
  simp [keys]

theorem mem_keys_set {dict : OrderedDict Key Value} {key other : Key} {value : Value} :
    other ∈ (dict.set key value).keys ↔ other = key ∨ other ∈ dict.keys := by
  by_cases present : key ∈ dict.keys
  · rw [keys_set_present value present]
    constructor
    · exact Or.inr
    · rintro (rfl | member)
      · exact present
      · exact member
  · rw [keys_set_absent value present, List.mem_append, List.mem_singleton, or_comm]

theorem mem_keys_pop {dict : OrderedDict Key Value} {key other : Key} :
    other ∈ (dict.pop key).keys ↔ other ∈ dict.keys ∧ other ≠ key := by
  simp only [pop, keys, List.mem_map, List.mem_filter, decide_eq_true_eq]
  constructor
  · rintro ⟨entry, ⟨member, different⟩, rfl⟩
    exact ⟨⟨entry, member, rfl⟩, different⟩
  · rintro ⟨⟨entry, member, rfl⟩, different⟩
    exact ⟨entry, ⟨member, different⟩, rfl⟩

theorem get_isSome_iff {dict : OrderedDict Key Value} {key : Key} :
    (dict.get? key).isSome ↔ key ∈ dict.keys := by
  unfold get? keys
  induction dict.entries with
  | nil => simp [lookupEntry]
  | cons entry rest induction =>
      rw [lookupEntry, List.map_cons, List.mem_cons]
      by_cases same : key = entry.1
      · simp [same]
      · rw [if_neg same, induction]
        simp [same]

theorem get_none_of_absent {dict : OrderedDict Key Value} {key : Key}
    (absent : key ∉ dict.keys) : dict.get? key = none := by
  rw [← get_isSome_iff] at absent
  simpa using absent

theorem lookup_of_mem {entries : List (Key × Value)} {key : Key} {value : Value}
    (unique : (entries.map Prod.fst).Nodup) (member : (key, value) ∈ entries) :
    lookupEntry key entries = some value := by
  induction entries with
  | nil => simp at member
  | cons entry rest induction =>
      obtain ⟨fresh, uniqueRest⟩ := List.nodup_cons.mp unique
      rw [lookupEntry]
      rcases List.mem_cons.mp member with rfl | later
      · simp
      · have different : key ≠ entry.1 := fun equal =>
          fresh (equal ▸ List.mem_map_of_mem later)
        rw [if_neg different]
        exact induction uniqueRest later

theorem get_of_mem {dict : OrderedDict Key Value} {key : Key} {value : Value}
    (member : (key, value) ∈ dict.entries) : dict.get? key = some value :=
  lookup_of_mem dict.uniqueKeys member

theorem mem_of_lookup {entries : List (Key × Value)} {key : Key} {value : Value}
    (stored : lookupEntry key entries = some value) : (key, value) ∈ entries := by
  induction entries with
  | nil => simp [lookupEntry] at stored
  | cons entry rest induction =>
      rw [lookupEntry] at stored
      split at stored
      · rename_i same
        cases stored
        exact same ▸ List.mem_cons_self
      · exact List.mem_cons_of_mem _ (induction stored)

theorem mem_of_get {dict : OrderedDict Key Value} {key : Key} {value : Value}
    (stored : dict.get? key = some value) : (key, value) ∈ dict.entries :=
  mem_of_lookup stored

private theorem lookup_replaced (entries : List (Key × Value)) (key other : Key) (value : Value) :
    lookupEntry other (replaceEntry key value entries) =
      if other = key then (lookupEntry key entries).map fun _ => value
      else lookupEntry other entries := by
  induction entries with
  | nil => simp [replaceEntry, lookupEntry]
  | cons entry rest induction =>
      have tail : (rest.map fun entry => if entry.1 = key then (key, value) else entry) =
          replaceEntry key value rest := rfl
      rw [replaceEntry, List.map_cons, tail]
      by_cases entrySame : entry.1 = key
      · rw [if_pos entrySame]
        simp only [lookupEntry, induction, entrySame]
        by_cases otherSame : other = key <;> simp [otherSame]
      · have notEntry : key ≠ entry.1 := fun equal => entrySame equal.symm
        rw [if_neg entrySame]
        simp only [lookupEntry, induction]
        by_cases otherSame : other = key <;> simp [otherSame, notEntry]

private theorem lookup_appended (entries : List (Key × Value)) (key other : Key) (value : Value) :
    lookupEntry other (entries ++ [(key, value)]) =
      (lookupEntry other entries).or (if other = key then some value else none) := by
  induction entries with
  | nil => simp [lookupEntry]
  | cons entry rest induction =>
      rw [List.cons_append, lookupEntry, lookupEntry, induction]
      by_cases same : other = entry.1 <;> simp [same]

theorem get_set (dict : OrderedDict Key Value) (key other : Key) (value : Value) :
    (dict.set key value).get? other = if other = key then some value else dict.get? other := by
  unfold set
  by_cases present : key ∈ dict.keys
  · obtain ⟨old, stored⟩ := Option.isSome_iff_exists.mp (get_isSome_iff.mpr present)
    rw [get?] at stored
    rw [dif_pos present, get?, lookup_replaced, stored]
    rfl
  · have missing := get_none_of_absent present
    rw [get?] at missing
    rw [dif_neg present, get?, lookup_appended]
    by_cases same : other = key
    · simp [same, missing]
    · simp [same, get?]

@[simp] theorem get_set_self (dict : OrderedDict Key Value) (key : Key) (value : Value) :
    (dict.set key value).get? key = some value := by
  rw [get_set, if_pos rfl]

theorem get_set_other (dict : OrderedDict Key Value) {key other : Key} (value : Value)
    (different : other ≠ key) : (dict.set key value).get? other = dict.get? other := by
  rw [get_set, if_neg different]

private theorem lookup_filtered (entries : List (Key × Value)) (key other : Key) :
    lookupEntry other (entries.filter fun entry => entry.1 ≠ key) =
      if other = key then none else lookupEntry other entries := by
  induction entries with
  | nil => simp [lookupEntry]
  | cons entry rest induction =>
      rw [List.filter_cons]
      by_cases removed : entry.1 = key
      · rw [if_neg (by simpa using removed), induction, lookupEntry, removed]
        by_cases same : other = key <;> simp [same]
      · rw [if_pos (by simpa using removed), lookupEntry, lookupEntry, induction]
        by_cases same : other = key
        · have different : key ≠ entry.1 := fun equal => removed equal.symm
          simp [same, different]
        · simp [same]

theorem get_pop (dict : OrderedDict Key Value) (key other : Key) :
    (dict.pop key).get? other = if other = key then none else dict.get? other :=
  lookup_filtered dict.entries key other

end OrderedDict

end RemoteIface.Library.InsertionOrder
