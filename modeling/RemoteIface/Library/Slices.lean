import RemoteIface.Library.InsertionOrder

/-!
A dictionary shared by several owners, whose keys say whose entry it is. The
slice of one owner is a dictionary of its own: what is assigned and removed
under the owner's keys is assigned and removed in the slice, in the same order,
and what happens under other keys leaves it alone.
-/

namespace RemoteIface.Library.Slices

set_option autoImplicit false

open RemoteIface.Library.InsertionOrder

variable {Owner Key Value : Type*} [DecidableEq Owner]

def ownEntry (owner : Owner) (entry : (Owner × Key) × Value) : Option (Key × Value) :=
  if entry.1.1 = owner then some (entry.1.2, entry.2) else none

theorem own_keys (owner : Owner) (entries : List ((Owner × Key) × Value)) :
    (entries.filterMap (ownEntry owner)).map Prod.fst =
      (entries.map Prod.fst).filterMap fun key =>
        if key.1 = owner then some key.2 else none := by
  rw [List.map_filterMap, List.filterMap_map]
  congr 1
  funext entry
  by_cases own : entry.1.1 = owner <;> simp [ownEntry, own]

/-- What the owner has in the dictionary. -/
def slice (dict : OrderedDict (Owner × Key) Value) (owner : Owner) : OrderedDict Key Value where
  entries := dict.entries.filterMap (ownEntry owner)
  uniqueKeys := by
    rw [own_keys]
    refine dict.uniqueKeys.filterMap ?_
    intro one two key first second
    obtain ⟨oneOwner, oneKey⟩ := one
    obtain ⟨twoOwner, twoKey⟩ := two
    simp at first second
    rw [first.1, second.1, first.2, second.2]

theorem dict_ext {one two : OrderedDict Key Value} (same : one.entries = two.entries) :
    one = two := by
  obtain ⟨entries, unique⟩ := one
  cases same
  rfl

theorem slice_unknown {dict : OrderedDict (Owner × Key) Value} {owner : Owner}
    (unknown : ∀ key, (owner, key) ∉ dict.keys) : slice dict owner = .empty := by
  apply dict_ext
  refine List.filterMap_eq_nil_iff.mpr ?_
  intro entry member
  obtain ⟨⟨holder, held⟩, value⟩ := entry
  have foreign : holder ≠ owner := by
    rintro rfl
    exact unknown held (List.mem_map_of_mem member)
  exact if_neg foreign

variable [DecidableEq Key]

theorem get_slice (dict : OrderedDict (Owner × Key) Value) (owner : Owner) (key : Key) :
    (slice dict owner).get? key = dict.get? (owner, key) := by
  unfold OrderedDict.get? slice
  dsimp only
  induction dict.entries with
  | nil => rfl
  | cons entry rest induction =>
      obtain ⟨⟨holder, held⟩, value⟩ := entry
      rw [List.filterMap_cons, lookupEntry, ← induction]
      by_cases own : holder = owner
      · subst own
        simp [ownEntry, lookupEntry]
      · have foreign : (owner, key) ≠ (holder, held) := by
          intro same
          exact own (Prod.mk.inj same).1.symm
        simp [ownEntry, own, foreign]

theorem mem_keys_slice {dict : OrderedDict (Owner × Key) Value} {owner : Owner} {key : Key} :
    key ∈ (slice dict owner).keys ↔ (owner, key) ∈ dict.keys := by
  rw [← OrderedDict.get_isSome_iff, ← OrderedDict.get_isSome_iff, get_slice]

theorem replace_own (owner : Owner) (key : Key) (value : Value)
    (entries : List ((Owner × Key) × Value)) :
    (replaceEntry (owner, key) value entries).filterMap (ownEntry owner) =
      replaceEntry key value (entries.filterMap (ownEntry owner)) := by
  unfold replaceEntry
  rw [List.filterMap_map, List.map_filterMap]
  congr 1
  funext entry
  obtain ⟨⟨holder, held⟩, old⟩ := entry
  by_cases own : holder = owner <;> by_cases same : held = key <;> simp [ownEntry, own, same]

theorem replace_foreign {owner other : Owner} (foreign : other ≠ owner) (key : Key) (value : Value)
    (entries : List ((Owner × Key) × Value)) :
    (replaceEntry (other, key) value entries).filterMap (ownEntry owner) =
      entries.filterMap (ownEntry owner) := by
  unfold replaceEntry
  rw [List.filterMap_map]
  congr 1
  funext entry
  obtain ⟨⟨holder, held⟩, old⟩ := entry
  by_cases same : (holder, held) = (other, key)
  · cases same
    simp [ownEntry, foreign]
  · simp [same]

theorem slice_set (dict : OrderedDict (Owner × Key) Value) (owner : Owner) (key : Key)
    (value : Value) :
    slice (dict.set (owner, key) value) owner = (slice dict owner).set key value := by
  apply dict_ext
  unfold OrderedDict.set
  by_cases present : (owner, key) ∈ dict.keys
  · rw [dif_pos present, dif_pos (mem_keys_slice.mpr present)]
    exact replace_own owner key value dict.entries
  · rw [dif_neg present, dif_neg (mt mem_keys_slice.mp present)]
    simp [slice, ownEntry]

theorem slice_set_other (dict : OrderedDict (Owner × Key) Value) {owner other : Owner}
    (foreign : other ≠ owner) (key : Key) (value : Value) :
    slice (dict.set (other, key) value) owner = slice dict owner := by
  apply dict_ext
  unfold OrderedDict.set
  by_cases present : (other, key) ∈ dict.keys
  · rw [dif_pos present]
    exact replace_foreign foreign key value dict.entries
  · rw [dif_neg present]
    simp [slice, ownEntry, foreign]

theorem slice_pop (dict : OrderedDict (Owner × Key) Value) (owner : Owner) (key : Key) :
    slice (dict.pop (owner, key)) owner = (slice dict owner).pop key := by
  apply dict_ext
  simp only [slice, OrderedDict.pop, List.filterMap_filter, List.filter_filterMap]
  congr 1
  funext entry
  obtain ⟨⟨holder, held⟩, value⟩ := entry
  by_cases own : holder = owner <;> by_cases same : held = key <;>
    simp [ownEntry, own, same, Option.filter]

theorem slice_pop_other (dict : OrderedDict (Owner × Key) Value) {owner other : Owner}
    (foreign : other ≠ owner) (key : Key) :
    slice (dict.pop (other, key)) owner = slice dict owner := by
  apply dict_ext
  simp only [slice, OrderedDict.pop, List.filterMap_filter]
  congr 1
  funext entry
  obtain ⟨⟨holder, held⟩, value⟩ := entry
  by_cases own : holder = owner
  · subst own
    simp [ownEntry, foreign.symm]
  · simp [ownEntry, own]

end RemoteIface.Library.Slices
