import Mathlib.Data.List.Basic
import Mathlib.Order.Lattice
import Mathlib.Order.Defs.LinearOrder

/-!
The first element of a list whose key is maximal: a later element replaces
the best one seen only if its key is strictly greater. Among equal keys the
earliest element wins.
-/

namespace RemoteIface.Library.FirstMax

set_option autoImplicit false

variable {Item Rank : Type*} [LinearOrder Rank] (rank : Item → Rank)

def firstMax : List Item → Option Item
  | [] => none
  | first :: rest =>
      some (rest.foldl (fun best item => if rank best < rank item then item else best) first)

/-- The winner with the elements it beats: strictly those before it, weakly
those after it. -/
def Wins (items : List Item) (winner : Item) : Prop :=
  ∃ before after, items = before ++ winner :: after ∧
    (∀ item ∈ before, rank item < rank winner) ∧ ∀ item ∈ after, rank item ≤ rank winner

private theorem fold_wins (read rest : List Item) (best : Item) (current : Wins rank read best) :
    Wins rank (read ++ rest)
      (rest.foldl (fun best item => if rank best < rank item then item else best) best) := by
  induction rest generalizing read best with
  | nil => simpa using current
  | cons item rest induction =>
      have regroup : read ++ item :: rest = (read ++ [item]) ++ rest := by simp
      rw [List.foldl_cons, regroup]
      apply induction
      obtain ⟨before, after, split, below, notAbove⟩ := current
      by_cases greater : rank best < rank item
      · rw [if_pos greater]
        refine ⟨read, [], rfl, ?_, by simp⟩
        intro older member
        rw [split, List.mem_append, List.mem_cons] at member
        rcases member with earlier | rfl | later
        · exact (below older earlier).trans greater
        · exact greater
        · exact (notAbove older later).trans_lt greater
      · rw [if_neg greater]
        refine ⟨before, after ++ [item], by simp [split], below, ?_⟩
        intro later member
        rw [List.mem_append, List.mem_singleton] at member
        rcases member with earlier | rfl
        · exact notAbove later earlier
        · exact not_lt.mp greater

theorem first_max_wins {items : List Item} {winner : Item}
    (found : firstMax rank items = some winner) : Wins rank items winner := by
  cases items with
  | nil => simp [firstMax] at found
  | cons first rest =>
      have start : Wins rank [first] first := ⟨[], [], rfl, by simp, by simp⟩
      have swept := fold_wins rank [first] rest first start
      simp only [firstMax, Option.some.injEq] at found
      rwa [found] at swept

theorem first_max_none_iff {items : List Item} : firstMax rank items = none ↔ items = [] := by
  cases items <;> simp [firstMax]

theorem first_max_filter_splits {keep : Item → Bool} {items : List Item} {winner : Item}
    (found : firstMax rank (items.filter keep) = some winner) :
    ∃ before after, items = before ++ winner :: after ∧ keep winner = true ∧
      (∀ item ∈ before, keep item = true → rank item < rank winner) ∧
      ∀ item ∈ after, keep item = true → rank item ≤ rank winner := by
  obtain ⟨kept, keptAfter, split, below, notAbove⟩ := first_max_wins rank found
  obtain ⟨first, second, whole, firstKept, secondKept⟩ := List.filter_eq_append_iff.mp split
  obtain ⟨skipped, after, secondSplit, skippedOut, winnerKept, afterKept⟩ :=
    List.filter_eq_cons_iff.mp secondKept
  refine ⟨first ++ skipped, after, by simp [whole, secondSplit], winnerKept, ?_, ?_⟩
  · intro item member keeps
    rcases List.mem_append.mp member with early | skip
    · exact below item (firstKept ▸ List.mem_filter.mpr ⟨early, keeps⟩)
    · exact absurd keeps (skippedOut item skip)
  · intro item member keeps
    exact notAbove item (afterKept ▸ List.mem_filter.mpr ⟨member, keeps⟩)

/-- In a list without repetition, an element after another one has it before. -/
theorem before_of_after {items before after otherBefore otherAfter : List Item} {item other : Item}
    (distinct : items.Nodup) (split : items = before ++ item :: after)
    (otherSplit : items = otherBefore ++ other :: otherAfter) (later : other ∈ after) :
    item ∈ otherBefore := by
  rw [split] at distinct otherSplit
  have tail := (List.nodup_append.mp distinct).2.1
  have itemOut : item ∉ after := (List.nodup_cons.mp tail).1
  have beforeOut : other ∉ before := fun member =>
    (List.nodup_append.mp distinct).2.2 other member other (List.mem_cons_of_mem _ later) rfl
  rcases List.append_eq_append_iff.mp otherSplit with ⟨gap, first, second⟩ | ⟨gap, first, second⟩
  · cases gap with
    | nil =>
        cases second
        exact absurd later itemOut
    | cons head rest =>
        cases second
        simp [first]
  · cases gap with
    | nil =>
        cases second
        exact absurd later itemOut
    | cons head rest =>
        cases second
        exact absurd (by simp [first]) beforeOut

end RemoteIface.Library.FirstMax
