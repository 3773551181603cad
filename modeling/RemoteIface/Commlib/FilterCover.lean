import Mathlib.Algebra.Order.BigOperators.Group.List
import Mathlib.Algebra.Order.Group.Nat
import RemoteIface.Commlib.TopicFilters
import RemoteIface.Commlib.Delivery

/-!
One filter covers another when it matches every topic the other matches. A
topic that fills each `+` with a segment the wide filter does not spell turns
the inclusion into a comparison segment by segment, and the count of literal
segments follows it.
-/

namespace RemoteIface.Commlib.FilterCover

set_option autoImplicit false

open RemoteIface.Commlib.Topic
open RemoteIface.Commlib.Endpoints
open RemoteIface.Commlib.Dispatch
open RemoteIface.Commlib.Subscriptions
open RemoteIface.Commlib.TopicFilters
open RemoteIface.Commlib.Delivery

/-- The wildcards stand as whole segments only, and `#` only as the last one. -/
def ValidFilter (pattern : String) : Prop :=
  (∀ part ∈ segments pattern, '+' ∈ part → part = plus) ∧
    (∀ part ∈ segments pattern, '#' ∈ part → part = hash) ∧
    hash ∉ (segments pattern).dropLast

instance (pattern : String) : Decidable (ValidFilter pattern) :=
  inferInstanceAs (Decidable (_ ∧ _ ∧ _))

/-- Every topic the narrow filter matches, the wide one matches. A topic has no
wildcard in it. -/
def Covers (wide narrow : String) : Prop :=
  ∀ topic, hasWildcard topic = false → topicMatches narrow topic = true →
    topicMatches wide topic = true

/-- The first number of `_pattern_specificity`. -/
def literals (parts : List Segment) : Nat :=
  parts.countP fun part => part ≠ plus ∧ part ≠ hash

theorem literals_cons (part : Segment) (parts : List Segment) :
    literals (part :: parts) =
      literals parts + if part ≠ plus ∧ part ≠ hash then 1 else 0 := by
  simp [literals, List.countP_cons]

/-- The topic segments that put one fixed segment in place of every `+`. -/
def fill (fresh : Segment) (parts : List Segment) : List Segment :=
  parts.map fun part => if part = plus then fresh else part

theorem fill_cons (fresh part : Segment) (parts : List Segment) :
    fill fresh (part :: parts) = (if part = plus then fresh else part) :: fill fresh parts := rfl

theorem segments_match_cons {part : Segment} (literal : part ≠ hash) (segment : Segment)
    (parts rest : List Segment) :
    segmentsMatch (part :: parts) (segment :: rest) = true ↔
      Fits part segment ∧ segmentsMatch parts rest = true := by
  rw [segments_match_iff, segments_match_iff]
  exact filter_matches_cons literal parts rest

theorem fill_matches (fresh : Segment) {parts : List Segment} (noHash : hash ∉ parts) :
    segmentsMatch parts (fill fresh parts) = true := by
  induction parts with
  | nil => rfl
  | cons part parts induction =>
      have here : part ≠ hash := by
        intro same
        apply noHash
        simp [same]
      have later := induction fun member => noHash (List.mem_cons_of_mem _ member)
      rw [fill_cons, segments_match_cons here]
      constructor
      · by_cases wild : part = plus
        · exact .inl wild
        · right
          rw [if_neg wild]
      · exact later

/-- The wide filter is the narrow one with some segments turned into `+` and a
tail possibly into one `#`. -/
inductive Widens : List Segment → List Segment → Prop where
  | done : Widens [] []
  | rest (narrow : List Segment) : Widens [hash] narrow
  | single {wide narrow : List Segment} (segment : Segment) (later : Widens wide narrow) :
      Widens (plus :: wide) (segment :: narrow)
  | literal {wide narrow : List Segment} {segment : Segment} (plain : segment ≠ hash)
      (later : Widens wide narrow) : Widens (segment :: wide) (segment :: narrow)

theorem drop_last_of_cons {part other : Segment} {parts : List Segment}
    (final : other ∉ (part :: parts).dropLast) : other ∉ parts.dropLast := by
  intro member
  apply final
  cases parts with
  | nil => simp at member
  | cons next rest => exact List.mem_cons_of_mem _ member

/-- Matching the filled topic decides how the two filters lie over each other:
where the narrow one has `+`, the wide one cannot spell the fresh segment. -/
theorem widens_of_fill_match {fresh : Segment} {narrow wide : List Segment}
    (unused : fresh ∉ wide) (final : hash ∉ wide.dropLast)
    (fits : segmentsMatch wide (fill fresh narrow) = true) : Widens wide narrow := by
  induction wide generalizing narrow with
  | nil =>
      cases narrow with
      | nil => exact .done
      | cons segment narrow => simp [segmentsMatch, fill_cons] at fits
  | cons part wide induction =>
      by_cases ends : part = hash
      · have only : wide = [] := by
          cases wide with
          | nil => rfl
          | cons next rest => simp [ends] at final
        rw [ends, only]
        exact .rest narrow
      · cases narrow with
        | nil => simp [segmentsMatch, fill, ends] at fits
        | cons segment narrow =>
            rw [fill_cons, segments_match_cons ends] at fits
            have later : Widens wide narrow := by
              apply induction _ (drop_last_of_cons final) fits.2
              intro member
              exact unused (List.mem_cons_of_mem _ member)
            rcases fits.1 with wild | spelled
            · rw [wild]
              exact .single segment later
            · by_cases filled : segment = plus
              · rw [if_pos filled] at spelled
                exfalso
                apply unused
                simp [spelled]
              · rw [if_neg filled] at spelled
                rw [← spelled]
                exact .literal ends later

theorem widens_literals_le {wide narrow : List Segment} (widens : Widens wide narrow) :
    literals wide ≤ literals narrow := by
  induction widens with
  | done => exact le_rfl
  | rest narrow => simp [literals]
  | single segment later induction =>
      rw [literals_cons, literals_cons, if_neg (by simp)]
      omega
  | literal plain later induction =>
      rw [literals_cons, literals_cons]
      omega

theorem widens_literals_lt {wide narrow : List Segment} (widens : Widens wide narrow)
    (noHash : hash ∉ narrow) (wideNoHash : hash ∉ wide) (different : wide ≠ narrow) :
    literals wide < literals narrow := by
  induction widens with
  | done => exact absurd rfl different
  | rest narrow => simp at wideNoHash
  | @single wide narrow segment later induction =>
      have weak := widens_literals_le later
      rw [literals_cons, literals_cons, if_neg (by simp)]
      by_cases filled : segment = plus
      · have below : literals wide < literals narrow := by
          apply induction
          · exact fun member => noHash (List.mem_cons_of_mem _ member)
          · exact fun member => wideNoHash (List.mem_cons_of_mem _ member)
          · intro same
            apply different
            rw [filled, same]
        omega
      · have plain : segment ≠ hash := by
          intro same
          apply noHash
          simp [same]
        rw [if_pos ⟨filled, plain⟩]
        omega
  | @literal wide narrow segment plain later induction =>
      have below : literals wide < literals narrow := by
        apply induction
        · exact fun member => noHash (List.mem_cons_of_mem _ member)
        · exact fun member => wideNoHash (List.mem_cons_of_mem _ member)
        · intro same
          apply different
          rw [same]
      rw [literals_cons, literals_cons]
      omega

def topicOf (parts : List Segment) : String := String.ofList (List.intercalate ['/'] parts)

theorem segments_topic_of {parts : List Segment} (flat : ∀ part ∈ parts, '/' ∉ part)
    (nonempty : parts ≠ []) : segments (topicOf parts) = parts := by
  unfold segments topicOf
  rw [String.toList_ofList]
  exact List.splitOn_intercalate '/' flat nonempty

theorem segment_flat {letters : List Char} {segment : Segment}
    (member : segment ∈ letters.splitOn '/') : '/' ∉ segment := by
  induction letters generalizing segment with
  | nil =>
      rw [List.splitOn_nil, List.mem_singleton] at member
      simp [member]
  | cons letter letters induction =>
      rw [List.splitOn_cons_eq_if_modifyHead] at member
      split at member
      · rcases List.mem_cons.mp member with empty | later
        · simp [empty]
        · exact induction later
      · rename_i other
        obtain ⟨first, rest, split⟩ :=
          List.exists_cons_of_ne_nil (List.splitOn_ne_nil '/' letters)
        rw [split] at member induction
        rcases List.mem_cons.mp member with extended | later
        · have flat := induction List.mem_cons_self
          rw [extended, List.mem_cons]
          intro inside
          rcases inside with here | there
          · simp [here.symm] at other
          · exact flat there
        · exact induction (List.mem_cons_of_mem _ later)

theorem mem_joined {parts : List Segment} {letter : Char}
    (inside : letter ∈ List.intercalate ['/'] parts) :
    letter = '/' ∨ ∃ part ∈ parts, letter ∈ part := by
  induction parts with
  | nil => simp at inside
  | cons part parts induction =>
      cases parts with
      | nil =>
          right
          exact ⟨part, List.mem_cons_self, by simpa using inside⟩
      | cons next rest =>
          rw [List.intercalate_cons_cons, List.mem_append, List.mem_append] at inside
          rcases inside with (here | separator) | later
          · exact .inr ⟨part, List.mem_cons_self, here⟩
          · exact .inl (List.mem_singleton.mp separator)
          · rcases induction later with separator | ⟨other, member, within⟩
            · exact .inl separator
            · exact .inr ⟨other, List.mem_cons_of_mem _ member, within⟩

theorem topic_of_plain {parts : List Segment}
    (plain : ∀ part ∈ parts, '+' ∉ part ∧ '#' ∉ part) : hasWildcard (topicOf parts) = false := by
  have letters : ∀ letter, letter ≠ '/' → (∀ part ∈ parts, letter ∉ part) →
      letter ∉ (topicOf parts).toList := by
    intro letter other absent
    rw [topicOf, String.toList_ofList]
    intro inside
    rcases mem_joined inside with separator | ⟨part, member, within⟩
    · exact other separator
    · exact absent part member within
  have noPlus := letters '+' (by decide) fun part member => (plain part member).1
  have noHash := letters '#' (by decide) fun part member => (plain part member).2
  simp [hasWildcard, noPlus, noHash]

theorem exists_fresh (parts : List Segment) :
    ∃ fresh : Segment, fresh ∉ parts ∧ ∀ letter ∈ fresh, letter = 'x' := by
  apply Exists.intro (List.replicate ((parts.map List.length).sum + 1) 'x')
  constructor
  · intro member
    have bound := List.le_sum_of_mem (List.mem_map_of_mem (f := List.length) member)
    rw [List.length_replicate] at bound
    omega
  · intro letter inside
    exact (List.mem_replicate.mp inside).2

theorem covers_widens {narrow wide : String} (validNarrow : ValidFilter narrow)
    (validWide : ValidFilter wide) (noHash : hash ∉ segments narrow)
    (covers : Covers wide narrow) : Widens (segments wide) (segments narrow) := by
  obtain ⟨fresh, unused, letters⟩ := exists_fresh (segments wide)
  have absent : ∀ letter, letter ≠ 'x' → letter ∉ fresh := by
    intro letter other inside
    exact other (letters letter inside)
  have flat : ∀ part ∈ fill fresh (segments narrow), '/' ∉ part := by
    intro part member
    obtain ⟨segment, stored, filled⟩ := List.mem_map.mp member
    rw [← filled]
    split
    · exact absent '/' (by decide)
    · exact segment_flat stored
  have plain : ∀ part ∈ fill fresh (segments narrow), '+' ∉ part ∧ '#' ∉ part := by
    intro part member
    obtain ⟨segment, stored, filled⟩ := List.mem_map.mp member
    rw [← filled]
    split
    · exact ⟨absent '+' (by decide), absent '#' (by decide)⟩
    · rename_i literal
      constructor
      · intro inside
        exact literal (validNarrow.1 segment stored inside)
      · intro inside
        apply noHash
        rw [← validNarrow.2.1 segment stored inside]
        exact stored
  have nonempty : fill fresh (segments narrow) ≠ [] := by
    intro empty
    exact List.splitOn_ne_nil '/' narrow.toList (List.map_eq_nil_iff.mp empty)
  have read := segments_topic_of flat nonempty
  have matched := covers (topicOf (fill fresh (segments narrow))) (topic_of_plain plain) (by
    rw [topic_matches_eq_segments_match, read]
    exact fill_matches fresh noHash)
  rw [topic_matches_eq_segments_match, read] at matched
  exact widens_of_fill_match unused validWide.2.2 matched

/-- A filter without `#` outranks every other filter that covers it. -/
theorem covers_specificity_lt {narrow wide : String} (validNarrow : ValidFilter narrow)
    (validWide : ValidFilter wide) (different : narrow ≠ wide) (noHash : '#' ∉ narrow.toList)
    (covers : Covers wide narrow) : patternSpecificity wide < patternSpecificity narrow := by
  have noSegment : hash ∉ segments narrow := by
    intro member
    exact noHash (mem_of_segment member (List.mem_singleton.mpr rfl))
  have widens := covers_widens validNarrow validWide noSegment covers
  have narrowRank : patternSpecificity narrow = toLex (literals (segments narrow), 1) := by
    simp [patternSpecificity, literals, noSegment]
  rw [narrowRank]
  by_cases wideHash : hash ∈ segments wide
  · have wideRank : patternSpecificity wide = toLex (literals (segments wide), 0) := by
      simp [patternSpecificity, literals, wideHash]
    rw [wideRank, Prod.Lex.toLex_lt_toLex]
    have weak := widens_literals_le widens
    dsimp only
    omega
  · have wideRank : patternSpecificity wide = toLex (literals (segments wide), 1) := by
      simp [patternSpecificity, literals, wideHash]
    rw [wideRank, Prod.Lex.toLex_lt_toLex]
    left
    apply widens_literals_lt widens noSegment wideHash
    intro same
    exact different (segments_injective same).symm

/-- A filter without `#` outranks every other filter that covers it; hence a
topic that a started subscriber of such a filter waits for is never given to a
strictly more general one. -/
theorem covering_filter_never_preferred {Obj Resp : Type} :
    (∀ narrow wide : String, ValidFilter narrow → ValidFilter wide → narrow ≠ wide →
      '#' ∉ narrow.toList → Covers wide narrow →
        patternSpecificity wide < patternSpecificity narrow) ∧
    ∀ (calls : List (RegistryCall Obj)) (topic narrow wide : String)
      (listed : List SubscriberId),
      LiveMatch (StartLog.empty.performAll calls) topic narrow →
      bestEntry (afterCalls calls : Router Obj Resp).registry topic = some (wide, listed) →
      ValidFilter narrow → ValidFilter wide → '#' ∉ narrow.toList → Covers wide narrow →
        wide = narrow := by
  constructor
  · intro narrow wide validNarrow validWide different noHash covers
    exact covers_specificity_lt validNarrow validWide different noHash covers
  · intro calls topic narrow wide listed live best validNarrow validWide noHash covers
    have tracks : Tracks (StartLog.empty.performAll calls)
        (afterCalls calls : Router Obj Resp).registry := by
      rw [after_calls_registry]
      exact perform_all_tracks calls
    by_contra different
    have notAbove := winner_maximal tracks best narrow live
    have above := covers_specificity_lt validNarrow validWide (Ne.symm different) noHash covers
    exact absurd above (not_lt.mpr notAbove)

def overlappingCalls : List (RegistryCall Unit) :=
  [.createSubscriber "external/+" 0 none, .createSubscriber "external/foo" 1 none]

theorem external_plus_covers_foo : Covers "external/+" "external/foo" := by
  intro topic _ matched
  have same := (exact_filter_matches_iff (by decide)).mp matched
  rw [← same]
  decide

/-- The wildcard subscriber came first, and the exact one gets the message. -/
theorem exact_filter_preferred_to_plus :
    patternSpecificity "external/+" < patternSpecificity "external/foo" ∧
      ∀ listed, bestEntry (afterCalls overlappingCalls : Router Unit Unit).registry
        "external/foo" ≠ some ("external/+", listed) := by
  constructor
  · exact (@covering_filter_never_preferred Unit Unit).1 "external/foo" "external/+"
      (by decide) (by decide) (by decide) (by decide) external_plus_covers_foo
  · intro listed best
    have same := (@covering_filter_never_preferred Unit Unit).2 overlappingCalls
      "external/foo" "external/foo" "external/+" listed ⟨by decide, by decide⟩ best
      (by decide) (by decide) (by decide) external_plus_covers_foo
    exact absurd same (by decide)

end RemoteIface.Commlib.FilterCover
