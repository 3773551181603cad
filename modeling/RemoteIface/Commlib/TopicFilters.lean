import RemoteIface.Commlib.Topic

/-!
What a topic filter stands for, by the indices of its segments: `+` is any one
segment, and the first `#` ends the comparison, at the parent level already.
The segment loop decides just that, and so does the wildcard-free fast path.
-/

namespace RemoteIface.Commlib.TopicFilters

set_option autoImplicit false

open RemoteIface.Commlib.Topic

def Fits (part segment : Segment) : Prop := part = plus ∨ part = segment

/-- The first `count` segments of the filter fit those of the topic. -/
def FitsUpTo (count : Nat) (parts topicParts : List Segment) : Prop :=
  ∀ index < count, ∀ part segment, parts[index]? = some part →
    topicParts[index]? = some segment → Fits part segment

def FirstHash (parts : List Segment) (index : Nat) : Prop :=
  parts[index]? = some hash ∧ ∀ earlier < index, parts[earlier]? ≠ some hash

def FilterMatches (parts topicParts : List Segment) : Prop :=
  (hash ∉ parts ∧ parts.length = topicParts.length ∧ FitsUpTo parts.length parts topicParts) ∨
    ∃ index, FirstHash parts index ∧ index ≤ topicParts.length ∧ FitsUpTo index parts topicParts

theorem fits_up_to_succ {count : Nat} {part segment : Segment} {parts rest : List Segment} :
    FitsUpTo (count + 1) (part :: parts) (segment :: rest) ↔
      Fits part segment ∧ FitsUpTo count parts rest := by
  constructor
  · intro fits
    constructor
    · exact fits 0 (by omega) part segment rfl rfl
    · intro index below
      exact fits (index + 1) (by omega)
  · intro both index below
    cases index with
    | zero =>
        intro first second firstHere secondHere
        cases firstHere
        cases secondHere
        exact both.1
    | succ index => exact both.2 index (by omega)

theorem first_hash_succ {part : Segment} {parts : List Segment} (literal : part ≠ hash)
    (index : Nat) : FirstHash (part :: parts) (index + 1) ↔ FirstHash parts index := by
  constructor
  · intro first
    constructor
    · exact first.1
    · intro earlier below
      exact first.2 (earlier + 1) (by omega)
  · intro first
    constructor
    · exact first.1
    · intro earlier below
      cases earlier with
      | zero => simpa using literal
      | succ earlier => exact first.2 earlier (by omega)

theorem filter_matches_nil (topicParts : List Segment) :
    FilterMatches [] topicParts ↔ topicParts = [] := by
  constructor
  · intro fits
    rcases fits with whole | ⟨index, first, _⟩
    · exact List.length_eq_zero_iff.mp whole.2.1.symm
    · simp [FirstHash] at first
  · intro empty
    left
    rw [empty]
    exact ⟨List.not_mem_nil, rfl, fun index below => absurd below (Nat.not_lt_zero index)⟩

theorem filter_matches_hash (parts topicParts : List Segment) :
    FilterMatches (hash :: parts) topicParts := by
  right
  apply Exists.intro 0
  refine ⟨⟨rfl, ?_⟩, Nat.zero_le _, ?_⟩
  · intro earlier below
    omega
  · intro index below
    omega

theorem filter_matches_missing {part : Segment} (literal : part ≠ hash) (parts : List Segment) :
    ¬ FilterMatches (part :: parts) [] := by
  intro fits
  rcases fits with ⟨_, length, _⟩ | ⟨index, first, bound, _⟩
  · simp at length
  · have zero : index = 0 := by simpa using bound
    rw [zero] at first
    apply literal
    simpa using first.1

theorem filter_matches_cons {part segment : Segment} (literal : part ≠ hash)
    (parts rest : List Segment) :
    FilterMatches (part :: parts) (segment :: rest) ↔
      Fits part segment ∧ FilterMatches parts rest := by
  have noHash : hash ∉ part :: parts ↔ hash ∉ parts := by
    simp [literal.symm]
  constructor
  · intro fits
    rcases fits with ⟨absent, length, fits⟩ | ⟨index, first, bound, fits⟩
    · have both := fits_up_to_succ.mp fits
      refine ⟨both.1, .inl ⟨noHash.mp absent, ?_, both.2⟩⟩
      simpa using length
    · cases index with
      | zero =>
          have here := first.1
          simp [literal] at here
      | succ index =>
          have both := fits_up_to_succ.mp fits
          refine ⟨both.1, .inr ⟨index, (first_hash_succ literal index).mp first, ?_, both.2⟩⟩
          simpa using bound
  · intro both
    rcases both.2 with ⟨absent, length, fits⟩ | ⟨index, first, bound, fits⟩
    · left
      refine ⟨noHash.mpr absent, by simp [length], ?_⟩
      exact fits_up_to_succ.mpr ⟨both.1, fits⟩
    · right
      refine ⟨index + 1, (first_hash_succ literal index).mpr first, by simpa using bound, ?_⟩
      exact fits_up_to_succ.mpr ⟨both.1, fits⟩

theorem segments_match_iff (parts topicParts : List Segment) :
    segmentsMatch parts topicParts = true ↔ FilterMatches parts topicParts := by
  induction parts generalizing topicParts with
  | nil =>
      rw [filter_matches_nil]
      simp [segmentsMatch]
  | cons part parts induction =>
      unfold segmentsMatch
      by_cases wild : part = hash
      · rw [if_pos wild, wild]
        simp only [true_iff]
        apply filter_matches_hash
      · rw [if_neg wild]
        cases topicParts with
        | nil =>
            have missing := filter_matches_missing wild parts
            simp [missing]
        | cons segment rest =>
            rw [filter_matches_cons wild]
            dsimp only
            split
            · rename_i apart
              simp [Fits, apart.1, apart.2]
            · rename_i together
              rw [induction]
              have fits : Fits part segment := by
                unfold Fits
                tauto
              simp [fits]

theorem segments_injective {pattern topic : String} (same : segments pattern = segments topic) :
    pattern = topic := by
  have joined := congrArg (List.intercalate ['/']) same
  unfold segments at joined
  rw [List.intercalate_splitOn, List.intercalate_splitOn] at joined
  exact String.toList_inj.mp joined

theorem mem_of_segment {text : String} {segment : Segment} {letter : Char}
    (member : segment ∈ segments text) (inside : letter ∈ segment) : letter ∈ text.toList := by
  rcases List.mem_iff_getElem?.mp member with ⟨index, stored⟩
  have spread : ((segments text).intersperse ['/'])[2 * index]? = some segment :=
    List.getElem?_intersperse_two_mul.trans stored
  have joined : ((segments text).intersperse ['/']).flatten = text.toList :=
    List.intercalate_splitOn '/'
  rw [← joined, List.mem_flatten]
  exact ⟨segment, List.mem_of_getElem? spread, inside⟩

theorem literal_match_iff {parts : List Segment} (literal : plus ∉ parts ∧ hash ∉ parts)
    (topicParts : List Segment) :
    segmentsMatch parts topicParts = true ↔ parts = topicParts := by
  induction parts generalizing topicParts with
  | nil => cases topicParts <;> simp [segmentsMatch]
  | cons part parts induction =>
      have notPlus : part ≠ plus := by
        intro same
        apply literal.1
        simp [same]
      have notHash : part ≠ hash := by
        intro same
        apply literal.2
        simp [same]
      have later : plus ∉ parts ∧ hash ∉ parts := by
        constructor
        · intro member
          exact literal.1 (List.mem_cons_of_mem _ member)
        · intro member
          exact literal.2 (List.mem_cons_of_mem _ member)
      cases topicParts with
      | nil => simp [segmentsMatch, notHash]
      | cons segment rest =>
          unfold segmentsMatch
          rw [if_neg notHash]
          by_cases same : part = segment
          · simp [same, induction later]
          · simp [same, notPlus]

theorem literal_segments {pattern : String} (literal : hasWildcard pattern = false) :
    plus ∉ segments pattern ∧ hash ∉ segments pattern := by
  have letters : '+' ∉ pattern.toList ∧ '#' ∉ pattern.toList := by
    simpa [hasWildcard] using literal
  constructor
  · intro member
    apply letters.1
    exact mem_of_segment member (List.mem_singleton.mpr rfl)
  · intro member
    apply letters.2
    exact mem_of_segment member (List.mem_singleton.mpr rfl)

theorem topic_matches_eq_segments_match (pattern topic : String) :
    topicMatches pattern topic = segmentsMatch (segments pattern) (segments topic) := by
  unfold topicMatches
  split
  · rename_i literal
    have loop := literal_match_iff (literal_segments literal) (segments topic)
    rw [Bool.eq_iff_iff, loop, decide_eq_true_iff]
    constructor
    · intro same
      rw [same]
    · intro same
      exact segments_injective same
  · rfl

/-- `_topic_matches` is filter matching, and its shortcut is the segment loop. -/
theorem topic_matches_iff_filter_matches (pattern topic : String) :
    (topicMatches pattern topic = true ↔ FilterMatches (segments pattern) (segments topic)) ∧
      topicMatches pattern topic = segmentsMatch (segments pattern) (segments topic) := by
  have loop := topic_matches_eq_segments_match pattern topic
  constructor
  · rw [loop]
    apply segments_match_iff
  · exact loop

example : topicMatches "a/#" "a" = true ∧ topicMatches "a/+" "a" = false := by decide

end RemoteIface.Commlib.TopicFilters
