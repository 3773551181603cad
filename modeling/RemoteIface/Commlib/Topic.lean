import Mathlib.Data.Prod.Lex
import Mathlib.Order.Lattice
import RemoteIface.Library.FirstMax

/-!
Topic filters as `NodeContext` reads them: the segment loop of
`_topic_matches` with its wildcard-free fast path, and the pair that
`_pattern_specificity` ranks filters by.
-/

namespace RemoteIface.Commlib.Topic

set_option autoImplicit false

abbrev Segment := List Char

def plus : Segment := ['+']

def hash : Segment := ['#']

/-- `topic.split("/")` -/
def segments (topic : String) : List Segment := topic.toList.splitOn '/'

def hasWildcard (pattern : String) : Bool :=
  pattern.toList.contains '+' || pattern.toList.contains '#'

/-- The loop of `_topic_matches` over the parts it has not compared yet. The
final length test of the source compares the two remainders. -/
def segmentsMatch : List Segment → List Segment → Bool
  | [], topicParts => topicParts.isEmpty
  | part :: parts, topicParts =>
      if part = hash then true
      else match topicParts with
        | [] => false
        | segment :: rest =>
            if part ≠ plus ∧ part ≠ segment then false else segmentsMatch parts rest

def topicMatches (pattern topic : String) : Bool :=
  if hasWildcard pattern = false then pattern = topic
  else segmentsMatch (segments pattern) (segments topic)

/-- Literal segment count first, then whether the filter has no `#`. Python
compares the two tuples lexicographically. -/
def patternSpecificity (pattern : String) : Nat ×ₗ Nat :=
  let parts := segments pattern
  let literalCount := parts.countP fun part => part ≠ plus ∧ part ≠ hash
  toLex (literalCount, if parts.contains hash then 0 else 1)

theorem exact_filter_matches_iff {pattern topic : String} (literal : hasWildcard pattern = false) :
    topicMatches pattern topic = true ↔ pattern = topic := by
  simp [topicMatches, literal]

theorem exact_filter_matches_self {pattern : String} (literal : hasWildcard pattern = false) :
    topicMatches pattern pattern = true :=
  (exact_filter_matches_iff literal).mpr rfl

end RemoteIface.Commlib.Topic
