import Mathlib.Data.List.Nodup
import Mathlib.Data.List.Count

/-!
A tree of loggers as the standard library has it: a record goes to the handlers
of the logger it is logged on and, as long as `propagate` is set, to those of
the logger above. Every logger keeps a list of handlers without repetitions, so
how often one handler sees a record is a question about the path only.
-/

namespace RemoteIface.Library.Loggers

set_option autoImplicit false

/-- The loggers at the time of a record. `depth` says that no logger is above
itself. -/
structure LoggerTree (Logger : Type*) where
  parent : Logger → Option Logger
  propagate : Logger → Bool
  depth : Logger → Nat
  above_depth : ∀ logger above, parent logger = some above → depth above < depth logger

abbrev Handlers (Logger Handler : Type*) := Logger → List Handler

variable {Logger Handler : Type*}

namespace LoggerTree

/-- The loggers whose handlers `callHandlers` goes through. -/
def path (tree : LoggerTree Logger) (logger : Logger) : List Logger :=
  logger :: if tree.propagate logger then
    match _ : tree.parent logger with
    | none => []
    | some above => tree.path above
  else []
termination_by tree.depth logger
decreasing_by exact tree.above_depth _ _ ‹_›

theorem path_parent {tree : LoggerTree Logger} {logger above : Logger}
    (open_up : tree.propagate logger = true) (next : tree.parent logger = some above) :
    tree.path logger = logger :: tree.path above := by
  rw [path, if_pos open_up]
  split
  · rename_i top
    rw [next] at top
    cases top
  · rename_i other same
    rw [next] at same
    cases same
    rfl

theorem path_last {tree : LoggerTree Logger} {logger : Logger}
    (ends : tree.propagate logger = false ∨ tree.parent logger = none) :
    tree.path logger = [logger] := by
  rw [path]
  rcases ends with closed | top
  · simp [closed]
  · split
    · split
      · rfl
      · rename_i above same
        rw [top] at same
        cases same
    · rfl

theorem path_cases (tree : LoggerTree Logger) (logger : Logger) :
    tree.path logger = [logger] ∨
      ∃ above, tree.parent logger = some above ∧ tree.path logger = logger :: tree.path above := by
  cases open_up : tree.propagate logger with
  | false => exact .inl (path_last (.inl open_up))
  | true =>
      cases next : tree.parent logger with
      | none => exact .inl (path_last (.inr next))
      | some above => exact .inr ⟨above, rfl, path_parent open_up next⟩

theorem climb (tree : LoggerTree Logger) {property : Logger → Prop}
    (step : ∀ logger, (∀ above, tree.parent logger = some above → property above) →
      property logger) (logger : Logger) : property logger :=
  step logger fun above _ => tree.climb step above
termination_by tree.depth logger
decreasing_by exact tree.above_depth _ _ ‹_›

theorem path_depth_le (tree : LoggerTree Logger) (logger : Logger) :
    ∀ visited ∈ tree.path logger, tree.depth visited ≤ tree.depth logger := by
  induction logger using tree.climb with
  | step logger induction =>
      intro visited member
      rcases tree.path_cases logger with ends | ⟨above, next, goes⟩
      · rw [ends, List.mem_singleton] at member
        exact Nat.le_of_eq (congrArg tree.depth member)
      · have lower := tree.above_depth logger above next
        rw [goes] at member
        rcases List.mem_cons.mp member with here | later
        · exact Nat.le_of_eq (congrArg tree.depth here)
        · have deeper := induction above next visited later
          omega

theorem path_nodup (tree : LoggerTree Logger) (logger : Logger) : (tree.path logger).Nodup := by
  induction logger using tree.climb with
  | step logger induction =>
      rcases tree.path_cases logger with ends | ⟨above, next, goes⟩
      · rw [ends]
        exact List.nodup_singleton logger
      · have lower := tree.above_depth logger above next
        rw [goes, List.nodup_cons]
        constructor
        · intro back
          have bounded := tree.path_depth_le above logger back
          omega
        · exact induction above next

end LoggerTree

variable [DecidableEq Handler]

/-- `addHandler` -/
def addTo (handler : Handler) (present : List Handler) : List Handler :=
  if handler ∈ present then present else present ++ [handler]

/-- `removeHandler` -/
def removeFrom (handler : Handler) (present : List Handler) : List Handler :=
  present.erase handler

variable [DecidableEq Logger]

def addHandler (handler : Handler) (logger : Logger) (handlers : Handlers Logger Handler) :
    Handlers Logger Handler :=
  fun other => if other = logger then addTo handler (handlers other) else handlers other

def removeHandler (handler : Handler) (logger : Logger) (handlers : Handlers Logger Handler) :
    Handlers Logger Handler :=
  fun other => if other = logger then removeFrom handler (handlers other) else handlers other

def others (handler : Handler) (present : List Handler) : List Handler :=
  present.filter (· ≠ handler)

omit [DecidableEq Logger] in
theorem others_of_absent {handler : Handler} {present : List Handler} (absent : handler ∉ present) :
    others handler present = present := by
  apply List.filter_eq_self.mpr
  intro other member
  apply decide_eq_true
  intro same
  exact absent (same ▸ member)

theorem others_add (handler : Handler) (logger other : Logger)
    (handlers : Handlers Logger Handler) :
    others handler (addHandler handler logger handlers other) = others handler (handlers other) := by
  unfold addHandler addTo
  split
  · split
    · rfl
    · simp [others]
  · rfl

theorem others_remove (handler : Handler) (logger other : Logger)
    (handlers : Handlers Logger Handler) :
    others handler (removeHandler handler logger handlers other) =
      others handler (handlers other) := by
  unfold removeHandler removeFrom
  split
  · unfold others
    induction handlers other with
    | nil => rfl
    | cons first rest induction =>
        rw [List.erase_cons]
        by_cases same : first = handler
        · simp [same]
        · rw [beq_eq_false_iff_ne.mpr same, if_neg Bool.false_ne_true, List.filter_cons, List.filter_cons,
            induction]
  · rfl

theorem count_add_le {handler : Handler} {handlers : Handlers Logger Handler}
    (single : ∀ other, (handlers other).count handler ≤ 1) (logger other : Logger) :
    (addHandler handler logger handlers other).count handler ≤ 1 := by
  unfold addHandler addTo
  split
  · split
    · exact single other
    · rename_i absent
      rw [List.count_append, List.count_eq_zero.mpr absent]
      simp
  · exact single other

theorem count_remove_le {handler : Handler} {handlers : Handlers Logger Handler}
    (single : ∀ other, (handlers other).count handler ≤ 1) (logger other : Logger) :
    (removeHandler handler logger handlers other).count handler ≤ 1 := by
  unfold removeHandler removeFrom
  split
  · exact Nat.le_trans (List.erase_sublist.count_le handler) (single other)
  · exact single other

theorem mem_add_iff (handler : Handler) (logger other : Logger)
    (handlers : Handlers Logger Handler) :
    handler ∈ addHandler handler logger handlers other ↔
      other = logger ∨ handler ∈ handlers other := by
  unfold addHandler addTo
  by_cases same : other = logger
  · rw [if_pos same]
    by_cases present : handler ∈ handlers other
    · rw [if_pos present]
      exact iff_of_true present (.inl same)
    · rw [if_neg present]
      exact iff_of_true (List.mem_append_right _ (List.mem_singleton_self handler)) (.inl same)
  · rw [if_neg same]
    exact (or_iff_right same).symm

theorem mem_remove_iff {handler : Handler} {handlers : Handlers Logger Handler}
    (single : ∀ other, (handlers other).count handler ≤ 1) (logger other : Logger) :
    handler ∈ removeHandler handler logger handlers other ↔
      other ≠ logger ∧ handler ∈ handlers other := by
  unfold removeHandler removeFrom
  split
  · rename_i same
    have gone : handler ∉ (handlers other).erase handler := by
      rw [← List.count_eq_zero, List.count_erase_self]
      have bounded := single other
      omega
    exact iff_of_false gone (fun both => both.1 same)
  · rename_i different
    exact (and_iff_right different).symm

/-- The calls of `handle` for a record that is logged on `logger`. -/
def callHandlers (tree : LoggerTree Logger) (handlers : Handlers Logger Handler)
    (logger : Logger) : List Handler :=
  (tree.path logger).flatMap handlers

omit [DecidableEq Handler] [DecidableEq Logger] in
theorem count_filter_le_one_iff {items : List Logger} (distinct : items.Nodup)
    (passes : Logger → Bool) :
    items.countP passes ≤ 1 ↔
      ∀ first ∈ items, ∀ second ∈ items, passes first = true → passes second = true →
        first = second := by
  induction items with
  | nil => simp
  | cons item rest induction =>
      rw [List.nodup_cons] at distinct
      have tail := induction distinct.2
      rw [List.countP_cons]
      by_cases passed : passes item = true
      · rw [if_pos passed]
        have onlyHere : rest.countP passes + 1 ≤ 1 ↔ ∀ other ∈ rest, ¬ passes other = true := by
          rw [← List.countP_eq_zero]
          omega
        rw [onlyHere]
        constructor
        · intro none first firstMember second secondMember passFirst passSecond
          rcases List.mem_cons.mp firstMember with rfl | firstLater
          · rcases List.mem_cons.mp secondMember with rfl | secondLater
            · rfl
            · exact absurd passSecond (none second secondLater)
          · exact absurd passFirst (none first firstLater)
        · intro same other member passOther
          have equal := same item List.mem_cons_self other (List.mem_cons_of_mem _ member) passed
            passOther
          exact distinct.1 (equal ▸ member)
      · rw [if_neg passed, Nat.add_zero, tail]
        constructor
        · intro same first firstMember second secondMember passFirst passSecond
          rcases List.mem_cons.mp firstMember with rfl | firstLater
          · exact absurd passFirst passed
          · rcases List.mem_cons.mp secondMember with rfl | secondLater
            · exact absurd passSecond passed
            · exact same first firstLater second secondLater passFirst passSecond
        · intro same first firstMember second secondMember
          exact same first (List.mem_cons_of_mem _ firstMember) second
            (List.mem_cons_of_mem _ secondMember)

omit [DecidableEq Logger] in
theorem count_call_handlers {handler : Handler} {handlers : Handlers Logger Handler}
    (single : ∀ other, (handlers other).count handler ≤ 1) (tree : LoggerTree Logger)
    (logger : Logger) :
    (callHandlers tree handlers logger).count handler =
      (tree.path logger).countP fun visited => handler ∈ handlers visited := by
  unfold callHandlers
  induction tree.path logger with
  | nil => rfl
  | cons visited rest induction =>
      rw [List.flatMap_cons, List.count_append, induction, List.countP_cons]
      by_cases present : handler ∈ handlers visited
      · have once : (handlers visited).count handler = 1 := by
          have atMost := single visited
          have atLeast := List.count_pos_iff.mpr present
          omega
        simp [present, once, Nat.add_comm]
      · simp [present, List.count_eq_zero.mpr present]

omit [DecidableEq Logger] in
/-- A handler sees a record at most once exactly when it is on at most one
logger of the path. -/
theorem count_le_one_iff {handler : Handler} {handlers : Handlers Logger Handler}
    (single : ∀ other, (handlers other).count handler ≤ 1) (tree : LoggerTree Logger)
    (logger : Logger) :
    (callHandlers tree handlers logger).count handler ≤ 1 ↔
      ∀ first ∈ tree.path logger, ∀ second ∈ tree.path logger,
        handler ∈ handlers first → handler ∈ handlers second → first = second := by
  rw [count_call_handlers single, count_filter_le_one_iff (tree.path_nodup logger)]
  simp only [decide_eq_true_eq]

end RemoteIface.Library.Loggers
