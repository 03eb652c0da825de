import Mathlib.Data.Set.Lattice
import Mathlib.Tactic.Order

/-!
# The soonest of several delays

A running minimum of delays in which a delay that is not positive stands for
"none", as timers that are armed with the first of several deadlines keep it.
-/

namespace Soonest

variable {α : Type} [LinearOrder α] [Zero α]

/-- The running minimum with one more candidate. -/
def sooner (current candidate : α) : α :=
  if candidate ≤ 0 then current
  else if current ≤ 0 ∨ candidate < current then candidate
  else current

/-- One round of a loop that keeps the soonest delay. -/
def collect {β : Type} (delayOf : β → Option α) (current : α) (x : β) : α :=
  match delayOf x with
  | none => current
  | some candidate => sooner current candidate

/-- The delay is the least positive one of a set, and not positive if there is
none. -/
structure IsSoonest (delay : α) (delays : Set α) : Prop where
  mem_of_pos : 0 < delay → delay ∈ delays
  le : ∀ other ∈ delays, 0 < other → 0 < delay ∧ delay ≤ other

namespace IsSoonest

variable {delay other : α} {delays others : Set α}

theorem empty (none : delay ≤ 0) : IsSoonest delay ∅ where
  mem_of_pos positive := absurd none (not_le.mpr positive)
  le _ member := absurd member (Set.notMem_empty _)

theorem singleton (delay : α) : IsSoonest delay {delay} where
  mem_of_pos _ := rfl
  le other member positive := by
    cases member
    exact ⟨positive, le_refl _⟩

theorem sooner
    (first : IsSoonest delay delays) (second : IsSoonest other others) :
    IsSoonest (sooner delay other) (delays ∪ others) := by
  unfold Soonest.sooner
  split_ifs with none earlier
  · refine ⟨fun positive => .inl (first.mem_of_pos positive), ?_⟩
    rintro candidate (member | member) positive
    · exact first.le candidate member positive
    · exact absurd none (not_le.mpr (second.le candidate member positive).1)
  · refine ⟨fun positive => .inr (second.mem_of_pos positive), ?_⟩
    have isPositive : 0 < other := not_le.mp none
    rintro candidate (member | member) positive
    · obtain ⟨delayPositive, least⟩ := first.le candidate member positive
      rcases earlier with absent | less
      · exact absurd absent (not_le.mpr delayPositive)
      · exact ⟨isPositive, less.le.trans least⟩
    · exact second.le candidate member positive
  · rw [not_or, not_le, not_lt] at earlier
    refine ⟨fun positive => .inl (first.mem_of_pos positive), ?_⟩
    rintro candidate (member | member) positive
    · exact first.le candidate member positive
    · exact ⟨earlier.1,
        earlier.2.trans (second.le candidate member positive).2⟩

theorem collect
    {β : Type} (delayOf : β → Option α)
    (first : IsSoonest delay delays) (x : β) :
    IsSoonest (collect delayOf delay x)
      (delays ∪ {later | delayOf x = some later}) := by
  unfold Soonest.collect
  cases offered : delayOf x with
  | none => simpa using first
  | some candidate =>
      have same : {later | some candidate = some later} = {candidate} := by
        ext later
        simp [eq_comm]
      rw [same]
      exact first.sooner (singleton candidate)

theorem foldl_collect
    {β : Type} (delayOf : β → Option α) (xs : List β)
    (first : IsSoonest delay delays) :
    IsSoonest (xs.foldl (Soonest.collect delayOf) delay)
      (delays ∪ {later | ∃ x ∈ xs, delayOf x = some later}) := by
  induction xs generalizing delay delays with
  | nil => simpa using first
  | cons x rest ih =>
      have next := ih (first.collect delayOf x)
      have same : {later | ∃ y ∈ x :: rest, delayOf y = some later} =
          {later | delayOf x = some later} ∪
            {later | ∃ y ∈ rest, delayOf y = some later} := by
        ext later
        simp
      rw [same, ← Set.union_assoc]
      exact next

/-- A candidate that is offered under a condition. -/
theorem sooner_if
    {offered : Prop} [Decidable offered]
    (first : IsSoonest delay delays) (candidate : α) :
    IsSoonest (if offered then Soonest.sooner delay candidate else delay)
      (delays ∪ {later | offered ∧ later = candidate}) := by
  split_ifs with isOffered
  · have same : {later | offered ∧ later = candidate} = {candidate} := by
      ext later
      simp [isOffered]
    rw [same]
    exact first.sooner (singleton candidate)
  · have same : {later | offered ∧ later = candidate} = ∅ := by
      ext later
      simp [isOffered]
    rw [same, Set.union_empty]
    exact first

/-- Delays that are not positive do not count. -/
theorem of_pos_iff
    (soonest : IsSoonest delay delays)
    (same : ∀ later, 0 < later → (later ∈ others ↔ later ∈ delays)) :
    IsSoonest delay others where
  mem_of_pos positive :=
    (same delay positive).mpr (soonest.mem_of_pos positive)
  le other member positive :=
    soonest.le other ((same other positive).mp member) positive

end IsSoonest

/-- The same minimum for a loop that marks the absence of a delay by zero. -/
theorem ite_eq_sooner
    {current : α} (nonneg : 0 ≤ current) (candidate : α) :
    (if 0 < candidate ∧ (current = 0 ∨ candidate < current) then candidate
      else current) = sooner current candidate := by
  have none : current = 0 ↔ current ≤ 0 :=
    ⟨fun zero => zero.le, fun nonpos => le_antisymm nonpos nonneg⟩
  unfold sooner
  by_cases positive : 0 < candidate
  · simp only [positive, none, true_and, if_neg (not_le.mpr positive)]
  · simp only [positive, false_and, if_false, if_pos (not_lt.mp positive)]

theorem sooner_nonneg
    {current candidate : α} (nonneg : 0 ≤ current) :
    0 ≤ sooner current candidate := by
  unfold sooner
  split_ifs with none
  · exact nonneg
  · exact (not_le.mp none).le
  · exact nonneg

theorem collect_nonneg
    {β : Type} (delayOf : β → Option α) {current : α} (nonneg : 0 ≤ current)
    (x : β) : 0 ≤ collect delayOf current x := by
  unfold collect
  cases delayOf x with
  | none => exact nonneg
  | some candidate => exact sooner_nonneg nonneg

end Soonest
