import BootcOperator.Effects.Requeues
import BootcOperator.Effects.Tables
import Mathlib.Data.Finset.Max
import Mathlib.Tactic.Linarith

/-!
# Reboot timeouts

`applyRebootTimeouts` takes out the nodes that have been rebooting for longer
than the timeout, and asks to be run again when the first of the others may
have to follow.  A node that has been rebooting for the timeout exactly is in
neither group: it is not taken out, and no time is left to wait for it.  This
is the instant for which the next run is requested.
-/

namespace BootcOperator

open Soonest

/-- When the Idle condition of the node last changed. -/
def rebootingSince (owned : String → Option BootcNode) (name : String) :
    Time :=
  match (owned name).bind fun bn =>
      findStatusCondition bn.status.conditions nodeIdle with
  | some idle => idle.lastTransitionTime
  | none => 0

/-- The node has been taken out of the rebooting nodes. -/
structure TakenOut (rs : RolloutState) (name : String) : Prop where
  degraded : name ∈ rs.degraded
  timedOut : name ∈ rs.rebootTimedOutNodes
  notRebooting : name ∉ rs.rebooting

section Timeouts

variable (owned : String → Option BootcNode) (timeout : Duration)
  (now : Time) (rs : RolloutState)

/-- The clock of the `n`-th further run, when every run takes place at the
time that the run before it has asked for. -/
def requestedRun : Nat → Time → Option Time
  | 0, now => some now
  | n + 1, now =>
      let requeue := (applyRebootTimeouts owned timeout now rs).requeueAfter
      if 0 < requeue then requestedRun n (now + requeue) else none

/-- A run that leaves a node behind asks for another one, which comes before
the first of the nodes can be taken out. -/
def Rearmed : Prop :=
  (applyRebootTimeouts owned timeout now rs).rebooting ≠ [] →
    0 < (applyRebootTimeouts owned timeout now rs).requeueAfter ∧
      ∀ name ∈ (applyRebootTimeouts owned timeout now rs).rebooting,
        ∀ wait, isRebootTimedOut owned timeout (now + wait) name = true →
          (applyRebootTimeouts owned timeout now rs).requeueAfter ≤ wait

/-- Every node is taken out or waited for, until it is taken out. -/
structure LeavesNoGap : Prop where
  placed : ∀ name ∈ rs.rebooting,
    TakenOut (applyRebootTimeouts owned timeout now rs) name ∨
      name ∈ (applyRebootTimeouts owned timeout now rs).rebooting
  rearmed : Rearmed owned timeout now rs
  takenOut : ∀ name ∈ rs.rebooting, ∃ n later,
    requestedRun owned timeout rs n now = some later ∧
      TakenOut (applyRebootTimeouts owned timeout later rs) name

end Timeouts

section Rebooting

variable {lib : ReferenceLibrary} {owned : String → Option BootcNode}
  {timeout : Duration} {rs : RolloutState}

variable {name : String} {now : Time}

theorem rebootTimeLeft_of_rebooting
    {bn : BootcNode} (isOwned : owned name = some bn)
    (rebooting : classifyNode lib bn = .ok .rebooting) (now : Time) :
    rebootTimeLeft owned timeout now name =
      some (timeout - (now - rebootingSince owned name)) := by
  obtain ⟨idle, found, _⟩ := idle_of_rebooting rebooting
  simp only [rebootTimeLeft, rebootingSince, isOwned, Option.bind_some, found,
    Option.map_some]

theorem isRebootTimedOut_iff_since
    {bn : BootcNode} (isOwned : owned name = some bn)
    (rebooting : classifyNode lib bn = .ok .rebooting) (enabled : 0 < timeout)
    (now : Time) :
    isRebootTimedOut owned timeout now name = true ↔
      timeout < now - rebootingSince owned name := by
  obtain ⟨idle, found, _⟩ := idle_of_rebooting rebooting
  simp only [isRebootTimedOut, rebootingSince, isOwned, Option.bind_some,
    found, rebootTimedOut_iff timeout now rebooting, enabled, true_and,
    Option.some.injEq, exists_eq_left']

/-- Every listed node is owned and classified as rebooting. -/
def AllRebooting (lib : ReferenceLibrary)
    (owned : String → Option BootcNode) (names : List String) : Prop :=
  ∀ name ∈ names, ∃ bn, owned name = some bn ∧
    classifyNode lib bn = .ok .rebooting

theorem mem_remaining_iff
    (enabled : 0 < timeout) (now : Time) (name : String) :
    name ∈ (applyRebootTimeouts owned timeout now rs).rebooting ↔
      name ∈ rs.rebooting ∧ isRebootTimedOut owned timeout now name = false := by
  unfold applyRebootTimeouts
  rw [if_neg (not_le.mpr enabled)]
  simp only [List.mem_filter, Bool.not_eq_true']

theorem takenOut_of_timedOut
    (enabled : 0 < timeout) (member : name ∈ rs.rebooting)
    (timedOut : isRebootTimedOut owned timeout now name = true) :
    TakenOut (applyRebootTimeouts owned timeout now rs) name where
  degraded := by
    unfold applyRebootTimeouts
    rw [if_neg (not_le.mpr enabled)]
    exact List.mem_append_right _ (List.mem_filter.mpr ⟨member, timedOut⟩)
  timedOut := by
    unfold applyRebootTimeouts
    rw [if_neg (not_le.mpr enabled)]
    exact List.mem_append_right _ (List.mem_filter.mpr ⟨member, timedOut⟩)
  notRebooting := by
    rw [mem_remaining_iff enabled, timedOut]
    rintro ⟨_, isFalse⟩
    cases isFalse

/-- The requeue time is the first timeout of a node that is left. -/
theorem requeueAfter_soonest
    (rebooting : AllRebooting lib owned rs.rebooting) (enabled : 0 < timeout)
    (now : Time) :
    IsSoonest (applyRebootTimeouts owned timeout now rs).requeueAfter
      {later | ∃ name ∈ (applyRebootTimeouts owned timeout now rs).rebooting,
        later = timeout - (now - rebootingSince owned name)} := by
  have soonest := rebootRequeue_soonest owned timeout now
    (applyRebootTimeouts owned timeout now rs).rebooting
  have same : (applyRebootTimeouts owned timeout now rs).requeueAfter =
      rebootRequeue owned timeout now
        (applyRebootTimeouts owned timeout now rs).rebooting := by
    unfold applyRebootTimeouts
    rw [if_neg (not_le.mpr enabled)]
  have left : ∀ name ∈ (applyRebootTimeouts owned timeout now rs).rebooting,
      rebootTimeLeft owned timeout now name =
        some (timeout - (now - rebootingSince owned name)) := by
    intro name member
    obtain ⟨bn, isOwned, state⟩ :=
      rebooting name ((mem_remaining_iff enabled now name).mp member).1
    exact rebootTimeLeft_of_rebooting isOwned state now
  rw [← same] at soonest
  constructor
  · intro positive
    obtain ⟨name, member, isLeft⟩ := soonest.mem_of_pos positive
    rw [left name member, Option.some.injEq] at isLeft
    exact ⟨name, member, isLeft.symm⟩
  · rintro later ⟨name, member, rfl⟩ positive
    exact soonest.le _ ⟨name, member, left name member⟩ positive

/-- Unless a node has been rebooting for the timeout exactly, the next run is
requested. -/
theorem rearmed_of_ne
    (rebooting : AllRebooting lib owned rs.rebooting) (enabled : 0 < timeout)
    (between : ∀ name ∈ rs.rebooting,
      now - rebootingSince owned name ≠ timeout) :
    Rearmed owned timeout now rs := by
  intro remain
  have soonest := requeueAfter_soonest rebooting enabled now
  have left : ∀ name ∈ (applyRebootTimeouts owned timeout now rs).rebooting,
      0 < timeout - (now - rebootingSince owned name) := by
    intro name member
    obtain ⟨listed, notTimedOut⟩ := (mem_remaining_iff enabled now name).mp member
    obtain ⟨bn, isOwned, state⟩ := rebooting name listed
    have notLate : ¬ timeout < now - rebootingSince owned name := by
      rw [← isRebootTimedOut_iff_since isOwned state enabled now, notTimedOut]
      exact Bool.false_ne_true
    exact sub_pos.mpr (lt_of_le_of_ne (not_lt.mp notLate) (between name listed))
  obtain ⟨first, isFirst⟩ := List.exists_mem_of_ne_nil _ remain
  refine ⟨(soonest.le _ ⟨first, isFirst, rfl⟩ (left first isFirst)).1, ?_⟩
  intro name member wait timedOut
  obtain ⟨listed, _⟩ := (mem_remaining_iff enabled now name).mp member
  obtain ⟨bn, isOwned, state⟩ := rebooting name listed
  rw [isRebootTimedOut_iff_since isOwned state enabled] at timedOut
  have least := (soonest.le _ ⟨name, member, rfl⟩ (left name member)).2
  linarith

/-- The node that began to reboot last is never taken out: the runs that are
requested end when it has been rebooting for the timeout exactly. -/
theorem not_late_of_requestedRun
    (rebooting : AllRebooting lib owned rs.rebooting) (enabled : 0 < timeout)
    {last : String} (isLast : ∀ name ∈ rs.rebooting,
      rebootingSince owned name ≤ rebootingSince owned last) (n : Nat)
    {later : Time} (notLate : now - rebootingSince owned last ≤ timeout)
    (requested : requestedRun owned timeout rs n now = some later) :
    later - rebootingSince owned last ≤ timeout := by
  induction n generalizing now with
  | zero =>
      cases requested
      exact notLate
  | succ n ih =>
      unfold requestedRun at requested
      dsimp only at requested
      split_ifs at requested with positive
      refine ih ?_ requested
      have soonest := requeueAfter_soonest rebooting enabled now
      obtain ⟨name, remains, isRequeue⟩ := soonest.mem_of_pos positive
      have later := isLast name ((mem_remaining_iff enabled now name).mp remains).1
      -- the run is requested for a node that began no later
      linarith

/-- Reboot timeouts leave no gap exactly when every node has timed out
already. -/
theorem reboot_timeouts_leave_no_gap_iff
    (lib : ReferenceLibrary) (owned : String → Option BootcNode)
    (rs : RolloutState) (timeout : Duration) (now : Time)
    (enabled : 0 < timeout)
    (rebooting : AllRebooting lib owned rs.rebooting) :
    (LeavesNoGap owned timeout now rs ↔
      ∀ name ∈ rs.rebooting, timeout < now - rebootingSince owned name) ∧
    ((∀ name ∈ rs.rebooting, now - rebootingSince owned name ≠ timeout) →
      Rearmed owned timeout now rs) := by
  have late : ∀ name ∈ rs.rebooting, ∀ now,
      isRebootTimedOut owned timeout now name = true ↔
        timeout < now - rebootingSince owned name := by
    intro name member now
    obtain ⟨bn, isOwned, state⟩ := rebooting name member
    exact isRebootTimedOut_iff_since isOwned state enabled now
  refine ⟨⟨?_, ?_⟩, rearmed_of_ne rebooting enabled⟩
  · intro noGap
    by_contra someLeft
    have listed : rs.rebooting ≠ [] := by
      rintro empty
      exact someLeft fun name member => by
        rw [empty] at member
        cases member
    obtain ⟨last, member, isLast⟩ := Finset.exists_max_image
      rs.rebooting.toFinset (rebootingSince owned)
      ((List.toFinset_nonempty_iff _).mpr listed)
    rw [List.mem_toFinset] at member
    have isLast : ∀ name ∈ rs.rebooting,
        rebootingSince owned name ≤ rebootingSince owned last :=
      fun name listed => isLast name (List.mem_toFinset.mpr listed)
    have notLate : now - rebootingSince owned last ≤ timeout := by
      push Not at someLeft
      obtain ⟨name, listed, early⟩ := someLeft
      have later := isLast name listed
      linarith
    obtain ⟨n, later, requested, takenOut⟩ := noGap.takenOut last member
    have stillEarly := not_late_of_requestedRun rebooting enabled isLast
      n notLate requested
    refine takenOut.notRebooting ((mem_remaining_iff enabled later last).mpr
      ⟨member, ?_⟩)
    rw [← Bool.not_eq_true, late last member later]
    exact not_lt.mpr stillEarly
  · intro allLate
    have takenOut : ∀ name ∈ rs.rebooting,
        TakenOut (applyRebootTimeouts owned timeout now rs) name :=
      fun name member => takenOut_of_timedOut enabled member
        ((late name member now).mpr (allLate name member))
    refine ⟨fun name member => .inl (takenOut name member), ?_,
      fun name member => ⟨0, now, rfl, takenOut name member⟩⟩
    intro remain
    obtain ⟨name, member⟩ := List.exists_mem_of_ne_nil _ remain
    have listed := ((mem_remaining_iff enabled now name).mp member).1
    exact absurd member (takenOut name listed).notRebooting

end Rebooting

def rebootingPool (name : String) : Option BootcNode :=
  if name = "n1" then some rebootingNode else none

theorem allRebooting_rebootingPool :
    AllRebooting osLibrary rebootingPool ["n1"] := by
  intro name member
  rw [List.mem_singleton.mp member]
  exact ⟨rebootingNode, rfl, by decide⟩

/-- After the timeout exactly, the node is left and nothing is requested. -/
theorem reboot_timeout_gap_at_timeout :
    (applyRebootTimeouts rebootingPool (10 * second) (10 * second)
        { rebooting := ["n1"] }).rebooting = ["n1"] ∧
      (applyRebootTimeouts rebootingPool (10 * second) (10 * second)
        { rebooting := ["n1"] }).requeueAfter = 0 ∧
      ¬ LeavesNoGap rebootingPool (10 * second) (10 * second)
        { rebooting := ["n1"] } := by
  have left : (applyRebootTimeouts rebootingPool (10 * second) (10 * second)
      { rebooting := ["n1"] }).rebooting = ["n1"] := by
    decide +kernel
  have unarmed : (applyRebootTimeouts rebootingPool (10 * second)
      (10 * second) { rebooting := ["n1"] }).requeueAfter = 0 := by
    decide +kernel
  refine ⟨left, unarmed, fun noGap => ?_⟩
  have positive := (noGap.rearmed (by simp [left])).1
  rw [unarmed] at positive
  exact lt_irrefl 0 positive

/-- A second past the timeout the node is taken out. -/
theorem reboot_timeouts_leave_no_gap_after_timeout :
    LeavesNoGap rebootingPool (10 * second) (11 * second)
      { rebooting := ["n1"] } := by
  refine (reboot_timeouts_leave_no_gap_iff osLibrary rebootingPool
    { rebooting := ["n1"] } (10 * second) (11 * second) (by decide)
    allRebooting_rebootingPool).1.mpr ?_
  intro name member
  rw [List.mem_singleton.mp member]
  decide +kernel

end BootcOperator
