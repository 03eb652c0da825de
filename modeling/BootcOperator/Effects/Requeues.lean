import BootcOperator.Controller.Rollout
import BootcOperator.Lib.Soonest
import Mathlib.Algebra.Order.Ring.Int

/-!
# The requeue times of a pass

`earlierRequeue` keeps the soonest of several delays.  The loops over the
rebooting nodes and over the drains keep it too, and staged nodes that carry
the record of a fence add one more delay.
-/

namespace BootcOperator

open Soonest

theorem earlierRequeue_eq : earlierRequeue = sooner := rfl

/-- Among the rebooting nodes, `rebootTimedOut` looks at the time only. -/
theorem rebootTimedOut_iff
    {lib : ReferenceLibrary} {bn : BootcNode} (timeout : Duration) (now : Time)
    (rebooting : classifyNode lib bn = .ok .rebooting) :
    rebootTimedOut bn timeout now = true ↔ 0 < timeout ∧ ∃ idle,
      findStatusCondition bn.status.conditions nodeIdle = some idle ∧
        timeout < now - idle.lastTransitionTime := by
  obtain ⟨idle, found, reason⟩ := idle_of_rebooting rebooting
  unfold rebootTimedOut
  by_cases disabled : timeout ≤ 0
  · simp [disabled]
  · simp [disabled, found, reason, not_le.mp disabled]

section Timeouts

variable (owned : String → Option BootcNode) (timeout : Duration)
  (now : Time)

/-- One node of the loop over the reboot timeouts. -/
def soonerTimeout (requeue : Duration) (name : String) : Duration :=
  match (owned name).bind fun bn =>
      findStatusCondition bn.status.conditions nodeIdle with
  | none => requeue
  | some idle =>
      let left := timeout - (now - idle.lastTransitionTime)
      if 0 < left ∧ (requeue = 0 ∨ left < requeue) then left else requeue

theorem rebootRequeue_eq (names : List String) :
    rebootRequeue owned timeout now names =
      names.foldl (soonerTimeout owned timeout now) 0 :=
  rfl

/-- What is left of the timeout of the node. -/
def rebootTimeLeft (name : String) : Option Duration :=
  ((owned name).bind fun bn =>
    findStatusCondition bn.status.conditions nodeIdle).map fun idle =>
      timeout - (now - idle.lastTransitionTime)

theorem soonerTimeout_eq
    {requeue : Duration} (nonneg : 0 ≤ requeue) (name : String) :
    soonerTimeout owned timeout now requeue name =
      collect (rebootTimeLeft owned timeout now) requeue name := by
  unfold soonerTimeout collect rebootTimeLeft
  cases (owned name).bind fun bn =>
      findStatusCondition bn.status.conditions nodeIdle with
  | none => rfl
  | some idle => exact ite_eq_sooner nonneg _

theorem foldl_soonerTimeout
    (names : List String) {requeue : Duration} (nonneg : 0 ≤ requeue) :
    names.foldl (soonerTimeout owned timeout now) requeue =
      names.foldl (collect (rebootTimeLeft owned timeout now)) requeue := by
  induction names generalizing requeue with
  | nil => rfl
  | cons name rest ih =>
      rw [List.foldl_cons, List.foldl_cons, soonerTimeout_eq _ _ _ nonneg]
      exact ih (collect_nonneg _ nonneg name)

theorem rebootRequeue_soonest (names : List String) :
    IsSoonest (rebootRequeue owned timeout now names)
      {later | ∃ name ∈ names,
        rebootTimeLeft owned timeout now name = some later} := by
  rw [rebootRequeue_eq, foldl_soonerTimeout _ _ _ _ (le_refl 0)]
  simpa using (IsSoonest.empty (le_refl (0 : Duration))).foldl_collect
    (rebootTimeLeft owned timeout now) names

end Timeouts

/-- A staged node is fenced against Karpenter. -/
def fenced (staged : List String) (owned : String → Option BootcNode) :
    Bool :=
  staged.any fun name =>
    match owned name with
    | some bn => bn.annotations.has .ownsKarpenterDoNotRepair
    | none => false

theorem requeueForFencedNodes_apply (s : PassState) :
    BootcNodePoolReconciler.requeueForFencedNodes s =
      (.ok (),
        if fenced s.rs.staged s.owned then
          { s with rs := s.rs.setRequeueAfter karpenterRequeueInterval }
        else s) :=
  rfl

end BootcOperator
