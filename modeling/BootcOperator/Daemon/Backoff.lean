import BootcOperator.Daemon.Charges
import Mathlib.Tactic.IntervalCases

/-!
# The arithmetic of the stage backoff

`backoff` shifts by `retries - 1` without looking at `retries`.  The shift
count is in range because of what `takeErr` has done in an earlier critical
section: the worker calls `backoff` only after `takeErr` has returned an
error, which has been counted by then, and only the worker itself counts or
resets.
-/

namespace BootcOperator

namespace StageOp

variable {s : StageOp}

/-- The counter stays within the exponents of the backoff. -/
def Bounded (s : StageOp) : Prop :=
  s.retries ≤ stageMaxBackoffExponent

theorem bounded_initial : Bounded initial :=
  Nat.zero_le _

theorem Bounded.takeErr (bounded : Bounded s) :
    Bounded s.takeErr.2 := by
  unfold Bounded at *
  unfold StageOp.takeErr
  dsimp only
  split
  · next counts => exact counts.2
  · exact bounded

theorem Bounded.acquire (bounded : Bounded s) (image : String) :
    Bounded (s.acquire image) := by
  unfold Bounded at *
  unfold StageOp.acquire
  dsimp only
  split
  · exact Nat.zero_le _
  · exact bounded

theorem Bounded.step
    {s' : StageOp} {a : Action} (bounded : Bounded s)
    (stepped : s.step a = some s') :
    Bounded s' := by
  cases a with
  | takeErr =>
      cases stepped
      exact bounded.takeErr
  | reset =>
      cases stepped
      exact Nat.zero_le _
  | isInFlight image =>
      cases stepped
      exact bounded
  | acquire image =>
      cases stepped
      exact bounded.acquire image
  | spawn i =>
      simp only [StageOp.step] at stepped
      split at stepped
      · cases stepped
        exact bounded
      · cases stepped
  | receive => exact (retries_of_run_step (.inr rfl) stepped).trans_le bounded
  | lockRun i | checkContext i | startStage i | stageReturns i err
  | publish i | send i | unlockRun i =>
      exact (retries_of_run_step (.inl rfl) stepped).trans_le bounded

theorem Bounded.reaches
    {s' : StageOp} (bounded : Bounded s) (reached : machine.Reaches s s') :
    Bounded s' :=
  reached.invariant Bounded (fun bounded stepped => bounded.step stepped)
    bounded

theorem one_le_retries_of_takeErr
    {err : String} (taken : s.takeErr.1 = some err) :
    1 ≤ s.takeErr.2.retries := by
  rcases retries_takeErr_of_err taken with counted | ⟨atLimit, same⟩
  · rw [counted, stageMaxBackoffExponent]
    omega
  · rw [stageMaxBackoffExponent] at atLimit
    omega

/-- `stageBackoffMin << (s.retries - 1)` on machine words: an `int64` is
shifted by an `int`, and a negative count panics. -/
def shiftedBackoff (s : StageOp) : Option (BitVec 64) :=
  let count : Int := s.retries - 1
  if count < 0 then none
  else some (BitVec.ofInt 64 stageBackoffMin <<< count.toNat)

/-- The shift count is in range and no bit is lost. -/
structure BackoffSafe (s : StageOp) : Prop where
  counted : 1 ≤ s.retries
  shift : s.retries - 1 ≤ 6
  delay : ∃ bits delay, s.shiftedBackoff = some bits ∧
    s.backoff = some delay ∧ bits.toInt = delay ∧
    5 * second ≤ delay ∧ delay ≤ 320 * second

theorem toInt_shift
    {retries : Nat} (counted : 1 ≤ retries) (bounded : retries ≤ 7) :
    (BitVec.ofInt 64 stageBackoffMin <<< (retries - 1)).toInt =
        stageBackoffMin * 2 ^ (retries - 1) ∧
      5 * second ≤ stageBackoffMin * 2 ^ (retries - 1) ∧
      stageBackoffMin * 2 ^ (retries - 1) ≤ 320 * second := by
  interval_cases retries <;> decide

theorem Bounded.backoffSafe (bounded : Bounded s) (counted : 1 ≤ s.retries) :
    BackoffSafe s := by
  have limit : s.retries ≤ 7 := bounded
  obtain ⟨shifted, least, greatest⟩ := toInt_shift counted limit
  have count : ¬ (s.retries : Int) - 1 < 0 := by omega
  have toNat : ((s.retries : Int) - 1).toNat = s.retries - 1 := by omega
  refine ⟨counted, by omega, _, _, ?_, ?_, shifted, least, greatest⟩
  · rw [shiftedBackoff, if_neg count, toNat]
  · rw [backoff, if_neg (by omega)]

end StageOp

namespace DaemonSystem

open BootcNodeReconciler StageOp

/-- The stage operation when the delay is computed. -/
def atBackoff (s : DaemonSystem) (input : ReconcileInput) : StageOp :=
  (s.reconciler.afterTakeErr input).2.interleave (input.gap .backoff)

theorem bounded_of_reaches
    {lib : ReferenceLibrary} {nodeName : String}
    {bootcNode : Option BootcNode} {s : DaemonSystem}
    (reached : (machine lib).Reaches (initial nodeName bootcNode) s) :
    Bounded s.reconciler.inflight := by
  refine reached.invariant (fun s => Bounded s.reconciler.inflight)
    ?_ bounded_initial
  intro s a s' bounded stepped
  cases a with
  | change bootcNode =>
      cases stepped
      exact bounded
  | run action =>
      simp only [machine, step] at stepped
      split at stepped
      · rw [Option.map_eq_some_iff] at stepped
        obtain ⟨inflight, moved, rfl⟩ := stepped
        exact bounded.step moved
      · cases stepped
  | reconcile input =>
      cases stepped
      exact bounded.reaches (reaches_reconcile _ _ _ _)

theorem backoffSafe_atBackoff
    {s : DaemonSystem} (bounded : Bounded s.reconciler.inflight)
    {input : ReconcileInput} {err : String}
    (taken : (s.reconciler.afterTakeErr input).1 = some err) :
    BackoffSafe (s.atBackoff input) := by
  have reached := (s.reconciler.afterTakeErr_spec input).1.trans
    (interleave_spec _ (input.gap .backoff)).1
  have counted : 1 ≤ (s.atBackoff input).retries := by
    rw [atBackoff, interleave_retries]
    exact one_le_retries_of_takeErr taken
  exact (bounded.reaches reached).backoffSafe counted

theorem reconcileDesired_ne_none
    (lib : ReferenceLibrary) (input : ReconcileInput)
    (r : BootcNodeReconciler) (bn : BootcNode)
    (desiredImage desiredDigest : String) :
    r.reconcileDesired lib input bn desiredImage desiredDigest ≠ none := by
  unfold reconcileDesired
  split
  · exact Option.some_ne_none _
  · dsimp only
    cases taken : (r.inflight.interleave (input.gap .takeErr)).takeErr.1 with
    | none => exact Option.some_ne_none _
    | some err =>
        simp [backoff_of_takeErr taken]

theorem reconcileBootcNode_ne_none
    (lib : ReferenceLibrary) (input : ReconcileInput)
    (r : BootcNodeReconciler) (bn : BootcNode) :
    r.reconcileBootcNode lib input bn ≠ none := by
  unfold reconcileBootcNode
  split
  · exact Option.some_ne_none _
  · split
    · exact Option.some_ne_none _
    · split
      · exact Option.some_ne_none _
      · split
        · exact Option.some_ne_none _
        · exact reconcileDesired_ne_none lib input r _ _ _

/-- In every state that the critical sections of the worker and of the `run`
calls lead to, the retry counter is bounded; where `backoff` is evaluated, the
shift is safe. -/
theorem backoff_arithmetic_safe
    (lib : ReferenceLibrary) (nodeName : String)
    (bootcNode : Option BootcNode) (s : DaemonSystem)
    (reached : (machine lib).Reaches (initial nodeName bootcNode) s) :
    (∀ actions op,
      StageOp.machine.run s.reconciler.inflight actions = some op →
        op.retries ≤ 7) ∧
    ∀ input,
      (∀ err, (s.reconciler.afterTakeErr input).1 = some err →
        BackoffSafe (s.atBackoff input)) ∧
      ∀ bn, s.reconciler.reconcileBootcNode lib input bn ≠ none := by
  have bounded := bounded_of_reaches reached
  refine ⟨fun actions op ran => ?_, fun input =>
    ⟨fun err taken => backoffSafe_atBackoff bounded taken, fun bn =>
      reconcileBootcNode_ne_none lib input s.reconciler bn⟩⟩
  exact bounded.reaches ⟨actions, ran⟩

/-- After a failed stage the backoff is evaluated, with one failure
counted. -/
theorem backoff_arithmetic_safe_once :
    ∃ s, (machine osLibrary).run (initial "n" none)
        ChargedSystem.failingRun = some s ∧
      (s.reconciler.afterTakeErr (calmInput hostOnA)).1 =
        some "pull failed" ∧
      BackoffSafe (s.atBackoff (calmInput hostOnA)) := by
  obtain ⟨s, ran, taken⟩ : ∃ s, (machine osLibrary).run (initial "n" none)
      ChargedSystem.failingRun = some s ∧
      (s.reconciler.afterTakeErr (calmInput hostOnA)).1 =
        some "pull failed" :=
    ⟨_, rfl, rfl⟩
  have safe := backoff_arithmetic_safe osLibrary "n" none s ⟨_, ran⟩
  exact ⟨s, ran, taken, (safe.2 (calmInput hostOnA)).1 _ taken⟩

end DaemonSystem

end BootcOperator
