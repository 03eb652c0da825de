import BootcOperator.Effects.Polling
import BootcOperator.Effects.Persisted
import BootcOperator.Effects.Tables
import Mathlib.Tactic.Linarith

/-!
# The next deadline of a pool

A `Reconcile` that completes asks to be called again at the first of the
deadlines of its pool: the next resolution of the tag, the drains that may
stall, the nodes that may time out while they reboot, and the next look at
Karpenter.
-/

namespace BootcOperator

open Program BootcNodePoolReconciler Soonest

/-! ## Parts of the requeue time -/

/-- The time to the next resolution of the tag. -/
theorem requeueAfter_of_resolveTargetDigest
    {r : BootcNodePoolReconciler} {env : Env} {pool : BootcNodePool}
    {secretData : Option String} {resolution : Resolution}
    (resolved : r.resolveTargetDigest env pool secretData = .ok resolution) :
    IsSoonest resolution.requeueAfter
        {later | ∃ next,
          resolution.pool.status.nextTagResolutionTime = some next ∧
            later = next - env.now} ∧
      (0 ≤ resolution.requeueAfter ∨
        resolution.requeueAfter = r.tagResolutionInterval) := by
  have single : ∀ next : Time,
      {later : Duration | ∃ time, some next = some time ∧
        later = time - env.now} = {next - env.now} := by
    intro next
    ext later
    simp
  have resolvedTag : ∀ {next : Time},
      IsSoonest (next - env.now) {later | ∃ time, some next = some time ∧
        later = time - env.now} := by
    intro next
    rw [single]
    exact .singleton _
  have due : r.resolveTag env pool secretData = resolution →
      IsSoonest resolution.requeueAfter
        {later | ∃ next,
          resolution.pool.status.nextTagResolutionTime = some next ∧
            later = next - env.now} ∧
      (0 ≤ resolution.requeueAfter ∨
        resolution.requeueAfter = r.tagResolutionInterval) := by
    rintro rfl
    refine ⟨?_, .inr rfl⟩
    have interval : (r.resolveTag env pool secretData).requeueAfter =
        env.now + r.tagResolutionInterval - env.now := by
      simp [resolveTag]
    rw [interval]
    exact resolvedTag
  unfold resolveTargetDigest at resolved
  split at resolved
  · cases resolved
  · split at resolved
    · cases resolved
      refine ⟨?_, .inl (le_refl 0)⟩
      simp only [nextTagResolutionTime_clearPoolDegradedReason]
      simpa using IsSoonest.empty (le_refl (0 : Duration))
    · split at resolved
      · next next isNext =>
          split_ifs at resolved with early
          · cases resolved
            dsimp only
            rw [isNext]
            exact ⟨resolvedTag, .inl (sub_nonneg.mpr early.le)⟩
          · exact due (Except.ok.inj resolved)
      · exact due (Except.ok.inj resolved)

/-- What is left until the drain of the node counts as stalled. -/
def stallTimeLeft (env : Env) (drains : String → Option DrainStatus)
    (name : String) : Option Duration :=
  match drains name with
  | none => none
  | some status =>
      if status.isStalled then none
      else some (drainStallThreshold - (env.now - status.startTime))

theorem nextDrainCheck_eq
    (env : Env) (drains : String → Option DrainStatus) :
    nextDrainCheck env drains =
      (env.order .drainStalls).foldl (collect (stallTimeLeft env drains))
        0 := by
  unfold nextDrainCheck
  congr 1
  funext next name
  unfold collect stallTimeLeft
  cases drains name with
  | none => rfl
  | some status =>
      dsimp only
      split
      · rfl
      · rfl

theorem nextDrainCheck_soonest
    {env : Env} {drains : String → Option DrainStatus}
    (covers : ∀ name, drains name ≠ none → name ∈ env.order .drainStalls) :
    IsSoonest (nextDrainCheck env drains)
      {later | ∃ name status, drains name = some status ∧
        status.isStalled = false ∧
        env.now - status.startTime < drainStallThreshold ∧
        later = drainStallThreshold - (env.now - status.startTime)} := by
  have soonest := (IsSoonest.empty (le_refl (0 : Duration))).foldl_collect
    (stallTimeLeft env drains) (env.order .drainStalls)
  rw [← nextDrainCheck_eq] at soonest
  refine soonest.of_pos_iff fun later positive => ?_
  simp only [Set.empty_union, Set.mem_ofPred_eq]
  constructor
  · rintro ⟨name, status, isStatus, running, _, rfl⟩
    refine ⟨name, covers name (by simp [isStatus]), ?_⟩
    simp [stallTimeLeft, isStatus, running]
  · rintro ⟨name, _, left⟩
    unfold stallTimeLeft at left
    split at left
    · cases left
    · next status isStatus =>
        split_ifs at left with stalled
        cases left
        exact ⟨name, status, isStatus, by simpa using stalled,
          sub_pos.mp positive, rfl⟩

theorem applyRebootTimeouts_soonest
    (owned : String → Option BootcNode) (timeout : Duration) (now : Time)
    (rs : RolloutState) :
    IsSoonest (applyRebootTimeouts owned timeout now rs).requeueAfter
      {later | 0 < timeout ∧
        ∃ name ∈ (applyRebootTimeouts owned timeout now rs).rebooting,
          rebootTimeLeft owned timeout now name = some later} := by
  by_cases disabled : timeout ≤ 0
  · have none : {later | 0 < timeout ∧
        ∃ name ∈ (applyRebootTimeouts owned timeout now rs).rebooting,
          rebootTimeLeft owned timeout now name = some later} = ∅ := by
      ext later
      simp [not_lt.mpr disabled]
    rw [none]
    refine IsSoonest.empty ?_
    unfold applyRebootTimeouts
    rw [if_pos disabled]
  · have enabled : 0 < timeout := not_le.mp disabled
    unfold applyRebootTimeouts
    rw [if_neg disabled]
    simp only [enabled, true_and]
    exact rebootRequeue_soonest owned timeout now _

/-! ## The rollout -/

def collectedState (env : Env) (s : PassState) : PassState :=
  (collectDrainResults env s).2

def classifiedState (r : BootcNodePoolReconciler) (env : Env)
    (s : PassState) : PassState :=
  (r.classifyNodes env (collectedState env s)).2

def examinedState (r : BootcNodePoolReconciler) (env : Env)
    (s : PassState) : PassState :=
  (freeCompletedSlots env (classifiedState r env s)).2

/-- `rolloutHalted` of a `driveRollout` that begins in a state. -/
def haltsRollout (r : BootcNodePoolReconciler) (env : Env) (s : PassState) :
    Bool :=
  let examined := examinedState r env s
  unhealthySlotHaltThreshold ≤
    (findUnhealthySlots r.references examined.owned examined.rs
      examined.pool.status.targetDigest).length

/-- When the nodes left in `rs.rebooting` time out. -/
def rebootDeadlines (r : BootcNodePoolReconciler) (env : Env)
    (s : PassState) : Set Duration :=
  let timeout := resolveRebootTimeout (collectedState env s).pool
  {later | 0 < timeout ∧
    ∃ name ∈ (classifiedState r env s).rs.rebooting, ∃ bn idle,
      (collectedState env s).owned name = some bn ∧
      findStatusCondition bn.status.conditions nodeIdle = some idle ∧
      later = timeout - (env.now - idle.lastTransitionTime)}

/-- The poll for a node that Karpenter is about to disrupt. -/
def karpenterDeadlines (r : BootcNodePoolReconciler) (env : Env)
    (s : PassState) : Set Duration :=
  let examined := examinedState r env s
  pollDelay (haltsRollout r env s = false ∧ ∃ maxUnavail,
    r.resolveMaxUnavailable examined.pool examined.rs.nodeCount =
      .ok maxUnavail ∧
    PollsKarpenter env maxUnavail examined)

theorem rebootTimeLeft_eq_some
    {owned : String → Option BootcNode} {timeout : Duration} {now : Time}
    {name : String} {later : Duration} :
    rebootTimeLeft owned timeout now name = some later ↔ ∃ bn idle,
      owned name = some bn ∧
      findStatusCondition bn.status.conditions nodeIdle = some idle ∧
      later = timeout - (now - idle.lastTransitionTime) := by
  unfold rebootTimeLeft
  simp only [Option.map_eq_some_iff, Option.bind_eq_some_iff]
  constructor
  · rintro ⟨idle, ⟨bn, owned, found⟩, left⟩
    exact ⟨bn, idle, owned, found, left.symm⟩
  · rintro ⟨bn, idle, owned, found, left⟩
    exact ⟨idle, ⟨bn, owned, found⟩, left.symm⟩

theorem classifiedState_soonest
    (r : BootcNodePoolReconciler) (env : Env) (s : PassState) :
    IsSoonest (classifiedState r env s).rs.requeueAfter
      (rebootDeadlines r env s) := by
  have soonest := applyRebootTimeouts_soonest (collectedState env s).owned
    (resolveRebootTimeout (collectedState env s).pool) env.now
    (buildRolloutState r.references (collectedState env s).owned
      (env.order .classification))
  simp only [rebootTimeLeft_eq_some] at soonest
  exact soonest

/-- The requeue time that a rollout returns. -/
theorem soonest_of_driveRollout
    {r : BootcNodePoolReconciler} {env : Env} {s s' : PassState}
    (returned : r.driveRollout env s = (.ok (), s')) :
    IsSoonest s'.rs.requeueAfter
      (rebootDeadlines r env s ∪ karpenterDeadlines r env s) := by
  obtain ⟨_, s₁, collected, afterCollected⟩ := ok_of_bind returned
  obtain ⟨_, s₂, classified, afterClassified⟩ := ok_of_bind afterCollected
  obtain ⟨_, s₃, freed, afterFreed⟩ := ok_of_bind afterClassified
  have isCollected : collectedState env s = s₁ := by
    rw [collectedState, ok_of_mapError collected]
  have isClassified : classifiedState r env s = s₂ := by
    rw [classifiedState, isCollected, classified]
  have isExamined : examinedState r env s = s₃ := by
    rw [examinedState, isClassified, ok_of_mapError freed]
  have kept : Moves (Keeping fun s : PassState => s.rs.requeueAfter)
      (freeCompletedSlots env) :=
    Moves.bind (Moves.read _) fun _ => Moves.forEach fun name =>
      keepsRequeue_freeCompletedSlot env name
  have same := kept s₂
  rw [ok_of_mapError freed] at same
  have soonest : IsSoonest s₃.rs.requeueAfter (rebootDeadlines r env s) := by
    rw [show s₃.rs.requeueAfter = s₂.rs.requeueAfter from same,
      ← isClassified]
    exact classifiedState_soonest r env s
  have decided := ok_of_bindRead afterFreed
  have halts : haltsRollout r env s = decide (unhealthySlotHaltThreshold ≤
      (findUnhealthySlots r.references s₃.owned s₃.rs
        s₃.pool.status.targetDigest).length) := by
    unfold haltsRollout
    rw [isExamined]
  by_cases halted : unhealthySlotHaltThreshold ≤
      (findUnhealthySlots r.references s₃.owned s₃.rs
        s₃.pool.status.targetDigest).length
  · rw [if_pos halted] at decided
    cases decided
    have none : karpenterDeadlines r env s = ∅ := by
      ext later
      simp [karpenterDeadlines, pollDelay, halts, halted]
    rw [none, Set.union_empty]
    exact soonest
  · rw [if_neg halted] at decided
    obtain ⟨maxUnavail, resolved, advanced⟩ :=
      soonest_of_advanceRollout decided soonest
    have same : karpenterDeadlines r env s =
        pollDelay (PollsKarpenter env maxUnavail s₃) := by
      unfold karpenterDeadlines
      simp [isExamined, halts, halted, resolved]
    rw [same]
    exact advanced

/-! ## The whole pass -/

/-- A `Reconcile` that completes the full path. -/
structure CompletedPass (r : BootcNodePoolReconciler) (env : Env)
    (request : String) (w : World) extends FullPath r env request w where
  requeueAfter : Duration
  final : PassState
  isFinished : finishPass env request pool.status resolution.tagTargetChanged
    resolution.requeueAfter driven = (.ok requeueAfter, final)

namespace CompletedPass

variable {r : BootcNodePoolReconciler} {env : Env} {request : String}
  {w : World} (path : CompletedPass r env request w)

/-- The deadlines of the pool: the next resolution of its tag, the drains that
have neither stalled nor finished, the nodes that are rebooting, and the next
look at Karpenter. -/
def deadlines : Set Duration :=
  {later | ∃ next,
    path.resolution.pool.status.nextTagResolutionTime = some next ∧
      later = next - env.now} ∪
  {later | ∃ name status, path.driven.world.drains name = some status ∧
    status.isStalled = false ∧
    env.now - status.startTime < drainStallThreshold ∧
    later = drainStallThreshold - (env.now - status.startTime)} ∪
  (rebootDeadlines r env path.recorded ∪
    karpenterDeadlines r env path.recorded)

theorem reconcile_eq :
    r.reconcile env request (.start w) =
      (.ok path.requeueAfter, path.final) :=
  (reconcile_of_fullPath r path.toFullPath).trans path.isFinished

/-- The requeue time of the resolution is the deadline of the tag. -/
theorem tagDeadline :
    IsSoonest path.resolution.requeueAfter
        {later | ∃ next,
          path.resolution.pool.status.nextTagResolutionTime = some next ∧
            later = next - env.now} ∧
      (0 ≤ path.resolution.requeueAfter ∨
        path.resolution.requeueAfter = r.tagResolutionInterval) := by
  obtain ⟨secretData, _, resolved⟩ := settle_eq_some path.settled
  exact requeueAfter_of_resolveTargetDigest resolved

/-- The end of the pass merges the requeue times. -/
theorem requeueAfter_eq :
    path.requeueAfter =
      sooner
        (sooner path.resolution.requeueAfter
          (nextDrainCheck env path.driven.world.drains))
        path.driven.rs.requeueAfter := by
  obtain ⟨stallCheck, s₁, checked, afterCheck⟩ := ok_of_bind path.isFinished
  have kept := keepsRollout_recordDrainStalls env path.driven
  rw [checked] at kept
  have sameRollout : s₁.rs = path.driven.rs := kept
  have isCheck : stallCheck = nextDrainCheck env path.driven.world.drains := by
    have marks := ok_of_bindRead checked
    obtain ⟨_, _, _, afterMarks⟩ := ok_of_bind marks
    obtain ⟨_, _, _, last⟩ := ok_of_bind afterMarks
    cases last
    rfl
  obtain ⟨_, s₂, isStatus, afterStatus⟩ := ok_of_bind afterCheck
  cases isStatus
  have completed := ok_of_bindRead afterStatus
  obtain ⟨_, _, _, last⟩ := ok_of_bind completed
  have isRequeue := Except.ok.inj (congrArg Prod.fst last)
  rw [← isRequeue, isCheck]
  exact congrArg (fun rs => sooner _ (RolloutState.requeueAfter rs))
    sameRollout

/-- The requeue time is the first of the deadlines. -/
theorem soonest
    (covers : ∀ name, path.driven.world.drains name ≠ none →
      name ∈ env.order .drainStalls) :
    IsSoonest path.requeueAfter path.deadlines := by
  have tag := path.tagDeadline.1
  have drains := nextDrainCheck_soonest covers
  have rollout := soonest_of_driveRollout path.isDriven
  rw [path.requeueAfter_eq]
  exact (tag.sooner drains).sooner rollout

end CompletedPass

/-- A `Reconcile` that completes the full path is called again at the first of
the deadlines that lie ahead.  If there is none, it does not ask for it: the
requeue time is zero, or the interval of the tag resolution when that is
negative. -/
theorem requeue_at_first_deadline
    (r : BootcNodePoolReconciler) (env : Env) (request : String) (w : World)
    (path : CompletedPass r env request w)
    (covers : ∀ name, path.driven.world.drains name ≠ none →
      name ∈ env.order .drainStalls) :
    r.reconcile env request (.start w) = (.ok path.requeueAfter, path.final) ∧
    IsSoonest path.requeueAfter path.deadlines ∧
    ((∀ later ∈ path.deadlines, later ≤ 0) →
      path.requeueAfter = 0 ∨
        (path.requeueAfter = r.tagResolutionInterval ∧
          r.tagResolutionInterval < 0)) := by
  obtain ⟨tag, sign⟩ := path.tagDeadline
  have drains := nextDrainCheck_soonest covers
  have rollout := soonest_of_driveRollout path.isDriven
  refine ⟨path.reconcile_eq, path.soonest covers, fun none => ?_⟩
  have noDrain : nextDrainCheck env path.driven.world.drains ≤ 0 := by
    by_contra positive
    exact positive (none _ (.inl (.inr
      (drains.mem_of_pos (not_le.mp positive)))))
  have noRollout : path.driven.rs.requeueAfter ≤ 0 := by
    by_contra positive
    exact positive (none _ (.inr (rollout.mem_of_pos (not_le.mp positive))))
  have noTag : path.resolution.requeueAfter ≤ 0 := by
    by_contra positive
    exact positive (none _ (.inl (.inl
      (tag.mem_of_pos (not_le.mp positive)))))
  have isTag : path.requeueAfter = path.resolution.requeueAfter := by
    rw [path.requeueAfter_eq]
    unfold sooner
    rw [if_pos noRollout, if_pos noDrain]
  rw [isTag]
  rcases sign with nonneg | isInterval
  · exact .inl (le_antisymm noTag nonneg)
  · rcases noTag.lt_or_eq with negative | zero
    · exact .inr ⟨isInterval, isInterval ▸ negative⟩
    · exact .inl zero

/-! ## A pool without nodes -/

def emptyPool : World :=
  { pools := [("workers", osPool "os:1")] : Tables }.world

def answeringEnv : Env :=
  { Env.calm [] 0 with resolve := fun _ _ => .ok "a" }

def pollingReconciler (interval : Duration) : BootcNodePoolReconciler :=
  { osReconciler with tagResolutionInterval := interval }

def emptyResolution (interval : Duration) : Resolution :=
  (pollingReconciler interval).resolveTag answeringEnv (osPool "os:1") none

/-- The state of the first pass of the pool behind `syncMembership`. -/
def emptySynced (interval : Duration) : PassState :=
  ((pollingReconciler interval).syncMembership answeringEnv
    (clearedState answeringEnv emptyPool (osPool "os:1")
      (emptyResolution interval))).2

/-- The state behind `driveRollout`. -/
def emptyDriven (interval : Duration) : PassState :=
  ((pollingReconciler interval).driveRollout answeringEnv
    (emptySynced interval)).2

/-- The first pass of the pool resolves its tag. -/
def emptyPath (interval : Duration)
    (finished : (finishPass answeringEnv "workers" (osPool "os:1").status
      (emptyResolution interval).tagTargetChanged
      (emptyResolution interval).requeueAfter
      (emptyDriven interval)).1 = .ok interval) :
    CompletedPass (pollingReconciler interval) answeringEnv "workers"
      emptyPool where
  pool := osPool "os:1"
  reads := ⟨rfl, rfl, by decide⟩
  resolution := emptyResolution interval
  settled := rfl
  hasTarget := (by decide : "a" ≠ "")
  synced := emptySynced interval
  isSynced := rfl
  recorded := emptySynced interval
  isRecorded := rfl
  driven := emptyDriven interval
  isDriven := rfl
  requeueAfter := interval
  final :=
    (finishPass answeringEnv "workers" (osPool "os:1").status
      (emptyResolution interval).tagTargetChanged
      (emptyResolution interval).requeueAfter (emptyDriven interval)).2
  isFinished := eq_of_fst_eq_ok finished

/-- With a negative interval the deadline of the tag has always passed, and
the interval itself is returned. -/
theorem negative_requeue_without_deadline :
    ∃ path : CompletedPass (pollingReconciler (-1)) answeringEnv "workers"
        emptyPool,
      (∀ name, path.driven.world.drains name ≠ none →
        name ∈ answeringEnv.order .drainStalls) ∧
      (∀ later ∈ path.deadlines, later ≤ 0) ∧
      (pollingReconciler (-1)).reconcile answeringEnv "workers"
        (.start emptyPool) = (.ok (-1), path.final) := by
  let path := emptyPath (-1) (by decide +kernel)
  have covers : ∀ name, path.driven.world.drains name ≠ none →
      name ∈ answeringEnv.order .drainStalls :=
    fun name present => absurd rfl present
  refine ⟨path, covers, fun later member => ?_, path.reconcile_eq⟩
  by_contra positive
  have ahead := ((path.soonest covers).le later member (not_le.mp positive)).1
  exact absurd ahead (by decide : ¬ (0 : Int) < -1)

/-- With an interval of five minutes the pool is called again after it. -/
theorem requeue_at_next_resolution :
    ∃ path : CompletedPass (pollingReconciler (300 * second)) answeringEnv
        "workers" emptyPool,
      path.requeueAfter = 300 * second ∧
      IsSoonest path.requeueAfter path.deadlines := by
  let path := emptyPath (300 * second) (by decide +kernel)
  have covers : ∀ name, path.driven.world.drains name ≠ none →
      name ∈ answeringEnv.order .drainStalls :=
    fun name present => absurd rfl present
  exact ⟨path, rfl, (requeue_at_first_deadline _ _ _ _ path covers).2.1⟩

end BootcOperator
