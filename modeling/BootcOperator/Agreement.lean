import BootcOperator.Controller.Classify
import BootcOperator.Daemon.Exits

/-!
# Daemon and controller agree on the state of a node

The daemon reports through three signals: the booted image, the Idle condition
and the Degraded condition.  Here the state that `classifyNode` reads from
them is compared with the return that the daemon's reconcile has taken.
-/

namespace BootcOperator

open BootcNodeReconciler

/-- The state that stands for a return of `reconcileBootcNode`. -/
def ReconcileExit.state : ReconcileExit → NodeState
  | .degraded => .degraded
  | .desiredBooted => .upToDate
  | .action .stage | .action .awaitStage => .staging
  | .action .awaitBooted => .staged
  | .action .reboot => .rebooting

section

variable (bn : BootcNode) (now : Time)

theorem isStatusConditionTrue_setDegraded (degradedMsg : String) :
    isStatusConditionTrue
        (setDegraded bn now degradedMsg).status.conditions nodeDegraded =
      decide (degradedMsg ≠ "") := by
  refine (isStatusConditionPresentAndEqual_setStatusCondition now
    (degradedUpdate bn.generation degradedMsg) _ _).trans ?_
  simp [degradedUpdate]

theorem findStatusCondition_idle_setDegraded (degradedMsg : String) :
    findStatusCondition
        (setDegraded bn now degradedMsg).status.conditions nodeIdle =
      findStatusCondition bn.status.conditions nodeIdle :=
  findStatusCondition_setStatusCondition_of_ne
    (show nodeIdle ≠ nodeDegraded by decide)

/-- The `Idle` condition of a reconcile that has something to do. -/
theorem exists_idle_setActive (reason degradedMsg : String) :
    ∃ idle,
      findStatusCondition
        (setDegraded (setActive bn now reason) now
          degradedMsg).status.conditions nodeIdle = some idle ∧
      idle.status = .conditionFalse ∧ idle.reason = reason := by
  rw [findStatusCondition_idle_setDegraded]
  exact exists_findStatusCondition_setStatusCondition now
    (activeUpdate bn.generation reason) bn.status.conditions

theorem updateProgress_setActive (reason degradedMsg : String) :
    updateProgress
        (setDegraded (setActive bn now reason) now
          degradedMsg).status.conditions =
      activeState reason := by
  obtain ⟨idle, found, status, sameReason⟩ :=
    exists_idle_setActive bn now reason degradedMsg
  simp only [updateProgress, isStatusConditionFalse,
    isStatusConditionPresentAndEqual, found, status, decide_true, if_true]
  exact congrArg activeState sameReason

end

theorem activeState_reasonOf (action : UpdateAction) :
    activeState (reasonOf action) = (ReconcileExit.action action).state := by
  cases action <;> decide

theorem reported_booted
    (orig : BootcNode) (now : Time) (inner : BootcNodeOutcome) :
    (reported orig now inner).status.booted =
      inner.bootcNode.status.booted :=
  rfl

/-- Each return of `reconcileBootcNode` is reported as the state that stands
for it. -/
theorem classifyNode_reported
    {lib : ReferenceLibrary} {input : ReconcileInput}
    {r : BootcNodeReconciler} {orig : BootcNode} {inner : BootcNodeOutcome}
    (takes : Takes lib input r (started orig input.now) inner) :
    classifyNode lib (reported orig input.now inner) =
      .ok inner.exit.state := by
  have degradedSignal :
      isStatusConditionTrue
          (reported orig input.now inner).status.conditions nodeDegraded =
        decide (inner.result.degradedMsg ≠ "") :=
    isStatusConditionTrue_setDegraded _ _ _
  by_cases isDegraded : inner.exit = .degraded
  · have message := takes.result_spec.1.mpr isDegraded
    simp [classifyNode, degradedSignal, message, isDegraded,
      ReconcileExit.state]
  · have healthy :
        isStatusConditionTrue
          (reported orig input.now inner).status.conditions
          nodeDegraded = false := by
      rw [degradedSignal]
      exact decide_eq_false (mt takes.result_spec.1.mp isDegraded)
    cases takes with
    | unreadable _ _ => exact absurd rfl isDegraded
    | noBooted _ _ => exact absurd rfl isDegraded
    | invalid _ _ _ _ => exact absurd rfl isDegraded
    | stageFailed _ _ _ _ => exact absurd rfl isDegraded
    | booted _ comparable isBooted =>
        rw [classifyNode_of_comparable _ healthy
          (by rw [reported_booted]; exact comparable.booted)
          comparable.desired, reported_booted]
        exact if_pos isBooted
    | acts _ comparable notBooted _ =>
        rw [classifyNode_of_comparable _ healthy
          (by rw [reported_booted]; exact comparable.booted)
          comparable.desired, reported_booted]
        refine (if_neg (ne_true_of_eq_false notBooted)).trans ?_
        exact congrArg Except.ok
          ((updateProgress_setActive _ _ _ _).trans
            (activeState_reasonOf _))

/-- A `Reconcile` that has persisted its status left `inner` in the stored
BootcNode. -/
theorem bootcNode_of_persisted
    {lib : ReferenceLibrary} {input : ReconcileInput} {r : BootcNodeReconciler}
    {bn : BootcNode} {inner : BootcNodeOutcome}
    (persisted : (r.reconcile lib input (some bn)).persisted = some inner) :
    Takes lib input r (started bn input.now) inner ∧
      (r.reconcile lib input (some bn)).bootcNode =
        some (reported bn input.now inner) := by
  have reconciles := reconcile_reconciles lib input r (some bn)
  generalize r.reconcile lib input (some bn) = outcome at *
  cases reconciles with
  | skipped _ => simp at persisted
  | failed => simp at persisted
  | unpatched _ _ => simp at persisted
  | persisted runs =>
      obtain ⟨_, _, stored, takes⟩ := runs
      cases stored
      rw [issueReboot_persisted, persistedOutcome,
        Option.some.injEq] at persisted
      subst persisted
      exact ⟨takes, issueReboot_bootcNode _ _ _⟩

/-- When a `Reconcile` of the daemon persists its status, the controller
classifies the resulting BootcNode without error, as degraded exactly when the
daemon reported a degraded message, as up to date exactly when it found the
desired image booted, as staging exactly when it started or awaits a stage, as
staged exactly when it awaits approval, and as rebooting exactly when it is
about to reboot; never as pending. -/
theorem classifyNode_of_daemon_reconcile
    (lib : ReferenceLibrary) (input : ReconcileInput) (r : BootcNodeReconciler)
    (bn : BootcNode) (inner : BootcNodeOutcome)
    (persisted : (r.reconcile lib input (some bn)).persisted = some inner) :
    ∃ after state,
      (r.reconcile lib input (some bn)).bootcNode = some after ∧
      classifyNode lib after = .ok state ∧
      (state = .degraded ↔ inner.result.degradedMsg ≠ "") ∧
      (state = .upToDate ↔ inner.exit = .desiredBooted) ∧
      (state = .staging ↔
        inner.exit = .action .stage ∨ inner.exit = .action .awaitStage) ∧
      (state = .staged ↔ inner.exit = .action .awaitBooted) ∧
      (state = .rebooting ↔ inner.result.needsReboot = true) ∧
      state ≠ .pending := by
  obtain ⟨takes, stored⟩ := bootcNode_of_persisted persisted
  obtain ⟨message, reboot⟩ := takes.result_spec
  refine ⟨_, _, stored, classifyNode_reported takes, ?_⟩
  rw [message, reboot]
  cases inner.exit with
  | degraded => simp [ReconcileExit.state]
  | desiredBooted => simp [ReconcileExit.state]
  | action action => cases action <;> simp [ReconcileExit.state]

/-- A node that runs `os@a` and is asked for `os@b`. -/
def retargetedNode : BootcNode :=
  { generation := 2
    annotations := .empty
    ownerReferences := []
    spec :=
      { desiredImage := "os@b"
        desiredImageState := .staged
        pullSecretRef := none
        rebootPolicy := none }
    status :=
      { observedGeneration := 1
        booted := none
        staged := none
        rollback := none
        conditions := [] } }

def bootEntry (image digest : String) : BootEntry :=
  { image := some
      { image := image
        version := none
        timestamp := none
        imageDigest := digest
        architecture := "amd64" }
    incompatible := false
    softRebootCapable := false }

/-- Surroundings in which every call succeeds and no `run` call moves. -/
def calmInput (host : HostStatus) : ReconcileInput :=
  { request := "n"
    now := 0
    getError := none
    status := .ok host
    secret := .error "not found"
    writeAuthError := none
    patchError := none
    rebootError := none
    gap := fun _ => [] }

def freshReconciler : BootcNodeReconciler :=
  { nodeName := "n"
    inflight := .initial
    rebootIssued := false
    authFile := none }

/-- The daemon that begins to stage is seen as staging. -/
theorem classifyNode_of_daemon_reconcile_staging :
    ∃ after,
      (freshReconciler.reconcile osLibrary
        (calmInput ⟨none, some (bootEntry "os@a" "a"), none⟩)
        (some retargetedNode)).bootcNode = some after ∧
      classifyNode osLibrary after = .ok .staging := by
  obtain ⟨after, state, stored, classified, _, _, staging, _⟩ :=
    classifyNode_of_daemon_reconcile osLibrary
      (calmInput ⟨none, some (bootEntry "os@a" "a"), none⟩)
      freshReconciler retargetedNode _ rfl
  have isStaging : state = .staging := staging.mpr (.inl rfl)
  subst isStaging
  exact ⟨after, stored, classified⟩

end BootcOperator
