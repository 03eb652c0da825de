import BootcOperator.Daemon.InFlight
import BootcOperator.Daemon.StatusWrites

/-!
# Reboot commands

When the daemon gives `Executor.Reboot` or `Executor.ApplyUpdate`, what it has
read and persisted by then, and that nothing follows a command that
succeeded.
-/

namespace BootcOperator

/-- The status says that the host reboots. -/
def BootcNode.ShowsRebooting (bn : BootcNode) : Prop :=
  ∃ idle, findStatusCondition bn.status.conditions nodeIdle = some idle ∧
    idle.status = .conditionFalse ∧ idle.reason = nodeReasonRebooting

namespace BootcNodeReconciler

variable {input : ReconcileInput} {inner : BootcNodeOutcome}
  {command : RebootCommand} {lib : ReferenceLibrary} {r : BootcNodeReconciler}

/-- What a reconcile has read when it gives `command`: an approved BootcNode,
and from the watcher a host on which the desired image is staged and not
booted. -/
structure Approved (lib : ReferenceLibrary) (input : ReconcileInput)
    (stored : Option BootcNode) (command : RebootCommand) (bn : BootcNode)
    (host : HostStatus) (digest : String) : Prop where
  read : stored = some bn
  state : bn.spec.desiredImageState = .booted
  status : input.status = .ok host
  desired : lib.digestOf bn.spec.desiredImage = some digest
  staged :
    infoMatchesDigest lib (convertBootEntry host.staged) digest = true
  booted : convertBootEntry host.booted ≠ none
  notBooted :
    infoMatchesDigest lib (convertBootEntry host.booted) digest = false
  soft : command = .applyUpdate ↔
    bn.spec.rebootPolicy = some .allowSoftReboot

/-- The outcome is a command on top of an outcome without one, in which the
BootcNode in the API server shows Rebooting already. -/
def FollowsReport (input : ReconcileInput) (outcome : ReconcileOutcome) :
    Prop :=
  ∃ inner before after, outcome = issueReboot input inner before ∧
    before.command = none ∧ before.bootcNode = some after ∧
    after.ShowsRebooting

theorem issueReboot_command
    (needed : inner.result.needsReboot = true) (outcome : ReconcileOutcome) :
    (issueReboot input inner outcome).command =
      some (if inner.result.softReboot then .applyUpdate else .reboot) := by
  unfold issueReboot
  rw [if_pos needed]
  cases input.rebootError <;> rfl

theorem command_of_issueReboot
    {outcome : ReconcileOutcome} (silent : outcome.command = none)
    (commanded : (issueReboot input inner outcome).command = some command) :
    inner.result.needsReboot = true ∧
      (command = .applyUpdate ↔ inner.result.softReboot = true) := by
  by_cases needed : inner.result.needsReboot = true
  · rw [issueReboot_command needed, Option.some.injEq] at commanded
    subst commanded
    refine ⟨needed, ?_⟩
    split <;> simp_all
  · simp [issueReboot, needed, silent] at commanded

/-- The action is a reboot only for an approved node with its desired image
staged. -/
theorem approved_of_classifyAction
    {inflight : StageOp} {bn : BootcNode} {digest image : String}
    (reboots : classifyAction lib inflight bn digest image = .reboot) :
    infoMatchesDigest lib bn.status.staged digest = true ∧
      bn.spec.desiredImageState = .booted := by
  unfold classifyAction at reboots
  cases staged : infoMatchesDigest lib bn.status.staged digest with
  | false =>
      simp only [staged, Bool.false_eq_true, not_false_eq_true, if_true]
        at reboots
      split at reboots <;> cases reboots
  | true =>
      by_cases approved : bn.spec.desiredImageState = .booted
      · exact ⟨rfl, approved⟩
      · simp [staged, approved] at reboots

theorem showsRebooting_reported
    {orig bn : BootcNode} {now : Time}
    (active : inner.bootcNode = setActive bn now nodeReasonRebooting) :
    (reported orig now inner).ShowsRebooting := by
  unfold BootcNode.ShowsRebooting
  rw [findStatusCondition_reported_idle, active]
  exact exists_findStatusCondition_setStatusCondition now
    (activeUpdate bn.generation nodeReasonRebooting) bn.status.conditions

theorem approved_of_takes
    {orig : BootcNode}
    (takes : Takes lib input r (started orig input.now) inner)
    (needed : inner.result.needsReboot = true)
    (soft : command = .applyUpdate ↔ inner.result.softReboot = true) :
    (∃ host digest,
      Approved lib input (some orig) command orig host digest) ∧
      (reported orig input.now inner).ShowsRebooting := by
  cases takes with
  | unreadable _ _ => cases needed
  | noBooted _ _ => cases needed
  | invalid _ _ _ _ => cases needed
  | booted _ _ _ => cases needed
  | stageFailed _ _ _ _ => cases needed
  | @acts host digest status comparable notBooted _ =>
      have reboots : r.nextAction lib input host
          (started orig input.now) digest = .reboot :=
        of_decide_eq_true needed
      obtain ⟨staged, approved⟩ := approved_of_classifyAction reboots
      refine ⟨⟨host, digest, ?_⟩, ?_⟩
      · exact
          { read := rfl
            state := approved
            status := status
            desired := comparable.desired
            staged := staged
            booted := comparable.booted
            notBooted := notBooted
            soft := by
              rw [soft]
              simp only [actionOutcome, performAction, reboots, true_and,
                decide_eq_true_eq]
              rfl }
      · have active : (r.actionOutcome lib input host
            (started orig input.now) digest).bootcNode =
            setActive (reportHost host (started orig input.now)) input.now
              nodeReasonRebooting := by
          rw [actionOutcome, reboots]
          rfl
        exact showsRebooting_reported active

/-- After a successful command every `Reconcile` returns at once. -/
theorem reconcile_of_rebootIssued
    (issued : r.rebootIssued = true) (lib : ReferenceLibrary)
    (input : ReconcileInput) (stored : Option BootcNode) :
    r.reconcile lib input stored =
      { result := .ok 0, reconciler := r, bootcNode := stored } := by
  simp [reconcile, issued]

theorem approved_of_command
    {stored : Option BootcNode}
    (commanded : (r.reconcile lib input stored).command = some command) :
    (∃ bn host digest,
      Approved lib input stored command bn host digest) ∧
      FollowsReport input (r.reconcile lib input stored) := by
  have reconciles := reconcile_reconciles lib input r stored
  generalize r.reconcile lib input stored = outcome at *
  cases reconciles with
  | skipped _ => cases commanded
  | failed => cases commanded
  | unpatched _ _ => cases commanded
  | @persisted orig inner runs =>
      obtain ⟨needed, soft⟩ := command_of_issueReboot rfl commanded
      obtain ⟨⟨host, digest, approved⟩, shown⟩ :=
        approved_of_takes runs.takes needed soft
      rw [runs.stored]
      exact ⟨⟨orig, host, digest, approved⟩,
        inner, persistedOutcome input orig inner, _, rfl, rfl, rfl, shown⟩

theorem rebootIssued_of_command
    {stored : Option BootcNode}
    (commanded : (r.reconcile lib input stored).command = some command)
    (succeeded : input.rebootError = none) :
    (r.reconcile lib input stored).reconciler.rebootIssued = true := by
  obtain ⟨-, inner, before, after, isReboot, silent, -, -⟩ :=
    approved_of_command commanded
  rw [isReboot] at commanded ⊢
  obtain ⟨needed, -⟩ := command_of_issueReboot silent commanded
  simp [issueReboot, needed, succeeded]

end BootcNodeReconciler

namespace DaemonSystem

open BootcNodeReconciler

def afterReconcile (lib : ReferenceLibrary) (s : DaemonSystem)
    (input : ReconcileInput) : DaemonSystem :=
  { bootcNode := (s.reconcile lib input).bootcNode
    reconciler := (s.reconcile lib input).reconciler }

theorem rebootIssued_of_reaches
    {lib : ReferenceLibrary} {s s' : DaemonSystem}
    (issued : s.reconciler.rebootIssued = true)
    (reached : (machine lib).Reaches s s') :
    s'.reconciler.rebootIssued = true := by
  refine reached.invariant (fun s => s.reconciler.rebootIssued = true)
    ?_ issued
  intro s a s' issued stepped
  cases a with
  | change bootcNode =>
      cases stepped
      exact issued
  | run action =>
      simp only [machine, step] at stepped
      split at stepped
      · rw [Option.map_eq_some_iff] at stepped
        obtain ⟨inflight, _, rfl⟩ := stepped
        exact issued
      · cases stepped
  | reconcile input =>
      cases stepped
      simp only [reconcile, reconcile_of_rebootIssued issued]
      exact issued

/-- Every reboot command is approved, follows its report, and is the last
thing the reconciles do once it has succeeded.  Nothing is assumed of the
state, so this is about every run of the daemon. -/
theorem reboot_discipline
    {lib : ReferenceLibrary} {s : DaemonSystem}
    {input : ReconcileInput} {command : RebootCommand}
    (commanded : (s.reconcile lib input).command = some command) :
    (∃ bn host digest,
      Approved lib input s.bootcNode command bn host digest) ∧
      FollowsReport input (s.reconcile lib input) ∧
      (input.rebootError = none →
        ∀ later, (machine lib).Reaches (s.afterReconcile lib input) later →
          ∀ next : ReconcileInput,
            later.reconcile lib next =
              { result := .ok 0
                reconciler := later.reconciler
                bootcNode := later.bootcNode }) := by
  obtain ⟨approved, follows⟩ := approved_of_command commanded
  refine ⟨approved, follows, ?_⟩
  intro succeeded later reached next
  have issued : (s.afterReconcile lib input).reconciler.rebootIssued =
      true :=
    rebootIssued_of_command commanded succeeded
  exact reconcile_of_rebootIssued (rebootIssued_of_reaches issued reached)
    lib next later.bootcNode

/-- A node that is approved while it has `os@b` staged. -/
def approvedSystem : DaemonSystem :=
  initial "n" (some (reconciledOnce "os@b" hostStagedB))

/-- An approved reboot is issued once. -/
theorem reboot_discipline_approved :
    (approvedSystem.reconcile osLibrary (calmInput hostStagedB)).command =
        some .reboot ∧
      ∀ next : ReconcileInput,
        ((approvedSystem.afterReconcile osLibrary
          (calmInput hostStagedB)).reconcile osLibrary next).command =
            none := by
  have commanded : (approvedSystem.reconcile osLibrary
      (calmInput hostStagedB)).command = some .reboot := by
    decide
  obtain ⟨-, -, last⟩ := reboot_discipline commanded
  refine ⟨commanded, fun next => ?_⟩
  rw [last rfl _ (.refl _) next]

end DaemonSystem

end BootcOperator
