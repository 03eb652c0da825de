import BootcOperator.Daemon.Reconciler

/-!
# The exits of the daemon's reconcile

`reconcileBootcNode_takes` says once what `reconcileBootcNode` can do: it is
the inversion of the function, with the conditions under which each return is
reached.  `reconcile_reconciles` does the same for `Reconcile` around it.
-/

namespace BootcOperator

namespace BootcNodeReconciler

variable {input : ReconcileInput} {lib : ReferenceLibrary}
  {r : BootcNodeReconciler} {bn : BootcNode} {inner : BootcNodeOutcome}

/-- The host reports a booted entry and the desired image is a digest
reference, so that the two can be compared. -/
structure Comparable (lib : ReferenceLibrary) (host : HostStatus)
    (bn : BootcNode) (digest : String) : Prop where
  booted : convertBootEntry host.booted ≠ none
  desired : lib.digestOf bn.spec.desiredImage = some digest

/-- What `takeErr` returns and leaves. -/
def afterTakeErr (r : BootcNodeReconciler) (input : ReconcileInput) :
    Option String × StageOp :=
  (r.inflight.interleave (input.gap .takeErr)).takeErr

/-- The reconciler when the action is chosen. -/
def beforeAction (r : BootcNodeReconciler) (input : ReconcileInput)
    (bn : BootcNode) : BootcNodeReconciler :=
  { r with
    inflight := (r.afterTakeErr input).2.interleave (input.gap .isInFlight)
    authFile := syncPullSecret input bn r.authFile }

/-- The action that a pass chooses. -/
def nextAction (r : BootcNodeReconciler) (lib : ReferenceLibrary)
    (input : ReconcileInput) (host : HostStatus) (bn : BootcNode)
    (digest : String) : UpdateAction :=
  classifyAction lib (r.beforeAction input (reportHost host bn)).inflight
    (reportHost host bn) digest bn.spec.desiredImage

/-- How a pass ends that comes to its action. -/
def actionOutcome (r : BootcNodeReconciler) (lib : ReferenceLibrary)
    (input : ReconcileInput) (host : HostStatus) (bn : BootcNode)
    (digest : String) : BootcNodeOutcome :=
  (r.beforeAction input (reportHost host bn)).performAction input
    (reportHost host bn) bn.spec.desiredImage
    (r.nextAction lib input host bn digest)

/-- The returns of `reconcileBootcNode`. -/
inductive Takes (lib : ReferenceLibrary) (input : ReconcileInput)
    (r : BootcNodeReconciler) (bn : BootcNode) : BootcNodeOutcome → Prop
  | unreadable {err msg : String} :
      input.status = .error err → msg ≠ "" →
      Takes lib input r bn (r.degradedExit bn msg (some msg))
  | noBooted {host : HostStatus} {msg : String} :
      input.status = .ok host → msg ≠ "" →
      Takes lib input r bn
        (r.degradedExit (reportHost host bn) msg (some msg))
  | invalid {host : HostStatus} {msg : String} :
      input.status = .ok host → convertBootEntry host.booted ≠ none →
      lib.digestOf bn.spec.desiredImage = none → msg ≠ "" →
      Takes lib input r bn (r.degradedExit (reportHost host bn) msg none)
  | booted {host : HostStatus} {digest : String} :
      input.status = .ok host → Comparable lib host bn digest →
      infoMatchesDigest lib (convertBootEntry host.booted) digest = true →
      Takes lib input r bn
        { exit := .desiredBooted
          result := {}
          error := none
          bootcNode := reportHost host bn
          reconciler :=
            { r with
              inflight :=
                (r.inflight.interleave (input.gap .reset)).reset } }
  | stageFailed {host : HostStatus} {digest err : String}
      {delay : Duration} :
      input.status = .ok host → Comparable lib host bn digest →
      infoMatchesDigest lib (convertBootEntry host.booted) digest = false →
      (r.afterTakeErr input).1 = some err →
      Takes lib input r bn
        { exit := .degraded
          result :=
            { requeueAfter := delay
              degradedMsg := "bootc stage failed: " ++ err }
          error := none
          bootcNode := reportHost host bn
          reconciler :=
            { r with
              inflight :=
                (r.afterTakeErr input).2.interleave
                  (input.gap .backoff) } }
  | acts {host : HostStatus} {digest : String} :
      input.status = .ok host → Comparable lib host bn digest →
      infoMatchesDigest lib (convertBootEntry host.booted) digest = false →
      (r.afterTakeErr input).1 = none →
      Takes lib input r bn (r.actionOutcome lib input host bn digest)

theorem append_ne_empty {text : String} (rest : String)
    (nonempty : text ≠ "") : text ++ rest ≠ "" := by
  intro empty
  exact nonempty (String.append_eq_empty_iff.mp empty).1

theorem takes_of_reconcileDesired
    {host : HostStatus} {digest : String} {outcome : BootcNodeOutcome}
    (status : input.status = .ok host)
    (comparable : Comparable lib host bn digest)
    (returned : r.reconcileDesired lib input (reportHost host bn)
      bn.spec.desiredImage digest = some outcome) :
    Takes lib input r bn outcome := by
  unfold reconcileDesired at returned
  have sameBooted : (reportHost host bn).status.booted =
      convertBootEntry host.booted := rfl
  rw [sameBooted] at returned
  cases isBooted :
      infoMatchesDigest lib (convertBootEntry host.booted) digest with
  | true =>
      simp only [isBooted, if_true, Option.some.injEq] at returned
      subst returned
      exact .booted status comparable isBooted
  | false =>
      simp only [isBooted, Bool.false_eq_true, if_false] at returned
      have sameTaken :
          (r.inflight.interleave (input.gap .takeErr)).takeErr =
            ((r.afterTakeErr input).1, (r.afterTakeErr input).2) := rfl
      rw [sameTaken] at returned
      cases taken : (r.afterTakeErr input).1 with
      | some err =>
          simp only [taken, Option.map_eq_some_iff] at returned
          obtain ⟨delay, _, rfl⟩ := returned
          exact .stageFailed status comparable isBooted taken
      | none =>
          simp only [taken, Option.some.injEq] at returned
          subst returned
          exact .acts status comparable isBooted taken

theorem reconcileBootcNode_takes
    {outcome : BootcNodeOutcome}
    (returned : r.reconcileBootcNode lib input bn = some outcome) :
    Takes lib input r bn outcome := by
  unfold reconcileBootcNode at returned
  cases status : input.status with
  | error err =>
      simp only [populateBootcFields, status, Option.some.injEq] at returned
      subst returned
      exact .unreadable status (append_ne_empty _ (by decide))
  | ok host =>
      simp only [populateBootcFields, status] at returned
      split at returned
      · simp only [Option.some.injEq] at returned
        subst returned
        exact .noBooted status (by decide)
      · next booted =>
          have sameImage : (reportHost host bn).spec.desiredImage =
              bn.spec.desiredImage := rfl
          rw [sameImage] at returned
          cases parsed : lib.parseNamed bn.spec.desiredImage with
          | error err =>
              simp only [parsed, Option.some.injEq] at returned
              subst returned
              refine .invalid status booted ?_ ?_
              · simp [ReferenceLibrary.digestOf, parsed]
              · exact append_ne_empty _ (append_ne_empty _
                  (append_ne_empty _ (by decide)))
          | ok named =>
              cases digested : named.digest with
              | none =>
                  simp only [parsed, digested, Option.some.injEq] at returned
                  subst returned
                  refine .invalid status booted ?_ ?_
                  · simp [ReferenceLibrary.digestOf, parsed, digested]
                  · exact append_ne_empty _ (append_ne_empty _ (by decide))
              | some digest =>
                  have comparable : Comparable lib host bn digest :=
                    ⟨booted, by
                      simp [ReferenceLibrary.digestOf, parsed, digested]⟩
                  simp only [parsed, digested,
                    lib.text_of_parseNamed parsed] at returned
                  exact takes_of_reconcileDesired status comparable returned

/-- The degraded message, the pending reboot and the return belong
together. -/
theorem Takes.result_spec (takes : Takes lib input r bn inner) :
    (inner.result.degradedMsg ≠ "" ↔ inner.exit = .degraded) ∧
      (inner.result.needsReboot = true ↔
        inner.exit = .action .reboot) := by
  cases takes with
  | unreadable _ message => simp [degradedExit, message]
  | noBooted _ message => simp [degradedExit, message]
  | invalid _ _ _ message => simp [degradedExit, message]
  | booted _ _ _ => simp
  | stageFailed _ _ _ _ => simp
  | acts _ _ _ _ => simp [actionOutcome, performAction]

/-- The BootcNode that `Reconcile` hands to `reconcileBootcNode`. -/
def started (orig : BootcNode) (now : Time) : BootcNode :=
  setIdle
    { orig with
      status :=
        { orig.status with observedGeneration := orig.generation } } now

/-- The BootcNode with the status that `Reconcile` persists. -/
def reported (orig : BootcNode) (now : Time) (inner : BootcNodeOutcome) :
    BootcNode :=
  { orig with
    status :=
      (setDegraded inner.bootcNode now inner.result.degradedMsg).status }

/-- The reconciler once the pass has returned. -/
def atReturn (input : ReconcileInput) (inner : BootcNodeOutcome) :
    BootcNodeReconciler :=
  { inner.reconciler with
    inflight :=
      inner.reconciler.inflight.interleave (input.gap .atReturn) }

/-- How a pass ends whose status is stored. -/
def persistedOutcome (input : ReconcileInput) (orig : BootcNode)
    (inner : BootcNodeOutcome) : ReconcileOutcome :=
  { result :=
      match inner.error with
      | some err => .error err
      | none => .ok inner.result.requeueAfter
    reconciler := atReturn input inner
    bootcNode := some (reported orig input.now inner)
    persisted := some inner
    patched :=
      statusChanged input orig inner (reported orig input.now inner) }

/-- `Reconcile` has read the BootcNode `orig` and gets to
`reconcileBootcNode`, which returns `inner`. -/
structure Runs (lib : ReferenceLibrary) (input : ReconcileInput)
    (r : BootcNodeReconciler) (stored : Option BootcNode)
    (orig : BootcNode) (inner : BootcNodeOutcome) : Prop where
  request : input.request = r.nodeName
  notIssued : r.rebootIssued = false
  stored : stored = some orig
  takes : Takes lib input r (started orig input.now) inner

/-- The returns of `Reconcile`. -/
inductive Reconciles (lib : ReferenceLibrary) (input : ReconcileInput)
    (r : BootcNodeReconciler) (stored : Option BootcNode) :
    ReconcileOutcome → Prop
  | skipped :
      (input.request ≠ r.nodeName ∨ r.rebootIssued = true ∨
        stored = none) →
      Reconciles lib input r stored
        { result := .ok 0, reconciler := r, bootcNode := stored }
  | failed {err : String} :
      Reconciles lib input r stored
        { result := .error err, reconciler := r, bootcNode := stored }
  | unpatched {orig : BootcNode} {inner : BootcNodeOutcome}
      {err : String} :
      Runs lib input r stored orig inner → input.patchError ≠ none →
      Reconciles lib input r stored
        { result := .error err
          reconciler := atReturn input inner
          bootcNode := some orig }
  | persisted {orig : BootcNode} {inner : BootcNodeOutcome} :
      Runs lib input r stored orig inner →
      Reconciles lib input r stored
        (issueReboot input inner (persistedOutcome input orig inner))

theorem issueReboot_bootcNode
    (input : ReconcileInput) (inner : BootcNodeOutcome)
    (outcome : ReconcileOutcome) :
    (issueReboot input inner outcome).bootcNode = outcome.bootcNode := by
  unfold issueReboot
  cases input.rebootError <;> split <;> rfl

theorem issueReboot_persisted
    (input : ReconcileInput) (inner : BootcNodeOutcome)
    (outcome : ReconcileOutcome) :
    (issueReboot input inner outcome).persisted = outcome.persisted := by
  unfold issueReboot
  cases input.rebootError <;> split <;> rfl

theorem issueReboot_inflight
    (input : ReconcileInput) (inner : BootcNodeOutcome)
    (outcome : ReconcileOutcome) :
    (issueReboot input inner outcome).reconciler.inflight =
      outcome.reconciler.inflight := by
  unfold issueReboot
  cases input.rebootError <;> split <;> rfl

/-- The reboot turns no failure into a success. -/
theorem result_of_issueReboot
    {outcome : ReconcileOutcome} {requeueAfter : Duration}
    (success : (issueReboot input inner outcome).result = .ok requeueAfter) :
    outcome.result = .ok requeueAfter := by
  cases failure : input.rebootError with
  | none =>
      simp only [issueReboot, failure] at success
      split at success <;> exact success
  | some err =>
      simp only [issueReboot, failure] at success
      split at success
      · cases success
      · exact success

theorem reconcileFound_reconciles
    {orig : BootcNode} (request : input.request = r.nodeName)
    (notIssued : r.rebootIssued = false) :
    Reconciles lib input r (some orig)
      (r.reconcileFound lib input orig) := by
  unfold reconcileFound
  dsimp only
  rw [← started]
  cases returned :
      r.reconcileBootcNode lib input (started orig input.now) with
  | none =>
      exact .failed
  | some inner =>
      have runs : Runs lib input r (some orig) orig inner :=
        ⟨request, notIssued, rfl, reconcileBootcNode_takes returned⟩
      cases patchError : input.patchError with
      | none =>
          exact .persisted runs
      | some err =>
          simp only
          split
          · exact .unpatched runs (by simp [patchError])
          · exact .persisted runs

/-- A `Reconcile` whose status is persisted has read its BootcNode and got
through `reconcileBootcNode`. -/
theorem reconcile_of_persisted
    {stored : Option BootcNode}
    (persisted : (r.reconcile lib input stored).persisted = some inner) :
    ∃ orig, stored = some orig ∧ input.request = r.nodeName ∧
      r.rebootIssued = false ∧ input.getError = none ∧
      r.reconcileBootcNode lib input (started orig input.now) =
        some inner ∧
      r.reconcile lib input stored =
        issueReboot input inner (persistedOutcome input orig inner) := by
  by_cases other : input.request ≠ r.nodeName
  · simp [reconcile, other] at persisted
  · by_cases issued : r.rebootIssued = true
    · simp [reconcile, issued] at persisted
    · cases read : input.getError with
      | some err => simp [reconcile, other, issued, read] at persisted
      | none =>
          cases stored with
          | none => simp [reconcile, other, issued, read] at persisted
          | some orig =>
              refine ⟨orig, rfl, not_not.mp other,
                by simpa using issued, rfl, ?_⟩
              simp only [reconcile, other, issued, read, Bool.false_eq_true,
                if_false] at persisted ⊢
              unfold reconcileFound at persisted ⊢
              cases returned :
                  r.reconcileBootcNode lib input (started orig input.now) with
              | none =>
                  simp only [started] at returned
                  simp [returned] at persisted
              | some computed =>
                  simp only [started] at returned
                  simp only [returned] at persisted ⊢
                  cases patchError : input.patchError with
                  | none =>
                      simp only [patchError, issueReboot_persisted]
                        at persisted
                      cases persisted
                      exact ⟨rfl, rfl⟩
                  | some err =>
                      simp only [patchError] at persisted ⊢
                      split at persisted
                      · cases persisted
                      · next same =>
                          rw [issueReboot_persisted] at persisted
                          cases persisted
                          exact ⟨rfl, if_neg same⟩

theorem reconcile_reconciles
    (lib : ReferenceLibrary) (input : ReconcileInput)
    (r : BootcNodeReconciler) (stored : Option BootcNode) :
    Reconciles lib input r stored (r.reconcile lib input stored) := by
  unfold reconcile
  split
  · next other =>
      exact .skipped (.inl other)
  · next request =>
      split
      · next issued =>
          exact .skipped (.inr (.inl issued))
      · next notIssued =>
          cases input.getError with
          | some err =>
              exact .failed
          | none =>
              cases stored with
              | none =>
                  exact .skipped (.inr (.inr rfl))
              | some orig =>
                  exact reconcileFound_reconciles (by simpa using request)
                    (by simpa using notIssued)

end BootcNodeReconciler

end BootcOperator
