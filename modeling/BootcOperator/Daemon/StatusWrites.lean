import BootcOperator.Agreement
import Mathlib.Tactic.FinCases

/-!
# Status writes of the daemon

`Reconcile` first sets `Idle=True` and only later, when there is work to do,
`Idle=False`.  `SetStatusCondition` moves the transition time at each of the
two changes, so a node that stays active gets a new transition time, and with
it a status patch, from every reconcile.  So does a node whose boot entries
have timestamps, as they never equal the persisted ones in memory.
-/

namespace BootcOperator

/-- Two conditions agree in everything but the transition time. -/
structure Condition.Agrees (new old : Condition) : Prop where
  status : new.status = old.status
  reason : new.reason = old.reason
  message : new.message = old.message
  observedGeneration : new.observedGeneration = old.observedGeneration

section

variable {now : Time} {existing : Condition}

theorem setStatusCondition_once
    {new : ConditionUpdate} {conditions : List Condition}
    (found : findStatusCondition conditions new.type = some existing)
    (restored : new.apply now existing = existing) :
    setStatusCondition now new conditions = conditions := by
  induction conditions with
  | nil => cases found
  | cons head rest ih =>
      by_cases same : head.type = new.type
      · have isHead : head = existing := by
          simpa [findStatusCondition, same] using found
        subst isHead
        simp [setStatusCondition, same, restored]
      · have later :
            findStatusCondition rest new.type = some existing := by
          simpa [findStatusCondition, same] using found
        simp [setStatusCondition, same, ih later]

/-- An update to the values a condition has keeps its transition time. -/
theorem ConditionUpdate.apply_of_agrees
    {new : ConditionUpdate} (agrees : (new.apply now existing).Agrees existing) :
    new.apply now existing = existing := by
  obtain ⟨status, reason, message, generation⟩ := agrees
  simp only [ConditionUpdate.apply] at status reason message generation
  simp [ConditionUpdate.apply, status, reason, message, generation]

/-- A condition that leaves its status and comes back gets a new transition
time. -/
theorem ConditionUpdate.lastTransitionTime_apply_apply
    {first second : ConditionUpdate} (left : existing.status ≠ first.status) :
    (second.apply now (first.apply now existing)).lastTransitionTime =
      now := by
  simp [ConditionUpdate.apply, left]

end

namespace BootcNodeReconciler

/-! ## The conditions a reconcile computes -/

section Conditions

variable {lib : ReferenceLibrary} {input : ReconcileInput}
  {r : BootcNodeReconciler} {orig : BootcNode} {inner : BootcNodeOutcome}
  {now : Time}

/-- The condition list before `Degraded` is set: `Idle=True` alone, or
`Idle=True` and then `Idle=False` when there is something to do. -/
inductive IdleUpdates (now : Time) (generation : Int)
    (conditions : List Condition) : Bool → List Condition → Prop
  | idle :
      IdleUpdates now generation conditions false
        (setStatusCondition now (idleUpdate generation) conditions)
  | active (reason : String) :
      IdleUpdates now generation conditions true
        (setStatusCondition now (activeUpdate generation reason)
          (setStatusCondition now (idleUpdate generation) conditions))

theorem Takes.idleUpdates
    (takes : Takes lib input r (started orig input.now) inner) :
    IdleUpdates input.now orig.generation orig.status.conditions
        inner.exit.isAction inner.bootcNode.status.conditions ∧
      inner.bootcNode.status.observedGeneration = orig.generation ∧
      inner.bootcNode.generation = orig.generation := by
  cases takes with
  | unreadable _ _ => exact ⟨.idle, rfl, rfl⟩
  | noBooted _ _ => exact ⟨.idle, rfl, rfl⟩
  | invalid _ _ _ _ => exact ⟨.idle, rfl, rfl⟩
  | booted _ _ _ => exact ⟨.idle, rfl, rfl⟩
  | stageFailed _ _ _ _ => exact ⟨.idle, rfl, rfl⟩
  | acts _ _ _ _ => exact ⟨.active _, rfl, rfl⟩

theorem reported_conditions
    (generation : inner.bootcNode.generation = orig.generation) :
    (reported orig now inner).status.conditions =
      setStatusCondition now
        (degradedUpdate orig.generation inner.result.degradedMsg)
        inner.bootcNode.status.conditions := by
  rw [← generation]
  rfl

/-- The computed `Idle` condition is the one set before `Degraded`. -/
theorem findStatusCondition_reported_idle :
    findStatusCondition (reported orig now inner).status.conditions
        nodeIdle =
      findStatusCondition inner.bootcNode.status.conditions nodeIdle :=
  findStatusCondition_idle_setDegraded _ _ _

/-- The persisted `Idle` condition is not False. -/
def IdleSettled (conditions : List Condition) : Prop :=
  ∀ idle, findStatusCondition conditions nodeIdle = some idle →
    idle.status ≠ .conditionFalse

/-- Where the `Idle` updates compute the values that are there, they change
nothing if `Idle` is settled, and take the time of the clock otherwise. -/
theorem IdleUpdates.repeated
    {generation : Int} {conditions updated : List Condition} {active : Bool}
    (updates : IdleUpdates now generation conditions active updated)
    {new old : Condition}
    (found : findStatusCondition conditions nodeIdle = some old)
    (computed : findStatusCondition updated nodeIdle = some new)
    (agrees : new.Agrees old) :
    (IdleSettled conditions ∧ active = false ∧ updated = conditions ∧
        (idleUpdate generation).transitions conditions = false) ∨
      (¬ IdleSettled conditions ∧ active = true ∧
        new.lastTransitionTime = now) := by
  have first := findStatusCondition_setStatusCondition now
    (idleUpdate generation) conditions
  rw [show (idleUpdate generation).type = nodeIdle from rfl, found] at first
  cases updates with
  | idle =>
      have isNew := Option.some.inj (computed.symm.trans first)
      subst isNew
      have isTrue : old.status = .conditionTrue := agrees.status.symm
      refine .inl ⟨fun idle isIdle => ?_, rfl,
        setStatusCondition_once found (ConditionUpdate.apply_of_agrees agrees),
        ?_⟩
      · rw [found, Option.some.injEq] at isIdle
        simp [← isIdle, isTrue]
      · unfold ConditionUpdate.transitions
        rw [show (idleUpdate generation).type = nodeIdle from rfl, found]
        simp [isTrue, idleUpdate]
  | active reason =>
      have second := findStatusCondition_setStatusCondition now
        (activeUpdate generation reason)
        (setStatusCondition now (idleUpdate generation) conditions)
      rw [show (activeUpdate generation reason).type = nodeIdle from rfl,
        first, computed, Option.some.injEq] at second
      subst second
      have isFalse : old.status = .conditionFalse := agrees.status.symm
      exact .inr ⟨fun settled => settled old found isFalse, rfl,
        ConditionUpdate.lastTransitionTime_apply_apply (by
          simp [isFalse, idleUpdate])⟩

end Conditions

/-! ## The patch -/

/-- A `Reconcile` of this node that gets to read its BootcNode. -/
structure Due (input : ReconcileInput) (r : BootcNodeReconciler) : Prop where
  request : input.request = r.nodeName
  notIssued : r.rebootIssued = false
  read : input.getError = none

/-- `Reconcile` computes the boot entries and, transition times apart, the
conditions that are persisted already. -/
structure Repeats (lib : ReferenceLibrary) (input : ReconcileInput)
    (r : BootcNodeReconciler) (orig : BootcNode) (inner : BootcNodeOutcome) :
    Prop where
  returned :
    r.reconcileBootcNode lib input (started orig input.now) = some inner
  booted : (reported orig input.now inner).status.booted =
    orig.status.booted
  staged : (reported orig input.now inner).status.staged =
    orig.status.staged
  rollback : (reported orig input.now inner).status.rollback =
    orig.status.rollback
  conditions : ∀ type ∈ [nodeIdle, nodeDegraded], ∃ new old,
    findStatusCondition (reported orig input.now inner).status.conditions
      type = some new ∧
    findStatusCondition orig.status.conditions type = some old ∧
    new.Agrees old

/-- When the condition last changed. -/
def transitionTime (bn : BootcNode) (type : String) : Option Time :=
  (findStatusCondition bn.status.conditions type).map
    (·.lastTransitionTime)

/-- The reconcile found its status persisted already: it went on without a
patch, with both transition times as they were. -/
structure WritesNothing (orig : BootcNode) (now : Time)
    (inner : BootcNodeOutcome) (outcome : ReconcileOutcome) : Prop where
  persisted : outcome.persisted = some inner
  unpatched : outcome.patched = false
  times : ∀ type ∈ [nodeIdle, nodeDegraded],
    transitionTime (reported orig now inner) type =
      transitionTime orig type

/-- The host reports no boot entry with a timestamp. -/
def Untimed (input : ReconcileInput) : Prop :=
  ∀ host, input.status = .ok host → host.hasTimestamp = false

section Patch

variable {lib : ReferenceLibrary} {input : ReconcileInput}
  {r : BootcNodeReconciler} {orig : BootcNode} {inner : BootcNodeOutcome}

theorem Repeats.reconcile_eq
    (repeats : Repeats lib input r orig inner) (due : Due input r) :
    r.reconcile lib input (some orig) =
      if input.patchError ≠ none ∧
          statusChanged input orig inner (reported orig input.now inner) then
        { result := .error ("patching BootcNode status: " ++
            input.patchError.getD "")
          reconciler := atReturn input inner
          bootcNode := some orig }
      else issueReboot input inner (persistedOutcome input orig inner) := by
  have returned := repeats.returned
  simp only [started] at returned
  simp only [reconcile, due.request, due.notIssued, due.read, ne_eq,
    not_true_eq_false, if_false, Bool.false_eq_true, reconcileFound,
    returned]
  cases input.patchError with
  | none =>
      rw [if_neg (by simp)]
      rfl
  | some err =>
      by_cases changed :
          statusChanged input orig inner (reported orig input.now inner)
      · rw [if_pos ⟨by simp, changed⟩]
        exact if_pos changed
      · rw [if_neg (by simp [changed])]
        exact if_neg changed

theorem issueReboot_patched (outcome : ReconcileOutcome) :
    (issueReboot input inner outcome).patched = outcome.patched := by
  unfold issueReboot
  cases input.rebootError <;> split <;> rfl

theorem bringsTime_eq_false :
    bringsTime input orig inner = false ↔
      Untimed input ∧
        (idleUpdate orig.generation).transitions orig.status.conditions =
          false ∧
        inner.exit.isAction = false ∧
        (degradedUpdate orig.generation
          inner.result.degradedMsg).transitions
            inner.bootcNode.status.conditions = false := by
  unfold bringsTime Untimed
  cases input.status <;> simp [and_assoc]

/-- Without a change the computed status is the persisted one. -/
theorem statusChanged_eq_false :
    statusChanged input orig inner (reported orig input.now inner) = false ↔
      (reported orig input.now inner).status = orig.status ∧
        bringsTime input orig inner = false := by
  simp [statusChanged]

/-- No patch is issued exactly when `DeepEqual` sees no change. -/
theorem Repeats.writesNothing_iff
    (repeats : Repeats lib input r orig inner) (due : Due input r) :
    WritesNothing orig input.now inner
        (r.reconcile lib input (some orig)) ↔
      statusChanged input orig inner (reported orig input.now inner) =
        false := by
  rw [repeats.reconcile_eq due]
  constructor
  · rintro ⟨persisted, unpatched, _⟩
    split at persisted
    · cases persisted
    · next notFailed =>
        rw [if_neg notFailed, issueReboot_patched] at unpatched
        exact unpatched
  · intro unchanged
    rw [if_neg (by simp [unchanged])]
    refine ⟨?_, ?_, ?_⟩
    · rw [issueReboot_persisted]
      rfl
    · rw [issueReboot_patched]
      exact unchanged
    · intro type _
      rw [transitionTime, transitionTime,
        (statusChanged_eq_false.mp unchanged).1]

/-- With the `Idle` condition settled, a repeated status has the persisted
conditions, and none of them takes the time of the clock. -/
theorem Repeats.conditions_eq
    (repeats : Repeats lib input r orig inner)
    (restored : inner.bootcNode.status.conditions = orig.status.conditions) :
    (reported orig input.now inner).status.conditions =
        orig.status.conditions ∧
      (degradedUpdate orig.generation inner.result.degradedMsg).transitions
        inner.bootcNode.status.conditions = false := by
  obtain ⟨_, _, generation⟩ :=
    (reconcileBootcNode_takes repeats.returned).idleUpdates
  obtain ⟨new, old, computed, found, agrees⟩ :=
    repeats.conditions nodeDegraded (by simp)
  have isDegraded : (degradedUpdate orig.generation
      inner.result.degradedMsg).type = nodeDegraded := rfl
  rw [reported_conditions generation, restored] at computed ⊢
  rw [← isDegraded] at computed found
  rw [findStatusCondition_setStatusCondition, found, Option.some.injEq]
    at computed
  subst computed
  refine ⟨setStatusCondition_once found
    (ConditionUpdate.apply_of_agrees agrees), ?_⟩
  unfold ConditionUpdate.transitions
  rw [found]
  exact decide_eq_false (not_not.mpr agrees.status.symm)

/-- A repeated status is left alone exactly when the generation was observed,
`Idle` is settled and no boot entry has a timestamp. -/
theorem Repeats.unchanged_iff
    (repeats : Repeats lib input r orig inner) :
    (statusChanged input orig inner (reported orig input.now inner) =
          false ↔
        orig.status.observedGeneration = orig.generation ∧
          IdleSettled orig.status.conditions ∧ Untimed input) ∧
      (IdleSettled orig.status.conditions →
        transitionTime (reported orig input.now inner) nodeIdle =
          transitionTime orig nodeIdle) ∧
      (¬ IdleSettled orig.status.conditions →
        transitionTime (reported orig input.now inner) nodeIdle =
          some input.now) := by
  obtain ⟨updates, observed, _⟩ :=
    (reconcileBootcNode_takes repeats.returned).idleUpdates
  obtain ⟨new, old, computed, found, agrees⟩ :=
    repeats.conditions nodeIdle (by simp)
  have sameObserved :
      (reported orig input.now inner).status.observedGeneration =
        orig.generation := observed
  have innerIdle := computed
  rw [findStatusCondition_reported_idle] at innerIdle
  rw [statusChanged_eq_false, bringsTime_eq_false]
  rcases updates.repeated found innerIdle agrees with
    ⟨settled, idle, restored, kept⟩ | ⟨unsettled, active, moved⟩
  · obtain ⟨sameConditions, keptDegraded⟩ := repeats.conditions_eq restored
    refine ⟨⟨fun ⟨same, untimed, _⟩ => ?_,
      fun ⟨observedBefore, _, untimed⟩ => ?_⟩,
      fun _ => by rw [transitionTime, transitionTime, sameConditions],
      fun unsettled => absurd settled unsettled⟩
    · exact ⟨by rw [← same, sameObserved], settled, untimed⟩
    · have fields : ∀ a b : BootcNodeStatus,
          a.observedGeneration = b.observedGeneration →
          a.booted = b.booted → a.staged = b.staged →
          a.rollback = b.rollback → a.conditions = b.conditions →
          a = b := by
        rintro ⟨⟩ ⟨⟩
        simp_all
      exact ⟨fields _ _ (sameObserved.trans observedBefore.symm)
        repeats.booted repeats.staged repeats.rollback sameConditions,
        untimed, kept, idle, keptDegraded⟩
  · refine ⟨⟨fun ⟨_, _, _, idle, _⟩ => ?_,
      fun ⟨_, settled, _⟩ => absurd settled unsettled⟩,
      fun settled => absurd settled unsettled,
      fun _ => by rw [transitionTime, computed, Option.map_some, moved]⟩
    rw [active] at idle
    cases idle

end Patch

/-- A reconcile that computes what is persisted writes nothing exactly when
the persisted status is of the current generation, its `Idle` condition is
not False and no boot entry has a timestamp; a False `Idle` gets the time of
the reconcile instead. -/
theorem status_write_idempotent_iff
    {lib : ReferenceLibrary} {input : ReconcileInput}
    {r : BootcNodeReconciler} {orig : BootcNode} {inner : BootcNodeOutcome}
    (due : Due input r) (repeats : Repeats lib input r orig inner) :
    (WritesNothing orig input.now inner
        (r.reconcile lib input (some orig)) ↔
      orig.status.observedGeneration = orig.generation ∧
        IdleSettled orig.status.conditions ∧ Untimed input) ∧
      (IdleSettled orig.status.conditions →
        transitionTime (reported orig input.now inner) nodeIdle =
          transitionTime orig nodeIdle) ∧
      (¬ IdleSettled orig.status.conditions →
        transitionTime (reported orig input.now inner) nodeIdle =
          some input.now) := by
  rw [repeats.writesNothing_iff due]
  exact repeats.unchanged_iff

def hostStagedB : HostStatus :=
  ⟨some (bootEntry "os@b" "b"), some (bootEntry "os@a" "a"), none⟩

/-- The reboot command fails. -/
def rebootFails (host : HostStatus) (now : Time) : ReconcileInput :=
  { calmInput host with now := now, rebootError := some "exit status 1" }

/-- The BootcNode after one pass over it. -/
def reconciledOnce (image : String) (host : HostStatus) : BootcNode :=
  let approved :=
    { retargetedNode with
      spec :=
        { retargetedNode.spec with
          desiredImage := image
          desiredImageState := .booted } }
  ((freshReconciler.reconcile osLibrary (rebootFails host 0)
    (some approved)).bootcNode).getD approved

/-- The node that is up to date repeats its status without a patch. -/
theorem idle_status_not_rewritten :
    ∃ inner,
      Repeats osLibrary (rebootFails hostStagedB 1) freshReconciler
        (reconciledOnce "os@a" hostStagedB) inner ∧
      WritesNothing (reconciledOnce "os@a" hostStagedB) 1 inner
        (freshReconciler.reconcile osLibrary (rebootFails hostStagedB 1)
          (some (reconciledOnce "os@a" hostStagedB))) := by
  obtain ⟨inner, repeats⟩ : ∃ inner,
      Repeats osLibrary (rebootFails hostStagedB 1) freshReconciler
        (reconciledOnce "os@a" hostStagedB) inner := by
    refine ⟨_, rfl, by decide, by decide, by decide, fun type member => ?_⟩
    fin_cases member <;> exact ⟨_, _, rfl, rfl, rfl, rfl, rfl, rfl⟩
  have due : Due (rebootFails hostStagedB 1) freshReconciler :=
    ⟨rfl, rfl, rfl⟩
  refine ⟨_, repeats, (status_write_idempotent_iff due repeats).1.mpr
    ⟨by decide, fun idle found isFalse => ?_, fun host isHost => ?_⟩⟩
  · cases found
    cases isFalse
  · cases isHost
    decide

/-- A host whose image has a timestamp. -/
def hostTimed : HostStatus :=
  ⟨none,
    some
      { bootEntry "os@a" "a" with
        image := (bootEntry "os@a" "a").image.map fun img =>
          { img with timestamp := some 0 } },
    none⟩

/-- A reboot command that keeps failing: the second reconcile computes the
persisted status, patches it all the same and moves the transition time from
0 to 1.  An idle node is patched again because of a timestamp. -/
theorem rebooting_status_rewritten :
    (∃ inner,
      Due (rebootFails hostStagedB 1) freshReconciler ∧
      Repeats osLibrary (rebootFails hostStagedB 1) freshReconciler
        (reconciledOnce "os@b" hostStagedB) inner ∧
      (freshReconciler.reconcile osLibrary (rebootFails hostStagedB 1)
        (some (reconciledOnce "os@b" hostStagedB))).patched = true ∧
      transitionTime (reconciledOnce "os@b" hostStagedB) nodeIdle =
        some 0 ∧
      transitionTime
        (reported (reconciledOnce "os@b" hostStagedB) 1 inner) nodeIdle =
        some 1 ∧
      inner.result.needsReboot = true) ∧
    ∃ inner,
      Due (rebootFails hostTimed 1) freshReconciler ∧
      Repeats osLibrary (rebootFails hostTimed 1) freshReconciler
        (reconciledOnce "os@a" hostTimed) inner ∧
      inner.exit = .desiredBooted ∧
      (freshReconciler.reconcile osLibrary (rebootFails hostTimed 1)
        (some (reconciledOnce "os@a" hostTimed))).patched = true := by
  constructor
  · refine ⟨_, ⟨rfl, rfl, rfl⟩,
      ⟨rfl, by decide, by decide, by decide, fun type member => ?_⟩,
      by decide, by decide, by decide, by decide⟩
    fin_cases member <;> exact ⟨_, _, rfl, rfl, rfl, rfl, rfl, rfl⟩
  · refine ⟨_, ⟨rfl, rfl, rfl⟩,
      ⟨rfl, by decide, by decide, by decide, fun type member => ?_⟩,
      rfl, by decide⟩
    fin_cases member <;> exact ⟨_, _, rfl, rfl, rfl, rfl, rfl, rfl⟩

end BootcNodeReconciler

end BootcOperator
