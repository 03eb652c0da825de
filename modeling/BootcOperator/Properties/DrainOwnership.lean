import BootcOperator.Effects.BootcNodes
import BootcOperator.Effects.Reconcile
import BootcOperator.Effects.Tables
import BootcOperator.Lib.Machine

/-!
# Whose drain it is

`r.drains` is shared by all pools and has only node names for keys, and every
`Reconcile` goes through the whole map.  A `Reconcile` that meets no finished
or overdue drain but those of its own nodes leaves the drains of the other
pools alone.  In runs of such `Reconcile`s every outcome reaches the owner.
-/

namespace BootcOperator

open BootcNodePoolReconciler

variable {w w' : World} {loud : Bool} {budget : Option Int}
  {outcome : DrainOutcome}

/-- The world of all pools, whose drains share one manager. -/
structure DrainRun where
  world : World
  /-- by node, the `DrainTakingTooLong` events of its current drain -/
  warnings : String → Nat

inductive DrainAction where
  | reconcile (env : Env) (request : String)
  /-- the goroutine of a drain sends its result -/
  | finish (name : String) (outcome : DrainOutcome)
  /-- users, daemons and other controllers leave this cluster behind -/
  | edit (api : Cluster)

def drainMachine (r : BootcNodePoolReconciler) :
    Machine DrainRun DrainAction where
  step s
    | .reconcile env request =>
        let after := (r.reconcile env request (.start s.world)).2
        some
          { world := after.world
            warnings := fun name =>
              warningsAfter name (s.warnings name) after.log }
    | .finish name outcome =>
        match s.world.drains name with
        | none => none
        | some status =>
            if status.outcome = .running ∧ outcome ≠ .running then
              some
                { s with
                  world :=
                    s.world.putDrain name
                      (some { status with outcome := outcome }) }
            else none
    | .edit api => some { s with world := { s.world with api := api } }

/-- A `Reconcile` reads what the API server holds. -/
def ReadsFresh (s : DrainRun) : DrainAction → Prop
  | .reconcile env _ => env.Faithful s.world
  | _ => True

/-- The pool controls the BootcNode of the node. -/
def OwnsNode (pool : BootcNodePool) (w : World) (name : String) : Prop :=
  ∃ bn, w.api.bootcNode name = some bn ∧ bn.isControlledBy pool = true

/-- A `Reconcile` of a pool meets no finished and no overdue drain of a node
that the pool does not own. -/
def MeetsOwnDrains (s : DrainRun) : DrainAction → Prop
  | .reconcile env request =>
      ∀ pool, s.world.api.pool request = some pool →
        ∀ name status, s.world.drains name = some status →
          status.outcome ≠ .running ∨ status.isOverdue env.now = true →
            OwnsNode pool s.world name
  | _ => True

/-- Reads are fresh, and the due drains that are met are the pool's own. -/
def OwnDrains (s : DrainRun) (action : DrainAction) : Prop :=
  ReadsFresh s action ∧ MeetsOwnDrains s action

/-! ## What a pass does to a drain -/

/-- The pass has cancelled the drain of the node. -/
def Cancelled (name : String) (log : List Entry) : Prop :=
  ∃ entry ∈ log, entry.action = .cancelDrain name

/-- The pass has started a drain of the node. -/
def Restarted (name : String) (log : List Entry) : Prop :=
  ∃ entry ∈ log, entry.action = .startDrain name

/-- The pass has stored the approval of the node's reboot. -/
def Approved (name : String) (log : List Entry) : Prop :=
  ∃ entry ∈ log, entry.action = .wrote (.approve name) ∧
    ∃ bn, entry.after.api.bootcNode name = some bn ∧
      bn.spec.desiredImageState = .booted

/-- The pass has announced on its pool that the drain failed. -/
def Reported (pool : BootcNodePool) (name err : String) (log : List Entry) :
    Prop :=
  ∃ entry ∈ log, entry.action = .event (drainFailedEvent pool name err)

section Log

variable {name : String} {log : List Entry} {entry : Entry}

theorem exists_mem_append
    {P : Entry → Prop} (holds : ∃ e ∈ log, P e) (later : List Entry) :
    ∃ e ∈ log ++ later, P e := by
  obtain ⟨e, member, isP⟩ := holds
  exact ⟨e, List.mem_append_left later member, isP⟩

theorem exists_mem_append_self
    {P : Entry → Prop} (log : List Entry) (holds : P entry) :
    ∃ e ∈ log ++ [entry], P e :=
  ⟨entry, by simp, holds⟩

theorem not_restarted_append
    (fresh : ¬ Restarted name log)
    (other : entry.action.startsDrain name = false) :
    ¬ Restarted name (log ++ [entry]) := by
  rintro ⟨e, member, starts⟩
  rcases List.mem_append.mp member with earlier | last
  · exact fresh ⟨e, earlier, starts⟩
  · rw [List.mem_singleton.mp last] at starts
    simp [Action.startsDrain, starts] at other

end Log

section Pass

variable {c : PassContext} {name : String} {seen seen' : Seen}

/-- A finished drain of an owned node that waits to be collected. -/
structure Waiting (c : PassContext) (name : String) (outcome : DrainOutcome)
    (w : World) : Prop where
  entry : ∃ status, w.drains name = some status ∧
    status.outcome = outcome ∧ status.cancelled = false
  owned : ∃ bn, Owns c w name bn

/-- What can happen to a finished drain of an owned node. -/
theorem Waiting.effect
    {action : Action} (waiting : Waiting c name outcome w)
    (effect : Effect c budget action w w') :
    (Waiting c name outcome w' ∧ action.startsDrain name = false) ∨
      action = .cancelDrain name ∨
      (outcome = .succeeded ∧
        (action = .wrote (.approve name) ∨
          c.env.fails (.approve name) ≠ none)) ∨
      ∃ err, outcome = .failed err ∧
        action = .event (drainFailedEvent c.pool name err) := by
  obtain ⟨⟨status, entry, isOutcome, uncancelled⟩, owned⟩ := waiting
  have stillOwned : ∃ bn, Owns c w' name bn :=
    effect.owned owned (by simp [entry])
  have change := effect.drainChange name
  generalize isAfter : w'.drains name = after at change
  cases change with
  | kept startsOther =>
      exact .inl ⟨⟨⟨status, isAfter.trans entry, isOutcome, uncancelled⟩,
        stillOwned⟩, startsOther⟩
  | @ended _ status' before ends =>
      obtain rfl : status' = status :=
        Option.some.inj (before.symm.trans entry)
      cases ends with
      | cancelled _ => exact .inr (.inl rfl)
      | approved _ succeeded =>
          exact .inr (.inr (.inl ⟨isOutcome ▸ succeeded, .inl rfl⟩))
      | reported _ failed =>
          exact .inr (.inr (.inr ⟨_, isOutcome ▸ failed, rfl⟩))
      | lost _ why =>
          obtain ⟨bn, owns⟩ := owned
          rcases why with unowned | ⟨succeeded, refused⟩ | ⟨_, cancelled⟩
          · exact (unowned bn owns).elim
          · exact .inr (.inr (.inl ⟨isOutcome ▸ succeeded, .inr refused⟩))
          · rw [uncancelled] at cancelled
            cases cancelled
  | started _ _ _ _ undrained =>
      rw [entry] at undrained
      cases undrained
  | @stalled status' before _ =>
      obtain rfl : status' = status :=
        Option.some.inj (before.symm.trans entry)
      exact .inl ⟨⟨⟨_, isAfter, isOutcome, uncancelled⟩, stillOwned⟩, rfl⟩

/-- A node on which a pass starts no further drain: its reboot is approved, or
its BootcNode is too new to have reported anything. -/
def Settled (c : PassContext) (name : String) (w : World) : Prop :=
  ∀ bn, w.api.bootcNode name = some bn →
    (bn.spec.desiredImageState = .booted ∧
        bn.spec.desiredImage = c.desiredImage) ∨
      bn.status.booted = none

theorem classifyNode_ne_staged_of_booted_eq_none
    {lib : ReferenceLibrary} {bn : BootcNode}
    (unreported : bn.status.booted = none) :
    classifyNode lib bn ≠ .ok .staged := by
  unfold classifyNode
  rw [if_pos unreported]
  split_ifs <;> simp

theorem Settled.effect
    {action : Action} (settled : Settled c name w)
    (effect : Effect c budget action w w') :
    Settled c name w' ∧ action.startsDrain name = false := by
  constructor
  · intro bn' isAfter
    have change := effect.bootcNodeChange name
    rw [isAfter] at change
    generalize isBn' : some bn' = after at change
    cases change with
    | kept => exact settled bn' isBn'.symm
    | created _ _ =>
        cases isBn'
        exact .inr rfl
    | synced _ owns =>
        cases isBn'
        refine (settled _ owns.stored).imp (fun booted => ⟨?_, ?_⟩)
          fun unreported => unreported
        · simp [BootcNode.setSpec, syncedSpec, booted.1, booted.2,
            PassContext.desiredImage]
        · simp [BootcNode.setSpec, syncedSpec, PassContext.desiredImage]
    | approved owns _ _ =>
        cases isBn'
        exact .inl ⟨rfl, owns.targeted⟩
    | annotated owns _ =>
        cases isBn'
        have before := settled _ owns.stored
        exact before
    | freed owns _ =>
        cases isBn'
        have before := settled _ owns.stored
        exact before
    | assigned owns _ _ =>
        cases isBn'
        have before := settled _ owns.stored
        exact before
    | deleted _ _ => cases isBn'
  · have change := effect.drainChange name
    generalize w'.drains name = after at change
    cases change with
    | kept startsOther => exact startsOther
    | ended _ ends => cases ends <;> rfl
    | started owns staged _ unapproved _ =>
        rcases settled _ owns.stored with booted | unreported
        · exact (unapproved booted.1).elim
        · exact (classifyNode_ne_staged_of_booted_eq_none unreported
            staged).elim
    | stalled _ _ => rfl

/-- A drain that succeeded still waits, led to an approval, or was cancelled. -/
def SuccessHandled (c : PassContext) (name : String) (seen : Seen) : Prop :=
  (¬ Restarted name seen.log ∧
    (Waiting c name .succeeded seen.world ∨
      (Approved name seen.log ∧ Settled c name seen.world))) ∨
    Cancelled name seen.log

theorem Step.successHandled
    (step : Step c loud seen seen')
    (accepted : c.env.fails (.approve name) = none)
    (handled : SuccessHandled c name seen) :
    SuccessHandled c name seen' := by
  cases step with
  | halt _ _ => exact handled
  | resolveMaxUnavailable _ _ _ _ => exact handled
  | @act action world _ effect =>
      rcases handled with ⟨fresh, waiting | ⟨approved, settled⟩⟩ | cancelled
      · rcases waiting.effect effect with
          ⟨still, startsOther⟩ | isCancel | ⟨_, isApprove | refused⟩ |
          ⟨err, failed, _⟩
        · exact .inl ⟨not_restarted_append fresh startsOther, .inl still⟩
        · exact .inr (exists_mem_append_self _ isCancel)
        · subst isApprove
          obtain ⟨bn, _, owns, _, _, isAfter⟩ := effect.approve_spec
          refine .inl ⟨not_restarted_append fresh rfl, .inr ⟨?_, ?_⟩⟩
          · exact exists_mem_append_self _ ⟨rfl, _, isAfter, rfl⟩
          · intro bn' stored
            rw [isAfter, Option.some.injEq] at stored
            subst stored
            exact .inl ⟨rfl, owns.targeted⟩
        · exact (refused accepted).elim
        · cases failed
      · obtain ⟨still, startsOther⟩ := settled.effect effect
        exact .inl ⟨not_restarted_append fresh startsOther,
          .inr ⟨exists_mem_append approved _, still⟩⟩
      · exact .inr (exists_mem_append cancelled _)

/-- A drain that failed still waits, was reported, or was cancelled. -/
def FailureHandled (c : PassContext) (name err : String) (seen : Seen) :
    Prop :=
  Waiting c name (.failed err) seen.world ∨
    Reported c.pool name err seen.log ∨ Cancelled name seen.log

theorem Step.failureHandled
    (step : Step c loud seen seen') {err : String}
    (handled : FailureHandled c name err seen) :
    FailureHandled c name err seen' := by
  cases step with
  | halt _ _ => exact handled
  | resolveMaxUnavailable _ _ _ _ => exact handled
  | @act action world _ effect =>
      rcases handled with waiting | reported | cancelled
      · rcases waiting.effect effect with
          ⟨still, _⟩ | isCancel | ⟨succeeded, _⟩ | ⟨err', failed, isReport⟩
        · exact .inl still
        · exact .inr (.inr (exists_mem_append_self _ isCancel))
        · cases succeeded
        · cases failed
          exact .inr (.inl (exists_mem_append_self _ isReport))
      · exact .inr (.inl (exists_mem_append reported _))
      · exact .inr (.inr (exists_mem_append cancelled _))

/-! ## Warnings -/

/-- The number of warnings about a drain tells whether it is marked. -/
def Warned (warnings : String → Nat) (seen : Seen) : Prop :=
  ∀ name status, seen.world.drains name = some status →
    warningsAfter name (warnings name) seen.log = status.isStalled.toNat

/-- The pool owns the nodes of all overdue drains. -/
def OverdueOwned (c : PassContext) (w : World) : Prop :=
  ∀ name status, w.drains name = some status →
    status.isOverdue c.env.now = true → ∃ bn, Owns c w name bn

theorem isOverdue_of_new (now : Time) :
    DrainStatus.isOverdue
      { outcome := .running
        cancelled := false
        startTime := now
        isStalled := false } now = false := by
  simp [DrainStatus.isOverdue, drainStallThreshold, second]

section

variable {action : Action} {warnings : String → Nat}

theorem OverdueOwned.effect
    (owned : OverdueOwned c w) (effect : Effect c budget action w w') :
    OverdueOwned c w' := by
  intro name status entry overdue
  have change := effect.drainChange name
  rw [entry] at change
  generalize isStatus : some status = after at change
  cases change with
  | kept _ =>
      exact effect.owned (owned name status isStatus.symm overdue)
        (by simp [← isStatus])
  | ended _ _ => cases isStatus
  | started _ _ _ _ _ =>
      cases isStatus
      rw [isOverdue_of_new] at overdue
      cases overdue
  | stalled _ _ =>
      cases isStatus
      simp [DrainStatus.isOverdue] at overdue

/-- A quiet action neither warns nor marks. -/
theorem warnsStall_of_quiet
    (quiet : (false || !action.concernsStall) = true) (name : String) :
    action.warnsStall name = false := by
  cases action with
  | event recorded =>
      have silent : recorded.note.isStall = false := by
        simpa [Action.concernsStall] using quiet
      simp [Action.warnsStall, silent]
  | _ => rfl

theorem Warned.quiet
    (warned : Warned warnings seen) (step : Step c false seen seen') :
    Warned warnings seen' := by
  cases step with
  | halt _ _ => exact warned
  | resolveMaxUnavailable _ _ _ _ => exact warned
  | @act action world quiet effect =>
      intro name status entry
      have silent := warnsStall_of_quiet quiet name
      have change := effect.drainChange name
      dsimp only at entry ⊢
      rw [entry] at change
      rw [warningsAfter_append]
      generalize isStatus : some status = after at change
      cases change with
      | kept startsOther =>
          simp [warningsAfter, startsOther, silent,
            ← warned name status isStatus.symm]
      | ended _ _ => cases isStatus
      | started _ _ _ _ _ =>
          cases isStatus
          simp [warningsAfter, Action.startsDrain]
      | stalled _ _ => simp [Action.concernsStall] at quiet

theorem Warned.stalls
    (warned : Warned warnings seen) (owned : OverdueOwned c seen.world)
    (reported : StallsReported c seen seen') : Warned warnings seen' := by
  intro name status entry
  rw [reported.drains, Option.map_eq_some_iff] at entry
  obtain ⟨before, isBefore, rfl⟩ := entry
  rw [reported.warnings, warned name before isBefore]
  cases overdue : before.isOverdue c.env.now with
  | true =>
      obtain ⟨bn, stored, controlled⟩ := owned name before isBefore overdue
      have unmarked : before.isStalled = false := by
        simp only [DrainStatus.isOverdue, decide_eq_true_eq] at overdue
        exact overdue.1
      simp [isReported, isBefore, overdue, stored, controlled, unmarked,
        DrainStatus.mark]
  | false => simp [isReported, isBefore, overdue, DrainStatus.mark]

theorem PassStep.warned
    (step : PassStep c seen seen')
    (warned : Warned warnings seen ∧ OverdueOwned c seen.world) :
    Warned warnings seen' ∧ OverdueOwned c seen'.world := by
  constructor
  · cases step with
    | quiet step => exact warned.1.quiet step
    | stalls _ reported => exact warned.1.stalls warned.2 reported
  · refine Program.Regime.chain_invariant
      (fun seen => OverdueOwned c seen.world) (fun step owned => ?_)
      step.steps warned.2
    cases step with
    | act _ effect => exact owned.effect effect
    | halt _ _ => exact owned
    | resolveMaxUnavailable _ _ _ _ => exact owned

/-- The pass has got to the decision about the rollout. -/
def Decided (seen : Seen) : Prop :=
  seen.rolloutHalted = true ∨ seen.maxUnavail ≠ none

theorem not_undecided_of_decided
    {s : PassState} (decided : Decided s.seen) : ¬ Undecided s := by
  intro undecided
  rcases decided with halted | resolved
  · exact Bool.false_ne_true (undecided.unhalted.symm.trans halted)
  · exact resolved undecided.unresolved

theorem Step.collected
    (step : Step c loud seen seen')
    (collected : Decided seen → Collected seen.world) :
    Decided seen' → Collected seen'.world := by
  cases step with
  | act _ effect =>
      exact fun decided name => effect.running (collected decided name)
  | halt _ isCollected => exact fun _ => isCollected
  | resolveMaxUnavailable _ _ isCollected _ => exact fun _ => isCollected

/-- No drain the manager holds has been cancelled. -/
def Uncancelled (w : World) : Prop :=
  ∀ name status, w.drains name = some status → status.cancelled = false

theorem Uncancelled.effect
    (uncancelled : Uncancelled w) (effect : Effect c budget action w w') :
    Uncancelled w' := by
  intro name status entry
  have change := effect.drainChange name
  rw [entry] at change
  generalize isStatus : some status = after at change
  cases change with
  | kept _ => exact uncancelled name status isStatus.symm
  | ended _ _ => cases isStatus
  | started _ _ _ _ _ =>
      cases isStatus
      rfl
  | stalled before _ =>
      cases isStatus
      have wasUncancelled := uncancelled name _ before
      exact wasUncancelled

end

end Pass

/-! ## Every outcome reaches the owner -/

/-- The manager holds a drain of the node with this outcome. -/
def Pending (name : String) (outcome : DrainOutcome) (w : World) : Prop :=
  ∃ status, w.drains name = some status ∧ status.outcome = outcome

/-- Stall warnings are counted by the drain's own flag. -/
structure DrainInv (s : DrainRun) : Prop where
  uncancelled : Uncancelled s.world
  warned : ∀ name status, s.world.drains name = some status →
    s.warnings name = status.isStalled.toNat

section Run

variable {r : BootcNodePoolReconciler} {s : DrainRun} {env : Env}
  {request : String} {pool : BootcNodePool} {name : String}

variable {status : DrainStatus} {s' : DrainRun}

/-- A node of the pool is a node of the pass. -/
theorem owns_iff_ownsNode
    (stored : s.world.api.pool request = some pool) :
    (∃ bn, Owns (r.contextOf env request s.world) s.world name bn) ↔
      OwnsNode pool s.world name := by
  have uid := (contextOf_keeps r request env stored).1
  have same : ∀ bn : BootcNode,
      bn.isControlledBy (r.contextOf env request s.world).pool =
        bn.isControlledBy pool := by
    intro bn
    rw [BootcNode.isControlledBy, BootcNode.isControlledBy, uid]
  constructor
  · rintro ⟨bn, isBn, controlled⟩
    exact ⟨bn, isBn, (same bn).symm.trans controlled⟩
  · rintro ⟨bn, isBn, controlled⟩
    exact ⟨bn, isBn, (same bn).trans controlled⟩

theorem DrainInv.reconcile
    (inv : DrainInv s) (own : OwnDrains s (.reconcile env request))
    (stepped : (drainMachine r).step s (.reconcile env request) = some s') :
    DrainInv s' := by
  obtain ⟨fresh, meets⟩ := own
  cases stepped
  constructor
  · exact (r.reconcile_invariant request Uncancelled
      (fun effect uncancelled => uncancelled.effect effect) fresh
      inv.uncancelled).1
  · cases stored : s.world.api.pool request with
    | none =>
        dsimp only
        rw [r.reconcile_of_missing request fresh stored]
        exact inv.warned
    | some pool =>
        have overdue : OverdueOwned (r.contextOf env request s.world)
            s.world := fun name status entry isOverdue =>
          (owns_iff_ownsNode stored).mpr
            (meets pool stored name status entry (.inr isOverdue))
        exact (Program.Regime.chain_invariant
          (fun seen => Warned s.warnings seen ∧
            OverdueOwned (r.contextOf env request s.world) seen.world)
          (fun step warned => step.warned warned)
          (r.passSteps_of_reconcile request fresh)
          ⟨inv.warned, overdue⟩).1

theorem DrainInv.finish
    (inv : DrainInv s)
    (stepped : (drainMachine r).step s (.finish name outcome) = some s') :
    DrainInv s' := by
  simp only [drainMachine] at stepped
  split at stepped
  · cases stepped
  · next status entry =>
      split_ifs at stepped
      cases stepped
      have known : ∀ other status',
          (s.world.putDrain name
            (some { status with outcome := outcome })).drains other =
              some status' →
          ∃ before, s.world.drains other = some before ∧
            status'.cancelled = before.cancelled ∧
            status'.isStalled = before.isStalled := by
        intro other status' isStatus
        by_cases same : other = name
        · subst same
          rw [World.putDrain_self, Option.some.injEq] at isStatus
          subst isStatus
          exact ⟨status, entry, rfl, rfl⟩
        · rw [World.putDrain_of_ne _ same] at isStatus
          exact ⟨status', isStatus, rfl, rfl⟩
      constructor
      · intro other status' isStatus
        obtain ⟨before, isBefore, cancelled, _⟩ := known other status' isStatus
        exact cancelled.trans (inv.uncancelled other before isBefore)
      · intro other status' isStatus
        obtain ⟨before, isBefore, _, isStalled⟩ := known other status' isStatus
        rw [isStalled]
        exact inv.warned other before isBefore

/-- What the whole pass does to a waiting drain of an owned node. -/
theorem waiting_of_ownsNode
    (inv : DrainInv s) (stored : s.world.api.pool request = some pool)
    (entry : s.world.drains name = some status)
    (owns : OwnsNode pool s.world name) :
    Waiting (r.contextOf env request s.world) name status.outcome s.world :=
  ⟨⟨status, entry, rfl, inv.uncancelled name status entry⟩,
    (owns_iff_ownsNode stored).mpr owns⟩

theorem not_decided_of_pending
    (fresh : env.Faithful s.world) (finished : outcome ≠ .running)
    (pending : Pending name outcome
      (r.reconcile env request (.start s.world)).2.world) :
    ¬ Decided (r.reconcile env request (.start s.world)).2.seen := by
  intro decided
  have collected := Program.Regime.chain_invariant
    (fun seen => Decided seen → Collected seen.world)
    (fun step => step.collected) (r.steps_of_reconcile request fresh)
    (fun undecided => by simp [Decided, PassState.seen, PassState.start]
      at undecided) decided
  obtain ⟨status, entry, isOutcome⟩ := pending
  exact finished (isOutcome ▸ collected name status entry)

theorem DrainInv.succeeded
    (inv : DrainInv s) (fresh : env.Faithful s.world)
    (stored : s.world.api.pool request = some pool)
    (entry : s.world.drains name = some status)
    (succeeded : status.outcome = .succeeded)
    (owns : OwnsNode pool s.world name)
    (accepted : env.fails (.approve name) = none) :
    let after := (r.reconcile env request (.start s.world)).2
    (Approved name after.log ∧ ¬ Restarted name after.log) ∨
      Cancelled name after.log ∨
      (¬ Decided after.seen ∧ Pending name .succeeded after.world) := by
  intro after
  have waiting : Waiting (r.contextOf env request s.world) name .succeeded
      s.world := succeeded ▸ waiting_of_ownsNode inv stored entry owns
  have noEntry : ¬ Restarted name (PassState.start s.world).seen.log := by
    rintro ⟨_, member, _⟩
    cases member
  have handled := Program.Regime.chain_invariant
    (SuccessHandled (r.contextOf env request s.world) name)
    (fun step => step.successHandled accepted)
    (r.steps_of_reconcile request fresh) (.inl ⟨noEntry, .inl waiting⟩)
  rcases handled with ⟨unstarted, still | ⟨approved, _⟩⟩ | cancelled
  · obtain ⟨status', entry', isOutcome, _⟩ := still.entry
    have pending : Pending name .succeeded after.world :=
      ⟨status', entry', isOutcome⟩
    exact .inr (.inr ⟨not_decided_of_pending fresh (by simp) pending,
      pending⟩)
  · exact .inl ⟨approved, unstarted⟩
  · exact .inr (.inl cancelled)

theorem DrainInv.failed
    (inv : DrainInv s) (fresh : env.Faithful s.world)
    (stored : s.world.api.pool request = some pool) {err : String}
    (entry : s.world.drains name = some status)
    (failed : status.outcome = .failed err) (owns : OwnsNode pool s.world name) :
    let after := (r.reconcile env request (.start s.world)).2
    Reported pool name err after.log ∨ Cancelled name after.log ∨
      (¬ Decided after.seen ∧ Pending name (.failed err) after.world) := by
  intro after
  have waiting : Waiting (r.contextOf env request s.world) name (.failed err)
      s.world := failed ▸ waiting_of_ownsNode inv stored entry owns
  have sameEvent :
      drainFailedEvent (r.contextOf env request s.world).pool name err =
        drainFailedEvent pool name err := by
    have poolName : (r.contextOf env request s.world).pool.name =
        pool.name := by
      rw [contextOf_pool r request env stored]
      exact (r.settledPool_keeps env s.world pool).1
    simp only [drainFailedEvent, poolName]
  have handled := Program.Regime.chain_invariant
    (FailureHandled (r.contextOf env request s.world) name err)
    (fun step => step.failureHandled) (r.steps_of_reconcile request fresh)
    (.inl waiting)
  rcases handled with still | reported | cancelled
  · obtain ⟨status', entry', isOutcome, _⟩ := still.entry
    have pending : Pending name (.failed err) after.world :=
      ⟨status', entry', isOutcome⟩
    exact .inr (.inr ⟨not_decided_of_pending fresh (by simp) pending,
      pending⟩)
  · rw [Reported, sameEvent] at reported
    exact .inl reported
  · exact .inr (.inl cancelled)

theorem DrainInv.stalled
    (inv : DrainInv s) (own : OwnDrains s (.reconcile env request))
    {requeueAfter : Duration}
    (returns : (r.reconcile env request (.start s.world)).1 =
      .ok requeueAfter)
    (decided : Decided (r.reconcile env request (.start s.world)).2.seen)
    (stepped : (drainMachine r).step s (.reconcile env request) = some s')
    (entry : s'.world.drains name = some status)
    (late : drainStallThreshold ≤ env.now - status.startTime) :
    s'.warnings name = 1 := by
  have warned := (inv.reconcile own stepped).warned name status entry
  cases stepped
  have onTime := r.onTime_of_reconcile request own.1 returns
    (not_undecided_of_decided decided) name status entry
  have isStalled : status.isStalled = true := by
    by_contra unmarked
    have overdue : status.isOverdue env.now = true := by
      simp only [DrainStatus.isOverdue, decide_eq_true_eq]
      exact ⟨by simpa using unmarked, late⟩
    exact absurd (onTime.symm.trans overdue) (by simp)
  rw [warned, isStalled]
  rfl

end Run

/-! ## Two pools -/

def otherPool : BootcNodePool :=
  { osPool "os@b" with name := "others", uid := "others-uid" }

def twoPools : Tables :=
  { nodes := [("n1", plainNode)]
    bootcNodes := [("n1", stagedNode "os@b" "os@a")]
    pools := [("workers", osPool "os@b"), ("others", otherPool)] }

def drainStart : DrainRun :=
  { world := twoPools.world
    warnings := fun _ => 0 }

def drainStarted : PassState :=
  (osReconciler.reconcile (.calm ["n1"] 0) "workers"
    (.start twoPools.world)).2

def drained : DrainRun :=
  { world :=
      drainStarted.world.putDrain "n1"
        (some
          { outcome := .succeeded
            cancelled := false
            startTime := 0
            isStalled := false })
    warnings := fun name => warningsAfter name 0 drainStarted.log }

theorem faithful_calm_n1 (within : w.Within ["n1"]) :
    (Env.calm ["n1"] 0).Faithful w :=
  Env.faithful_calm within (List.nodup_singleton "n1")

section

variable {name : String} {log : List Entry}

end

end BootcOperator
