import BootcOperator.Agreement
import BootcOperator.Daemon.StageProtocol

/-!
# Stage operations left in flight by a reconcile

The daemon as a system: its BootcNode changes, the `run` calls move, and the
worker reconciles.  A stage operation is cancelled only by `acquire`, so a
reconcile that returns without starting a stage leaves a running stage of
another image alone.
-/

namespace BootcOperator

variable {image : String} {inner : BootcNodeOutcome}

/-- The phases up to the publication. -/
def RunPhase.inFlight : RunPhase → Bool
  | .acquired | .spawned | .holding | .checked | .staging
  | .stageReturned _ => true
  | .publishing | .exiting | .exited => false

namespace StageOp

variable {s s' : StageOp}

/-- A stage operation for `image` is in flight and not cancelled. -/
def Stages (s : StageOp) (image : String) : Prop :=
  ∃ i < s.count, (s.runs i).phase.inFlight = true ∧
    (s.runs i).cancelled = false ∧ (s.runs i).image = image

/-- No operation was started between `s` and `s'`: the current one is the same
or has published. -/
def Remains (s s' : StageOp) : Prop :=
  s'.cancel = none ∨ (s'.cancel = s.cancel ∧ s'.image = s.image)

theorem published_of_inFlight
    {run : RunCall} (well : run.WellPhased)
    (inFlight : run.phase.inFlight = true) :
    run.published = false := by
  unfold RunCall.WellPhased at well
  split at well <;> simp_all [RunPhase.inFlight]

theorem inFlight_of_unpublished
    {run : RunCall} (well : run.WellPhased)
    (unpublished : run.published = false)
    (uncancelled : run.cancelled = false) :
    run.phase.inFlight = true := by
  unfold RunCall.WellPhased at well
  split at well
  · simp_all
  · simp_all
  · simp_all
  · cases phase : run.phase <;> simp_all [RunPhase.inFlight]

/-- The operation in flight is the one the fields `cancel` and `image`
describe. -/
theorem Inv.stages_iff (inv : Inv s) (image : String) :
    s.Stages image ↔ s.cancel ≠ none ∧ s.image = image := by
  constructor
  · rintro ⟨i, bound, inFlight, uncancelled, sameImage⟩
    have unpublished := published_of_inFlight (inv.wellPhased i bound)
      inFlight
    have current := inv.live i bound unpublished uncancelled
    refine ⟨by simp [current], ?_⟩
    rw [(inv.cancel_spec i current).2.2.2, sameImage]
  · rintro ⟨current, sameImage⟩
    obtain ⟨i, current⟩ := Option.ne_none_iff_exists'.mp current
    obtain ⟨last, unpublished, uncancelled, itsImage⟩ :=
      inv.cancel_spec i current
    have bound : i < s.count := by omega
    exact ⟨i, bound,
      inFlight_of_unpublished (inv.wellPhased i bound) unpublished
        uncancelled,
      uncancelled, itsImage.symm.trans sameImage⟩

theorem Remains.refl (s : StageOp) : Remains s s :=
  .inr ⟨rfl, rfl⟩

theorem Remains.trans
    {middle : StageOp} (first : Remains s middle) (rest : Remains middle s') :
    Remains s s' := by
  rcases rest with published | ⟨sameCancel, sameImage⟩
  · exact .inl published
  · rcases first with published | ⟨firstCancel, firstImage⟩
    · exact .inl (sameCancel.trans published)
    · exact .inr ⟨sameCancel.trans firstCancel, sameImage.trans firstImage⟩

/-- An operation in flight later was in flight before. -/
theorem Remains.stages
    (remains : Remains s s') (inv : Inv s) (inv' : Inv s')
    (stages : s'.Stages image) :
    s.Stages image := by
  obtain ⟨current, sameImage⟩ := (inv'.stages_iff image).mp stages
  rcases remains with published | ⟨sameCancel, imageBefore⟩
  · exact (current published).elim
  · exact (inv.stages_iff image).mpr
      ⟨sameCancel ▸ current, imageBefore.symm.trans sameImage⟩

theorem remains_of_run_step
    {a : Action} (byRun : a.runOf.isSome ∨ a = .receive)
    (stepped : s.step a = some s') :
    Remains s s' := by
  cases a <;>
    simp only [Action.runOf, Option.isSome_none, Bool.false_eq_true,
      reduceCtorEq, or_self] at byRun <;>
    simp only [StageOp.step] at stepped
  case publish i =>
    split at stepped
    · split at stepped
      · cases stepped
        unfold StageOp.publish
        split
        · exact .inr ⟨rfl, rfl⟩
        · exact .inl rfl
      · cases stepped
    · cases stepped
  all_goals
    split at stepped
    · cases stepped
      exact .inr ⟨rfl, rfl⟩
    · cases stepped

/-- Steps of `run` calls are steps of the machine, and they start nothing. -/
theorem interleave_spec (s : StageOp) (actions : List Action) :
    machine.Reaches s (s.interleave actions) ∧
      Remains s (s.interleave actions) := by
  induction actions generalizing s with
  | nil =>
      exact ⟨.refl s, .refl s⟩
  | cons a actions ih =>
      simp only [interleave, List.foldl_cons] at *
      by_cases byRun : a.runOf.isSome ∨ a = .receive
      · rw [if_pos byRun]
        cases stepped : s.step a with
        | none =>
            exact ih s
        | some s' =>
            obtain ⟨reaches, remains⟩ := ih s'
            exact ⟨.trans (.step stepped) reaches,
              (remains_of_run_step byRun stepped).trans remains⟩
      · rw [if_neg byRun]
        exact ih s

theorem reset_spec (s : StageOp) :
    machine.Reaches s s.reset ∧ Remains s s.reset :=
  ⟨Machine.Reaches.step (M := machine) (a := .reset) rfl, .refl s⟩

theorem takeErr_spec (s : StageOp) :
    machine.Reaches s s.takeErr.2 ∧ Remains s s.takeErr.2 :=
  ⟨Machine.Reaches.step (M := machine) (a := .takeErr) rfl, .refl s⟩

/-- `acquire` followed by spawning the `run` call. -/
def start (s : StageOp) (image : String) : StageOp :=
  (s.acquire image).setPhase ((s.acquire image).count - 1) .spawned

theorem reaches_start (s : StageOp) (image : String) :
    machine.Reaches s (s.start image) := by
  refine .trans (.step (a := .acquire image) rfl)
    (.step (a := .spawn s.count) ?_)
  simp [machine, step, acquire, start, acquiredRun]

theorem Reaches.inv (reaches : machine.Reaches s s') (inv : Inv s) :
    Inv s' :=
  reaches.invariant Inv (fun holds stepped => holds.step stepped) inv

end StageOp

namespace BootcNodeReconciler

open StageOp

theorem afterTakeErr_spec (r : BootcNodeReconciler) (input : ReconcileInput) :
    machine.Reaches r.inflight (r.afterTakeErr input).2 ∧
      Remains r.inflight (r.afterTakeErr input).2 := by
  have before := interleave_spec r.inflight (input.gap .takeErr)
  have taken := takeErr_spec (r.inflight.interleave (input.gap .takeErr))
  exact ⟨before.1.trans taken.1, before.2.trans taken.2⟩

theorem beforeAction_spec (r : BootcNodeReconciler) (input : ReconcileInput)
    (bn : BootcNode) :
    machine.Reaches r.inflight (r.beforeAction input bn).inflight ∧
      Remains r.inflight (r.beforeAction input bn).inflight := by
  have taken := r.afterTakeErr_spec input
  have later := interleave_spec (r.afterTakeErr input).2
    (input.gap .isInFlight)
  exact ⟨taken.1.trans later.1, taken.2.trans later.2⟩

theorem performAction_inflight
    (r : BootcNodeReconciler) (input : ReconcileInput) (bn : BootcNode)
    (image : String) (action : UpdateAction) :
    (r.performAction input bn image action).reconciler.inflight =
      if action = .stage then
        (r.inflight.interleave (input.gap .acquire)).start image
      else r.inflight := by
  cases action <;> rfl

section

variable {lib : ReferenceLibrary} {input : ReconcileInput}
  {r : BootcNodeReconciler} {bn : BootcNode}

/-- Whatever `reconcileBootcNode` does to the stage operation is a run of the
protocol. -/
theorem Takes.reaches (takes : Takes lib input r bn inner) :
    machine.Reaches r.inflight inner.reconciler.inflight := by
  cases takes with
  | unreadable _ _ => exact .refl _
  | noBooted _ _ => exact .refl _
  | invalid _ _ _ _ => exact .refl _
  | booted _ _ _ =>
      exact (interleave_spec _ _).1.trans (reset_spec _).1
  | stageFailed _ _ _ _ =>
      exact (r.afterTakeErr_spec input).1.trans (interleave_spec _ _).1
  | acts _ _ _ _ =>
      rw [actionOutcome, performAction_inflight]
      split
      · exact (r.beforeAction_spec input _).1.trans
          ((interleave_spec _ _).1.trans (reaches_start _ _))
      · exact (r.beforeAction_spec input _).1

/-- Every `Reconcile` is a run of the stage-operation protocol. -/
theorem reaches_reconcile
    (lib : ReferenceLibrary) (input : ReconcileInput)
    (r : BootcNodeReconciler) (stored : Option BootcNode) :
    machine.Reaches r.inflight
      (r.reconcile lib input stored).reconciler.inflight := by
  have reconciles := reconcile_reconciles lib input r stored
  generalize r.reconcile lib input stored = outcome at *
  cases reconciles with
  | skipped _ => exact .refl _
  | failed => exact .refl _
  | unpatched runs _ =>
      exact runs.takes.reaches.trans (interleave_spec _ _).1
  | persisted runs =>
      rw [issueReboot_inflight]
      exact runs.takes.reaches.trans (interleave_spec _ _).1

/-- A stage operation that was taken over from before is for the desired
image. -/
theorem desired_of_remains
    {s s' : StageOp} {desired : String} (inv : Inv s) (inv' : Inv s')
    (remains : Remains s s')
    (before : ∀ image, s.Stages image → image = desired) :
    ∀ image, s'.Stages image → image = desired :=
  fun image stages => before image (remains.stages inv inv' stages)

/-- An error of the last stage means that nothing is in flight. -/
theorem not_stages_of_stageErr
    {err : String} (inv : Inv r.inflight)
    (taken : (r.afterTakeErr input).1 = some err) :
    ¬ (r.afterTakeErr input).2.Stages image := by
  intro stages
  have reached := interleave_spec r.inflight (input.gap .takeErr)
  have invBefore := Reaches.inv reached.1 inv
  have invAfter := Reaches.inv (r.afterTakeErr_spec input).1 inv
  obtain ⟨current, _⟩ := (invAfter.stages_iff image).mp stages
  have noError := invBefore.err_of_current current
  simp only [afterTakeErr, takeErr] at taken
  simp [noError] at taken

/-- The surroundings in which a `Reconcile` that can read the host starts a
new stage: the desired image is a digest reference and is neither booted nor
staged. -/
def StartsStage (lib : ReferenceLibrary) (input : ReconcileInput)
    (bn : BootcNode) : Prop :=
  ∀ host, input.status = .ok host → convertBootEntry host.booted ≠ none →
    ∃ digest, lib.digestOf bn.spec.desiredImage = some digest ∧
      infoMatchesDigest lib (convertBootEntry host.booted) digest = false ∧
      infoMatchesDigest lib (convertBootEntry host.staged) digest = false

/-- An image that is not awaited or started is already staged. -/
theorem staged_of_classifyAction
    {inflight : StageOp} {digest : String}
    (notStage : classifyAction lib inflight bn digest image ≠ .stage)
    (notAwaited : inflight.isInFlight image = false) :
    infoMatchesDigest lib bn.status.staged digest = true := by
  unfold classifyAction at notStage
  cases staged : infoMatchesDigest lib bn.status.staged digest with
  | true => rfl
  | false => simp [staged, notAwaited] at notStage

theorem stages_desired_of_acts
    {host : HostStatus} {digest : String} (status : input.status = .ok host)
    (comparable : Comparable lib host bn digest) (inv : Inv r.inflight)
    (inv' : Inv
      (r.actionOutcome lib input host bn digest).reconciler.inflight)
    (replaced : StartsStage lib input bn ∨
      ∀ image, r.inflight.Stages image → image = bn.spec.desiredImage) :
    ∀ image,
      (r.actionOutcome lib input host bn digest).reconciler.inflight.Stages
        image →
      image = bn.spec.desiredImage := by
  intro image stages
  obtain ⟨_, sameImage⟩ := (inv'.stages_iff image).mp stages
  rw [actionOutcome, performAction_inflight] at sameImage stages inv'
  by_cases starts : r.nextAction lib input host bn digest = .stage
  · rw [if_pos starts] at sameImage
    exact sameImage.symm
  · rw [if_neg starts] at sameImage stages inv'
    cases awaited :
        (r.beforeAction input (reportHost host bn)).inflight.isInFlight
          bn.spec.desiredImage with
    | true =>
        exact sameImage.symm.trans (of_decide_eq_true awaited)
    | false =>
        have staged := staged_of_classifyAction starts awaited
        rcases replaced with startsStage | before
        · obtain ⟨other, desired, _, notStaged⟩ :=
            startsStage _ status comparable.booted
          have same := comparable.desired.symm.trans desired
          rw [Option.some.injEq] at same
          subst same
          rw [show (reportHost host bn).status.staged =
            convertBootEntry host.staged from rfl, notStaged] at staged
          cases staged
        · exact desired_of_remains inv inv'
            (r.beforeAction_spec input _).2 before image stages

/-- What `reconcileBootcNode` leaves in flight when it returns no error. -/
theorem Takes.stages_desired
    (takes : Takes lib input r bn inner) (inv : Inv r.inflight)
    (returned : inner.error = none) (replaced : StartsStage lib input bn ∨
      ∀ image, r.inflight.Stages image → image = bn.spec.desiredImage) :
    ∀ image, inner.reconciler.inflight.Stages image →
      image = bn.spec.desiredImage := by
  have inv' := Reaches.inv takes.reaches inv
  cases takes with
  | unreadable _ _ => simp [degradedExit] at returned
  | noBooted _ _ => simp [degradedExit] at returned
  | invalid status booted noDigest _ =>
      rcases replaced with starts | before
      · obtain ⟨digest, desired, _⟩ := starts _ status booted
        simp [noDigest] at desired
      · exact before
  | booted status comparable isBooted =>
      rcases replaced with starts | before
      · obtain ⟨digest, desired, notBooted, _⟩ :=
          starts _ status comparable.booted
        have same := comparable.desired.symm.trans desired
        rw [Option.some.injEq] at same
        subst same
        simp [isBooted] at notBooted
      · exact desired_of_remains inv inv'
          ((interleave_spec _ _).2.trans (reset_spec _).2) before
  | stageFailed _ _ _ taken =>
      intro image stages
      have invTaken := Reaches.inv (r.afterTakeErr_spec input).1 inv
      exact (not_stages_of_stageErr inv taken
        ((interleave_spec _ _).2.stages invTaken inv' stages)).elim
  | acts status comparable notBooted taken =>
      exact stages_desired_of_acts status comparable inv inv' replaced

end

end BootcNodeReconciler

/-- The daemon's BootcNode in the API server and its reconciler. -/
structure DaemonSystem where
  bootcNode : Option BootcNode
  reconciler : BootcNodeReconciler

/-- One move of the daemon or around it. -/
inductive DaemonAction where
  /-- the controller or a user changes the BootcNode -/
  | change (bootcNode : Option BootcNode)
  /-- a `run` call moves, or an event is taken from `done` -/
  | run (action : StageOp.Action)
  | reconcile (input : ReconcileInput)

namespace DaemonSystem

open BootcNodeReconciler StageOp

def reconcile (lib : ReferenceLibrary) (s : DaemonSystem)
    (input : ReconcileInput) : ReconcileOutcome :=
  s.reconciler.reconcile lib input s.bootcNode

def step (lib : ReferenceLibrary) (s : DaemonSystem) :
    DaemonAction → Option DaemonSystem
  | .change bootcNode => some { s with bootcNode := bootcNode }
  | .run action =>
      if action.runOf.isSome ∨ action = .receive then
        (s.reconciler.inflight.step action).map fun inflight =>
          { s with reconciler := { s.reconciler with inflight := inflight } }
      else none
  | .reconcile input =>
      let outcome := s.reconcile lib input
      some
        { bootcNode := outcome.bootcNode
          reconciler := outcome.reconciler }

def machine (lib : ReferenceLibrary) : Machine DaemonSystem DaemonAction :=
  ⟨step lib⟩

def initial (nodeName : String) (bootcNode : Option BootcNode) :
    DaemonSystem :=
  { bootcNode := bootcNode
    reconciler :=
      { nodeName := nodeName
        inflight := .initial
        rebootIssued := false
        authFile := none } }

theorem inv_of_reaches
    {lib : ReferenceLibrary} {nodeName : String}
    {bootcNode : Option BootcNode} {s : DaemonSystem}
    (reached : (machine lib).Reaches (initial nodeName bootcNode) s) :
    Inv s.reconciler.inflight := by
  refine reached.invariant (fun s => Inv s.reconciler.inflight)
    ?_ inv_initial
  intro s a s' inv stepped
  cases a with
  | change bootcNode =>
      cases stepped
      exact inv
  | run action =>
      simp only [machine, step] at stepped
      split at stepped
      · rw [Option.map_eq_some_iff] at stepped
        obtain ⟨inflight, moved, rfl⟩ := stepped
        exact inv.step moved
      · cases stepped
  | reconcile input =>
      cases stepped
      exact Reaches.inv (reaches_reconcile _ _ _ _) inv

/-- The operations a `Reconcile` has left in flight stage the desired
image. -/
def OnlyDesired (outcome : ReconcileOutcome) : Prop :=
  ∀ bn, outcome.bootcNode = some bn →
    ∀ image, outcome.reconciler.inflight.Stages image →
      image = bn.spec.desiredImage

/-- The condition under which a `Reconcile` may meet a stage of another image:
it is a reconcile of this node that starts a new stage. -/
def Replaces (lib : ReferenceLibrary) (s : DaemonSystem)
    (input : ReconcileInput) : Prop :=
  ∀ bn, s.bootcNode = some bn →
    (∃ image, s.reconciler.inflight.Stages image ∧
      image ≠ bn.spec.desiredImage) →
    input.request = s.reconciler.nodeName ∧
      s.reconciler.rebootIssued = false ∧ StartsStage lib input bn

theorem error_of_persistedOutcome
    {input : ReconcileInput} {orig : BootcNode} {requeueAfter : Duration}
    (success : (persistedOutcome input orig inner).result = .ok requeueAfter) :
    inner.error = none := by
  unfold persistedOutcome at success
  cases failure : inner.error with
  | none => rfl
  | some err => simp [failure] at success

/-- In every run of the daemon, right after a successful `Reconcile` that
meets `Replaces`, any stage operation still in flight stages the current
desired image. -/
theorem only_desired_after_reconcile
    {lib : ReferenceLibrary} {nodeName : String}
    {bootcNode : Option BootcNode} {s : DaemonSystem}
    (reached : (machine lib).Reaches (initial nodeName bootcNode) s)
    (input : ReconcileInput) (replaces : Replaces lib s input)
    {requeueAfter : Duration}
    (success : (s.reconcile lib input).result = .ok requeueAfter) :
    OnlyDesired (s.reconcile lib input) := by
  have inv := inv_of_reaches reached
  have replaced : ∀ bn, s.bootcNode = some bn →
      StartsStage lib input bn ∨
        ∀ image, s.reconciler.inflight.Stages image →
          image = bn.spec.desiredImage := by
    intro bn stored
    by_cases other : ∃ image, s.reconciler.inflight.Stages image ∧
        image ≠ bn.spec.desiredImage
    · exact .inl (replaces bn stored other).2.2
    · push Not at other
      exact .inr other
  have reconciles :=
    reconcile_reconciles lib input s.reconciler s.bootcNode
  rw [reconcile] at success ⊢
  generalize s.reconciler.reconcile lib input s.bootcNode = outcome at *
  intro bn stored image stages
  cases reconciles with
  | skipped reason =>
      by_contra other
      obtain ⟨request, notIssued, _⟩ :=
        replaces bn stored ⟨image, stages, other⟩
      rcases reason with otherNode | issued | absent
      · exact otherNode request
      · simp [notIssued] at issued
      · simp [absent] at stored
  | failed => cases success
  | unpatched _ _ => cases success
  | persisted runs =>
      rename_i orig inner
      rw [issueReboot_inflight] at stages
      rw [issueReboot_bootcNode] at stored
      have returned := error_of_persistedOutcome
        (result_of_issueReboot success)
      have invInner := Reaches.inv runs.takes.reaches inv
      have later := interleave_spec inner.reconciler.inflight
        (input.gap .atReturn)
      have invReturn := Reaches.inv later.1 invInner
      cases stored
      exact runs.takes.stages_desired inv returned
        (replaced orig runs.stored) image
        (later.2.stages invInner invReturn stages)

def hostOnA : HostStatus :=
  ⟨none, some (bootEntry "os@a" "a"), none⟩

/-- The desired image goes from `os@a` to `os@b` and, while `os@b` is being
staged, back to `os@a`. -/
def revertingRun : List DaemonAction :=
  [.change (some retargetedNode),
    .reconcile (calmInput hostOnA),
    .run (.lockRun 0), .run (.checkContext 0), .run (.startStage 0),
    .change (some
      { retargetedNode with
        spec := { retargetedNode.spec with desiredImage := "os@a" } })]

/-- After the revert the reconcile succeeds and leaves the stage of `os@b`
running. -/
theorem stage_of_reverted_image_left_running :
    ∃ s, (machine osLibrary).run (initial "n" none) revertingRun = some s ∧
      (s.reconcile osLibrary (calmInput hostOnA)).result = .ok 0 ∧
      ¬ OnlyDesired (s.reconcile osLibrary (calmInput hostOnA)) := by
  refine ⟨_, rfl, rfl, ?_⟩
  intro onlyDesired
  have wrong := onlyDesired _ rfl "os@b" ⟨0, by decide, rfl, rfl, rfl⟩
  revert wrong
  decide

/-- The desired image goes on from `os@b` to `os@c` while `os@b` is being
staged. -/
def retargetingRun : List DaemonAction :=
  [.change (some retargetedNode),
    .reconcile (calmInput hostOnA),
    .run (.lockRun 0), .run (.checkContext 0), .run (.startStage 0),
    .change (some
      { retargetedNode with
        spec := { retargetedNode.spec with desiredImage := "os@c" } })]

/-- The stage of the image that was desired before is gone. -/
theorem only_desired_after_retarget :
    ∃ s, (machine osLibrary).run (initial "n" none) retargetingRun = some s ∧
      OnlyDesired (s.reconcile osLibrary (calmInput hostOnA)) := by
  refine ⟨_, rfl, ?_⟩
  have reached : (machine osLibrary).Reaches (initial "n" none) _ :=
    ⟨retargetingRun, rfl⟩
  refine only_desired_after_reconcile reached (calmInput hostOnA) ?_ rfl
  intro bn stored _
  cases stored
  refine ⟨rfl, rfl, ?_⟩
  intro host status _
  cases status
  exact ⟨"c", by decide, by decide, by decide⟩

end DaemonSystem

end BootcOperator
