import BootcOperator.Effects.Observations
import BootcOperator.Effects.Tables
import BootcOperator.Fleet

/-!
# The return to idle is announced truthfully

`recordNodeEvents` announces that a node is up to date when it finds the Idle
condition set again after an active observation.  The daemon sets it for an
update that is done, but also when it reports a problem; and the controller
may have given the node another image in the meantime.  Without these two the
announcement is true.
-/

namespace BootcOperator

open Program BootcNodePoolReconciler BootcNodeReconciler

variable {bn : BootcNode} {o : Observation}

/-- The daemon reports that it is idle. -/
def BootcNode.isBack (bn : BootcNode) : Bool :=
  match bn.observation with
  | some o => o.status ≠ .conditionFalse ∧ o.reason = nodeReasonIdle
  | none => false

/-- The last recorded observation is of a node that was not idle. -/
def BootcNode.wasActive (bn : BootcNode) : Bool :=
  isActiveObservation (observationOf bn)

/-- The node is idle again, and this is not announced yet. -/
def BootcNode.isUnannounced (bn : BootcNode) : Bool :=
  bn.wasActive && bn.isBack

/-- The events of a pass that announce the return of a node tell the truth. -/
def IdleEventsTruthful (r : BootcNodePoolReconciler) (env : Env)
    (request : String) (w : World) : Prop :=
  ∀ name image, (nodeReasonIdle, EventNote.nodeIdle image) ∈
      announcements name (r.reconcile env request (.start w)).2.log →
    ∃ visited bn, visitOf r env request w = some visited ∧
      visited.owned name = some bn ∧ bn.spec.desiredImage = image ∧
      classifyNode r.references bn = .ok .upToDate ∧
      isStatusConditionTrue bn.status.conditions nodeDegraded = false ∧
      reportsDesired r.references bn = true

/-- The daemon has nothing to report but the progress of the update: it knows
what is booted and what to boot, and no stage of another image than the booted
one has failed. -/
def isUntroubled (lib : ReferenceLibrary) (input : ReconcileInput)
    (r : BootcNodeReconciler) (bn : BootcNode) : Bool :=
  match input.status, lib.digestOf bn.spec.desiredImage with
  | .ok host, some digest =>
      (convertBootEntry host.booted).isSome &&
        (infoMatchesDigest lib (convertBootEntry host.booted) digest ||
          (r.afterTakeErr input).1.isNone)
  | _, _ => false

theorem comparable_of_isUntroubled
    {lib : ReferenceLibrary} {input : ReconcileInput} {r : BootcNodeReconciler}
    (untroubled : isUntroubled lib input r bn = true) :
    ∃ host digest, input.status = .ok host ∧ Comparable lib host bn digest ∧
      (infoMatchesDigest lib (convertBootEntry host.booted) digest = true ∨
        (r.afterTakeErr input).1 = none) := by
  unfold isUntroubled at untroubled
  split at untroubled
  · next host digest status desired =>
      simp only [Bool.and_eq_true, Bool.or_eq_true,
        Option.isNone_iff_eq_none] at untroubled
      exact ⟨host, digest, status,
        ⟨Option.isSome_iff_ne_none.mp untroubled.1, desired⟩, untroubled.2⟩
  · cases untroubled

/-- No daemon reports a problem while the last observation of its node is an
active one, and no `Reconcile` of the controller gives another image to a node
whose return is not announced. -/
def ReturnsUndisturbed (r : BootcNodePoolReconciler) (s : Fleet) :
    FleetAction → Prop
  | .daemon name input =>
      ∀ bn, s.world.api.bootcNode name = some bn → bn.wasActive = true →
        isUntroubled r.references input (s.daemon name) bn = true
  | .controller env request =>
      let c := r.contextOf env request s.world
      ∀ name bn, c.HasTarget → Owns c s.world name bn →
        bn.isUnannounced = true → bn.spec.desiredImage = c.desiredImage
  | _ => True

/-! ## One pass -/

/-- What holds at every moment of a pass: an unannounced return is a return to
the desired image, which is the image of the pass. -/
def ReturnsSettled (c : PassContext) (w : World) : Prop :=
  ∀ name bn, w.api.bootcNode name = some bn → bn.isUnannounced = true →
    classifyNode c.reconciler.references bn = .ok .upToDate ∧
      (c.HasTarget → bn.isControlledBy c.pool = true →
        bn.spec.desiredImage = c.desiredImage)

theorem BootcNode.isUnannounced_congr
    {bn' : BootcNode} (observation : observationOf bn' = observationOf bn)
    (status : bn'.status = bn.status) :
    bn'.isUnannounced = bn.isUnannounced := by
  unfold isUnannounced wasActive isBack BootcNode.observation
  rw [observation, status]
  cases findStatusCondition bn.status.conditions nodeIdle <;> rfl

theorem BootcNode.isUnannounced_of_no_conditions
    (unset : bn.status.conditions = []) :
    bn.isUnannounced = false := by
  unfold isUnannounced isBack BootcNode.observation
  simp [unset, findStatusCondition]

section Pass

variable {c : PassContext} {budget : Option Int} {action : Action}
  {w w' : World} {name : String}

theorem Effect.deletes_of_stored
    (effect : Effect c budget action w w')
    (stored : w'.api.bootcNode name = some bn) :
    action.deletes name = false := by
  cases effect with
  | deleteBootcNode _ _ _ _ =>
      rw [World.putBootcNode_bootcNode] at stored
      split_ifs at stored with same
      exact decide_eq_false fun isName => same isName.symm
  | patchNodeClaim call _ => rcases call with rfl | rfl <;> rfl
  | _ => rfl

/-- The BootcNode before an effect other than those of `recordNodeEvents`. -/
theorem Effect.bootcNode_before
    {bn' : BootcNode} (effect : Effect c budget action w w')
    (unobserving : action.observes = false)
    (stored : w'.api.bootcNode name = some bn') :
    bn'.status.conditions = [] ∨
      ∃ bn, w.api.bootcNode name = some bn ∧
        observationOf bn' = observationOf bn ∧ bn'.status = bn.status ∧
        bn'.isControlledBy c.pool = bn.isControlledBy c.pool ∧
        (bn'.spec.desiredImage = bn.spec.desiredImage ∨
          c.HasTarget ∧ bn.isControlledBy c.pool = true ∧
            bn'.spec.desiredImage = c.desiredImage) := by
  have marker := effect.marker unobserving (effect.deletes_of_stored stored)
  have observation {bn : BootcNode} (before : w.api.bootcNode name = some bn) :
      observationOf bn' = observationOf bn := by
    rw [World.marker, World.marker, stored, before] at marker
    exact congrArg (Option.getD · "") marker
  rcases effect.bootcNode_cases stored with
    ⟨bn, before, controlled, status, image⟩ | ⟨_, _, _, rfl⟩ |
      ⟨hasTarget, bn, owns, rfl⟩
  · exact .inr ⟨bn, before, observation before, status, controlled,
      .inl image⟩
  · exact .inl rfl
  · exact .inr ⟨bn, owns.stored, observation owns.stored, rfl, rfl,
      .inr ⟨hasTarget, owns.controlled, rfl⟩⟩

theorem ReturnsSettled.effect
    (settled : ReturnsSettled c w) (effect : Effect c budget action w w')
    (unobserving : action.observes = false) : ReturnsSettled c w' := by
  intro name bn' stored unannounced
  rcases effect.bootcNode_before unobserving stored with
    unset | ⟨bn, before, observation, status, controlled, image⟩
  · rw [BootcNode.isUnannounced_of_no_conditions unset] at unannounced
    cases unannounced
  · rw [BootcNode.isUnannounced_congr observation status] at unannounced
    obtain ⟨upToDate, targeted⟩ := settled name bn before unannounced
    have sameImage : bn'.spec.desiredImage = bn.spec.desiredImage := by
      rcases image with same | ⟨hasTarget, isControlled, isTarget⟩
      · exact same
      · rw [isTarget, targeted hasTarget isControlled]
    rw [classifyNode_congr sameImage status, controlled, sameImage]
    exact ⟨upToDate, targeted⟩

/-- A marker that is written for a BootcNode leaves nothing to announce. -/
theorem isUnannounced_marked
    {env : Env} (observed : bn.observation = some o)
    (unannounced : (marked env name bn o.text).isUnannounced = true) :
    marked env name bn o.text = bn := by
  unfold marked at unannounced ⊢
  cases succeeds : env.fails (.markObserved name) with
  | some message => rfl
  | none =>
      simp only [succeeds, BootcNode.isUnannounced, Bool.and_eq_true]
        at unannounced
      obtain ⟨active, back⟩ := unannounced
      -- an observation is not both active and a return to idle
      rw [BootcNode.wasActive, observationOf, Annotations.set_known,
        if_pos rfl, Option.getD_some, o.isActiveObservation_text] at active
      have sameObservation : BootcNode.observation
          { bn with
            annotations :=
              bn.annotations.set .lastObservedState o.text } = some o :=
        observed
      rw [BootcNode.isBack, sameObservation] at back
      simp [Observation.isActive] at active back
      exact (back.1 active).elim

end Pass

section Reconcile

variable {r : BootcNodePoolReconciler} {env : Env} {request : String}
  {w : World} {visited : PassState}

theorem ReturnsSettled.recorded
    (faithful : env.Faithful w)
    (visit : visitOf r env request w = some visited)
    (settled : ReturnsSettled (r.contextOf env request w) visited.world) :
    ReturnsSettled (r.contextOf env request w)
      (recordNodeEvents env visited).2.world := by
  intro name bn' stored unannounced
  have targets := (explained_of_visit faithful visit).1
  cases observed : (visited.owned name).bind BootcNode.observation with
  | none =>
      have same : (recordNodeEvents env visited).2.world.api.bootcNode name =
          visited.world.api.bootcNode name :=
        congrArg (·.2.1) (watched_of_recordNodeEvents env
          (faithful.nodup .nodeEvents) observed)
      exact settled name bn' (same.symm.trans stored) unannounced
  | some o =>
      obtain ⟨bn, owned, isObservation⟩ := Option.bind_eq_some_iff.mp observed
      have before := (targets.owns owned).stored
      have announced := announced_of_recordNodeEvents env
        (faithful.nodup .nodeEvents) (targets.reached owned .nodeEvents)
        owned before isObservation
      rw [announced.stored, Option.some.injEq] at stored
      subst stored
      have same := isUnannounced_marked isObservation unannounced
      rw [same] at unannounced ⊢
      exact settled name bn before unannounced

theorem returnsSettled_of_visit
    (faithful : env.Faithful w)
    (settled : ReturnsSettled (r.contextOf env request w) w)
    (visit : visitOf r env request w = some visited) :
    ReturnsSettled (r.contextOf env request w) visited.world :=
  (unobserving_around_visit faithful visit).1.invariant
    (explained_start (r.contextOf env request w) w)
    (explained_of_visit faithful visit).2.1 _
    (fun effect unobserving _ settled => settled.effect effect unobserving)
    settled

theorem ReturnsSettled.reconcile
    (faithful : env.Faithful w)
    (settled : ReturnsSettled (r.contextOf env request w) w) :
    ReturnsSettled (r.contextOf env request w)
      (r.reconcile env request (.start w)).2.world := by
  have explained := r.explained_of_reconcile request faithful
  have keeps : ∀ {budget action w₁ w₂},
      Effect (r.contextOf env request w) budget action w₁ w₂ →
      action.observes = false →
      (∃ entry ∈ (r.reconcile env request (.start w)).2.log,
        entry.action = action) →
      ReturnsSettled (r.contextOf env request w) w₁ →
        ReturnsSettled (r.contextOf env request w) w₂ :=
    fun effect unobserving _ settled => settled.effect effect unobserving
  cases visit : visitOf r env request w with
  | none =>
      exact (unobserving_of_unvisited faithful visit).invariant
        (explained_start (r.contextOf env request w) w) explained _ keeps
        settled
  | some visited =>
      have recorded := (returnsSettled_of_visit faithful settled
        visit).recorded faithful visit
      exact (unobserving_around_visit faithful visit).2.invariant
        (explained_of_visit faithful visit).2.2 explained _ keeps recorded

end Reconcile

/-! ## Runs -/

/-- A return that is still to be announced is one to the target. -/
def ReturnsTrue (lib : ReferenceLibrary) (w : World) : Prop :=
  ∀ name bn, w.api.bootcNode name = some bn → bn.isUnannounced = true →
    classifyNode lib bn = .ok .upToDate

section Runs

variable {r : BootcNodePoolReconciler} {s s' : Fleet}

variable {lib : ReferenceLibrary} {input : ReconcileInput}
  {daemon : BootcNodeReconciler} {orig : BootcNode}

theorem ReturnsTrue.settled
    {env : Env} {request : String} (returns : ReturnsTrue r.references s.world)
    (undisturbed : ReturnsUndisturbed r s (.controller env request)) :
    ReturnsSettled (r.contextOf env request s.world) s.world := by
  intro name bn stored unannounced
  refine ⟨returns name bn stored unannounced, fun hasTarget controlled => ?_⟩
  exact undisturbed name bn hasTarget ⟨stored, controlled⟩ unannounced

theorem reconcileBootcNode_of_comparable
    {host : HostStatus} {digest : String} (status : input.status = .ok host)
    (comparable : Comparable lib host bn digest) :
    daemon.reconcileBootcNode lib input bn =
      daemon.reconcileDesired lib input (reportHost host bn)
        bn.spec.desiredImage digest := by
  obtain ⟨booted, desired⟩ := comparable
  have sameBooted : (reportHost host bn).status.booted =
      convertBootEntry host.booted := rfl
  have sameImage : (reportHost host bn).spec.desiredImage =
      bn.spec.desiredImage := rfl
  unfold ReferenceLibrary.digestOf at desired
  unfold reconcileBootcNode
  cases parsed : lib.parseNamed bn.spec.desiredImage with
  | error err => simp [parsed] at desired
  | ok named =>
      simp only [parsed] at desired
      simp [populateBootcFields, status, sameBooted, booted, sameImage, parsed,
        desired, lib.text_of_parseNamed parsed]

/-- A daemon that is not troubled finds the desired image booted or reports
the progress of the update. -/
theorem exit_of_untroubled
    {inner : BootcNodeOutcome} (returned : daemon.reconcileBootcNode lib input
      (started orig input.now) = some inner)
    (untroubled : isUntroubled lib input daemon orig = true) :
    inner.exit = .desiredBooted ∨
      ∃ bn action,
        inner.bootcNode = setActive bn input.now (reasonOf action) := by
  obtain ⟨host, digest, status, comparable, quietOrBooted⟩ :=
    comparable_of_isUntroubled untroubled
  have sameComparable : Comparable lib host (started orig input.now) digest :=
    ⟨comparable.booted, comparable.desired⟩
  rw [reconcileBootcNode_of_comparable status sameComparable,
    reconcileDesired] at returned
  have sameBooted : (reportHost host (started orig input.now)).status.booted =
      convertBootEntry host.booted := rfl
  rw [sameBooted] at returned
  split_ifs at returned with isBooted
  · cases returned
    exact .inl rfl
  · have quiet := quietOrBooted.resolve_left isBooted
    unfold afterTakeErr at quiet
    rcases taken : (daemon.inflight.interleave
      (input.gap .takeErr)).takeErr with ⟨stageErr, left⟩
    rw [taken] at quiet returned
    dsimp only at quiet
    subst quiet
    cases returned
    exact .inr ⟨_, _, rfl⟩

theorem isBack_of_active {now : Time} {reason degradedMsg : String} :
    BootcNode.isBack
      { orig with
        status :=
          (setDegraded (setActive bn now reason) now degradedMsg).status } =
      false := by
  obtain ⟨idle, found, status, _⟩ :=
    exists_idle_setActive bn now reason degradedMsg
  unfold BootcNode.isBack BootcNode.observation
  dsimp only
  rw [found]
  simp [status]

/-- A daemon that is not troubled reports a return to idle only for the
desired image. -/
theorem classifyNode_of_untroubled
    {inner : BootcNodeOutcome} (returned : daemon.reconcileBootcNode lib input
      (started orig input.now) = some inner)
    (untroubled : isUntroubled lib input daemon orig = true)
    (back : (reported orig input.now inner).isBack = true) :
    classifyNode lib (reported orig input.now inner) = .ok .upToDate := by
  rw [classifyNode_reported (reconcileBootcNode_takes returned)]
  rcases exit_of_untroubled returned untroubled with
    isBooted | ⟨bn, action, isActive⟩
  · rw [isBooted]
    rfl
  · rw [reported, isActive, isBack_of_active] at back
    cases back

theorem ReturnsTrue.step
    {action : FleetAction} (returns : ReturnsTrue r.references s.world)
    (proper : s.Proper action) (undisturbed : ReturnsUndisturbed r s action)
    (stepped : (Fleet.machine r).step s action = some s') :
    ReturnsTrue r.references s'.world := by
  cases action with
  | controller env request =>
      cases stepped
      have settled := (returns.settled undisturbed).reconcile proper
      intro name bn stored unannounced
      exact (settled name bn stored unannounced).1
  | daemon name input =>
      cases stepped
      intro other bn stored unannounced
      rw [Fleet.afterDaemon_bootcNode] at stored
      split_ifs at stored with same
      · subst same
        rcases s.daemonOutcome_bootcNode with
          unchanged | ⟨orig, inner, before, returned, outcome⟩
        · exact returns other bn (unchanged.symm.trans stored) unannounced
        · rw [outcome, Option.some.injEq] at stored
          subst stored
          simp only [BootcNode.isUnannounced, Bool.and_eq_true] at unannounced
          exact classifyNode_of_untroubled returned
            (undisturbed orig before unannounced.1) unannounced.2
      · exact returns other bn stored unannounced
  | run name action =>
      have same : s'.world = s.world := Fleet.world_of_run (r := r) stepped
      rw [same]
      exact returns
  | restart name =>
      cases stepped
      exact returns
  | others change =>
      cases stepped
      intro name bn stored unannounced
      exact returns name bn (proper name bn stored) unannounced

end Runs

theorem due_of_announced
    {marker : Option String} {event : String × EventNote}
    (announced : event ∈ o.announced marker) :
    o.due (isActiveObservation (marker.getD "")) = some event := by
  unfold Observation.announced at announced
  split_ifs at announced
  · cases announced
  · simpa using announced

/-- The return to idle is due after an active observation only. -/
theorem nodeIdle_of_due
    {afterActive : Bool} {image : String}
    (due : o.due afterActive = some (nodeReasonIdle, .nodeIdle image)) :
    afterActive = true ∧ o.status ≠ .conditionFalse ∧
      o.reason = nodeReasonIdle ∧ o.image = image := by
  unfold Observation.due at due
  split_ifs at due with active idle <;> simp_all

/-- In a run in which the controller reads what is stored, no daemon reports a
problem before the last activity of its node is announced to be over, and no
node gets another image before that, every announcement of a return to idle is
true. -/
theorem idle_event_truthful
    (r : BootcNodePoolReconciler) {start s : Fleet}
    {actions : List FleetAction} {env : Env} {request : String}
    (unobserved : ∀ name, start.world.marker name = none)
    (path : (Fleet.machine r).Path
      (fun s action => s.Proper action ∧ ReturnsUndisturbed r s action)
      start actions s)
    (proper : s.Proper (.controller env request))
    (undisturbed : ReturnsUndisturbed r s (.controller env request)) :
    IdleEventsTruthful r env request s.world := by
  have begins : ReturnsTrue r.references start.world := by
    intro name bn stored unannounced
    have unmarked := unobserved name
    rw [World.marker, stored, Option.bind_some] at unmarked
    rw [BootcNode.isUnannounced, BootcNode.wasActive, observationOf, unmarked]
      at unannounced
    exact absurd unannounced (by simp +decide)
  have returns := path.invariant (fun s => ReturnsTrue r.references s.world)
    (fun returns meets stepped => returns.step meets.1 meets.2 stepped) begins
  intro name image emitted
  obtain ⟨visited, bn, o, visit, owned, observed, announced⟩ :=
    visit_of_announcement proper emitted
  obtain ⟨active, back, idle, isImage⟩ :=
    nodeIdle_of_due (due_of_announced announced)
  have unannounced : bn.isUnannounced = true := by
    simp only [BootcNode.isUnannounced, BootcNode.wasActive, BootcNode.isBack,
      observed, Bool.and_eq_true, decide_eq_true_eq]
    exact ⟨active, back, idle⟩
  have targets := (explained_of_visit proper visit).1
  have settled := returnsSettled_of_visit proper (returns.settled undisturbed)
    visit
  have upToDate := (settled name bn (targets.owns owned).stored unannounced).1
  have sameImage : bn.spec.desiredImage = image := by
    obtain ⟨_, _, isObservation⟩ := Option.map_eq_some_iff.mp observed
    rw [← isImage, ← isObservation]
  exact ⟨visited, bn, visit, owned, sameImage, upToDate,
    healthy_of_upToDate upToDate, reportsDesired_of_upToDate upToDate⟩

/-! ## Two runs -/

def newNode : Tables :=
  { nodes := [("n1", plainNode)]
    pools := [("workers", osPool "os@b")] }

/-- The daemon of `n1` with the host in a given state. -/
def inputOn (host : HostStatus) : ReconcileInput :=
  { calmInput host with request := "n1" }

def hostOn (image digest : String) : HostStatus :=
  { staged := none
    booted := some (bootEntry image digest)
    rollback := none }

/-- The node gets its BootcNode, starts to stage `os@b`, and the controller
sees it. -/
def stagingActions : List FleetAction :=
  [.controller (.calm ["n1"] 0) "workers",
    .daemon "n1" (inputOn (hostOn "os@a" "a")),
    .controller (.calm ["n1"] second) "workers"]

/-- The pull fails, and the daemon goes back to idle. -/
def failingActions : List FleetAction :=
  stagingActions ++
    [.run "n1" (.lockRun 0), .run "n1" (.checkContext 0),
      .run "n1" (.startStage 0),
      .run "n1" (.stageReturns 0 (some "pull failed")),
      .run "n1" (.publish 0), .daemon "n1" (inputOn (hostOn "os@a" "a"))]

/-- The daemon restarts on a host that booted the target. -/
def returningActions : List FleetAction :=
  stagingActions ++
    [.restart "n1", .daemon "n1" (inputOn (hostOn "os@b" "b"))]

/-- A failed stage is announced as a finished update. -/
theorem idle_event_of_failed_stage :
    (∀ name, (Fleet.initial newNode.world).world.marker name = none) ∧
      (Fleet.machine osReconciler).Path Fleet.Proper
        (Fleet.initial newNode.world) failingActions
        (.after osReconciler newNode.world failingActions) ∧
      (Fleet.after osReconciler newNode.world failingActions).Proper
        (.controller (.calm ["n1"] (2 * second)) "workers") ∧
      ¬ IdleEventsTruthful osReconciler (.calm ["n1"] (2 * second)) "workers"
        (Fleet.after osReconciler newNode.world failingActions).world := by
  have tame : ∀ action ∈ failingActions, Fleet.Tame ["n1"] action := by
    simp [failingActions, stagingActions, Fleet.Tame]
  have executed : (Fleet.machine osReconciler).run
      (Fleet.initial newNode.world) failingActions =
        some (.after osReconciler newNode.world failingActions) :=
    Fleet.run_eq_after (by decide +kernel)
  obtain ⟨path, within⟩ := Fleet.path_of_tame (by decide) tame
    newNode.within_names executed
  refine ⟨fun name => rfl, path.mono fun _ _ meets => meets.1,
    Env.faithful_calm within (by decide), fun truthful => ?_⟩
  obtain ⟨visited, bn, visit, owned, _, _, healthy, _⟩ :=
    truthful "n1" "os@b" (by decide +kernel)
  have troubled : ((visitOf osReconciler (.calm ["n1"] (2 * second)) "workers"
      (Fleet.after osReconciler newNode.world failingActions).world).bind
        fun visited => (visited.owned "n1").map fun bn =>
          isStatusConditionTrue bn.status.conditions nodeDegraded) =
      some true := by decide +kernel
  rw [visit, Option.bind_some, owned, Option.map_some, healthy] at troubled
  cases troubled

/-- The test of `Undisturbed` on the nodes of a list. -/
def isUndisturbed (r : BootcNodePoolReconciler) (names : List String)
    (s : Fleet) : FleetAction → Bool
  | .daemon name input =>
      (s.world.api.bootcNode name).all fun bn =>
        !bn.wasActive || isUntroubled r.references input (s.daemon name) bn
  | .controller env request =>
      names.all fun name => (s.world.api.bootcNode name).all fun bn =>
        !bn.isUnannounced || decide (bn.spec.desiredImage =
          (r.contextOf env request s.world).desiredImage)
  | _ => true

theorem returnsUndisturbed_of_check
    {r : BootcNodePoolReconciler} {names : List String} {s : Fleet}
    {action : FleetAction} (within : s.world.Within names)
    (passes : isUndisturbed r names s action = true) :
    ReturnsUndisturbed r s action := by
  cases action with
  | daemon name input =>
      intro bn stored active
      simpa [isUndisturbed, stored, active] using passes
  | controller env request =>
      intro name bn _ owns unannounced
      have listed : name ∈ names :=
        within.bootcNode name (by simp [owns.stored])
      have passesHere := List.all_eq_true.mp passes name listed
      simpa [owns.stored, unannounced] using passesHere
  | run _ _ => trivial
  | restart _ => trivial
  | others _ => trivial

/-- The return of a node that has been updated is announced truthfully. -/
theorem idle_event_truthful_of_update :
    (nodeReasonIdle, EventNote.nodeIdle "os@b") ∈ announcements "n1"
        (osReconciler.reconcile (.calm ["n1"] (2 * second)) "workers"
          (.start (Fleet.after osReconciler newNode.world
            returningActions).world)).2.log ∧
      IdleEventsTruthful osReconciler (.calm ["n1"] (2 * second)) "workers"
        (Fleet.after osReconciler newNode.world returningActions).world := by
  have tame : ∀ action ∈ returningActions, Fleet.Tame ["n1"] action := by
    simp [returningActions, stagingActions, Fleet.Tame]
  have executed : (Fleet.machine osReconciler).run
      (Fleet.initial newNode.world) returningActions =
        some (.after osReconciler newNode.world returningActions) :=
    Fleet.run_eq_after (by decide +kernel)
  obtain ⟨path, within⟩ := Fleet.path_of_tame (by decide) tame
    newNode.within_names executed
  have passes : (Fleet.machine osReconciler).checks
      (isUndisturbed osReconciler ["n1"]) (Fleet.initial newNode.world)
      returningActions = true := by decide +kernel
  obtain ⟨_, checked⟩ := Machine.path_of_checks passes
  have undisturbed : ReturnsUndisturbed osReconciler
      (.after osReconciler newNode.world returningActions)
      (.controller (.calm ["n1"] (2 * second)) "workers") :=
    returnsUndisturbed_of_check within (by decide +kernel)
  refine ⟨by decide +kernel, ?_⟩
  exact idle_event_truthful osReconciler (fun _ => rfl)
    ((path.and checked).mono fun _ _ meets =>
      ⟨meets.1.1, returnsUndisturbed_of_check meets.1.2 meets.2⟩)
    (Env.faithful_calm within (by decide)) undisturbed

end BootcOperator
