import BootcOperator.Effects.BootcNodes
import BootcOperator.Effects.Drains
import BootcOperator.Effects.Transitions
import BootcOperator.Hosts

/-!
# What is staged on the nodes that are worked on

A node is given a slot, drained and approved by what its BootcNode says: the
condition that its daemon has set, and the desired image that the controller
has set, perhaps later.  The two are about one image as long as neither a
retarget nor a stage operation nor a reboot comes between the report of a
staged image and the reboot into it.  The last section shows a retarget that
does.
-/

namespace BootcOperator

open BootcNodePoolReconciler BootcNodeReconciler

variable {lib : ReferenceLibrary} {name : String}

/-- The BootcNode with another desired image and the status it has. -/
def BootcNode.retarget (bn : BootcNode) (image : String) : BootcNode :=
  { bn with spec := { bn.spec with desiredImage := image } }

/-- The controller works on the node: it counts as staged, or it is being
drained. -/
def Engaged (lib : ReferenceLibrary) (w : World) (name : String)
    (bn : BootcNode) : Prop :=
  classifyNode lib bn = .ok .staged ∨ w.drains name ≠ none

/-! ## What a pass keeps -/

/-- The desired image is staged on every node that the controller works on. -/
structure TargetsStaged (lib : ReferenceLibrary)
    (host : String → HostStatus) (w : World) : Prop where
  staged : ∀ name bn, w.api.bootcNode name = some bn →
    Engaged lib w name bn →
      entryMatches lib (host name).staged bn.spec.desiredImage = true
  present : ∀ name, w.drains name ≠ none → w.api.bootcNode name ≠ none

/-- A node that the pass is to retarget is not one that it works on, neither
before nor after. -/
def RetargetsIdle (c : PassContext) (w : World) : Prop :=
  ∀ name bn, Owns c w name bn → bn.spec.desiredImage ≠ c.desiredImage →
    classifyNode c.reconciler.references (bn.retarget c.desiredImage) ≠
        .ok .staged ∧
      w.drains name = none

section Pass

variable {c : PassContext} {w w' : World} {action : Action}
  {budget : Option Int} {host : String → HostStatus}

variable {bn bn' : BootcNode}

theorem classifyNode_retarget
    {image : String} (desired : bn'.spec.desiredImage = image)
    (status : bn'.status = bn.status) :
    classifyNode lib bn' = classifyNode lib (bn.retarget image) :=
  classifyNode_congr desired status

/-- A drain after an effect was there before, or the node counts as staged. -/
theorem Effect.drain_before
    (effect : Effect c budget action w w') (entry : w'.drains name ≠ none) :
    w.drains name ≠ none ∨
      (action = .startDrain name ∧ ∃ bn, OwnsTargeted c w name bn ∧
        classifyNode c.reconciler.references bn = .ok .staged) := by
  have change := effect.drainChange name
  generalize w'.drains name = after at change entry
  cases change with
  | kept _ => exact .inl entry
  | ended _ _ => exact absurd rfl entry
  | started owns staged _ _ _ => exact .inr ⟨rfl, _, owns, staged⟩
  | stalled before _ => exact .inl (by simp [before])

/-- A new version of a BootcNode with the desired image and the status it
had. -/
theorem TargetsStaged.keep
    (targets : TargetsStaged c.reconciler.references host w)
    (effect : Effect c budget action w w')
    (stored : w.api.bootcNode name = some bn)
    (image : bn'.spec.desiredImage = bn.spec.desiredImage)
    (status : bn'.status = bn.status)
    (engaged : Engaged c.reconciler.references w' name bn') :
    entryMatches c.reconciler.references (host name).staged
      bn'.spec.desiredImage = true := by
  rw [image]
  refine targets.staged name bn stored ?_
  rcases engaged with isStaged | entry
  · exact .inl ((classifyNode_congr image status).symm.trans isStaged)
  · rcases effect.drain_before entry with before | ⟨_, found, owns, isStaged⟩
    · exact .inr before
    · obtain rfl := Option.some.inj (owns.stored.symm.trans stored)
      exact .inl isStaged

/-- A BootcNode is synced to the image of the pass. -/
theorem TargetsStaged.sync
    (targets : TargetsStaged c.reconciler.references host w)
    (idle : RetargetsIdle c w) (effect : Effect c budget action w w')
    (owns : Owns c w name bn) (image : bn'.spec.desiredImage = c.desiredImage)
    (status : bn'.status = bn.status)
    (engaged : Engaged c.reconciler.references w' name bn') :
    entryMatches c.reconciler.references (host name).staged
      bn'.spec.desiredImage = true := by
  by_cases same : bn.spec.desiredImage = c.desiredImage
  · exact targets.keep effect owns.stored (image.trans same.symm) status
      engaged
  · obtain ⟨unstaged, undrained⟩ := idle name bn owns same
    rcases engaged with isStaged | entry
    · rw [classifyNode_retarget image status] at isStaged
      exact absurd isStaged unstaged
    · rcases effect.drain_before entry with before | ⟨_, found, targeted, _⟩
      · exact absurd undrained before
      · obtain rfl := Option.some.inj
          (targeted.stored.symm.trans owns.stored)
        exact absurd targeted.targeted same

theorem classifyNode_newBootcNode
    (lib : ReferenceLibrary) (r : BootcNodePoolReconciler)
    (pool : BootcNodePool) (node : Node) :
    classifyNode lib (r.newBootcNode pool node) = .ok .pending := by
  rfl

theorem Effect.targetsStaged
    (effect : Effect c budget action w w') (idle : RetargetsIdle c w)
    (targets : TargetsStaged c.reconciler.references host w) :
    TargetsStaged c.reconciler.references host w' := by
  refine ⟨fun name bn' stored' engaged => ?_, fun name entry deleted => ?_⟩
  · rcases effect.bootcNode_cases stored' with
      ⟨bn, stored, _, status, image⟩ | ⟨_, absent, node, rfl⟩ |
        ⟨_, bn, owns, rfl⟩
    · exact targets.keep effect stored image status engaged
    · rcases engaged with isStaged | entry
      · rw [classifyNode_newBootcNode] at isStaged
        cases isStaged
      · rcases effect.drain_before entry with before | ⟨_, _, owns, _⟩
        · exact absurd absent (targets.present name before)
        · have stored := owns.stored
          rw [absent] at stored
          cases stored
    · exact targets.sync idle effect owns rfl rfl engaged
  · have change := effect.bootcNodeChange name
    rw [deleted] at change
    generalize isAfter : (none : Option BootcNode) = after at change
    rcases effect.drain_before entry with before | ⟨isStart, _, owns, _⟩
    · cases change with
      | kept => exact targets.present name before isAfter.symm
      | deleted _ undrained => exact before undrained
      | _ => cases isAfter
    · subst isStart
      cases change with
      | kept =>
          rw [owns.stored] at isAfter
          cases isAfter
      | annotated _ _ => cases isAfter

theorem Effect.retargetsIdle
    (effect : Effect c budget action w w') (idle : RetargetsIdle c w) :
    RetargetsIdle c w' := by
  intro name bn' owns' other
  rcases effect.bootcNode_cases owns'.stored with
    ⟨bn, stored, controlled, status, image⟩ | ⟨_, _, _, rfl⟩ |
      ⟨_, _, _, rfl⟩
  · have owns : Owns c w name bn :=
      ⟨stored, controlled ▸ owns'.controlled⟩
    obtain ⟨unstaged, undrained⟩ := idle name bn owns (image ▸ other)
    refine ⟨?_, ?_⟩
    · have same : classifyNode c.reconciler.references
          (bn'.retarget c.desiredImage) =
          classifyNode c.reconciler.references
            (bn.retarget c.desiredImage) :=
        classifyNode_congr rfl status
      rw [same]
      exact unstaged
    · by_contra entry
      rcases effect.drain_before entry with before | ⟨_, _, targeted, _⟩
      · exact before undrained
      · obtain rfl := Option.some.inj
          (targeted.stored.symm.trans owns.stored)
        exact other (image.trans targeted.targeted)
  · exact absurd rfl other
  · exact absurd rfl other

/-- The action assigns a slot to the node, starts its drain or approves its
reboot. -/
def Action.engages (name : String) : Action → Bool
  | .wrote (.assignSlot other) | .startDrain other
  | .wrote (.approve other) => other = name
  | _ => false

/-- A node that such an action is about is one that the controller works
on. -/
theorem Effect.engaged
    (effect : Effect c budget action w w')
    (engages : action.engages name = true) :
    ∃ bn, w.api.bootcNode name = some bn ∧
      Engaged c.reconciler.references w name bn := by
  cases effect with
  | approve owns entry _ =>
      obtain rfl := of_decide_eq_true engages
      exact ⟨_, owns.stored, .inr (by simp [entry])⟩
  | assignSlot owns _ staged _ =>
      obtain rfl := of_decide_eq_true engages
      exact ⟨_, owns.stored, .inl staged⟩
  | startDrain owns staged _ _ _ =>
      obtain rfl := of_decide_eq_true engages
      exact ⟨_, owns.stored, .inl staged⟩
  | patchNodeClaim call _ =>
      rcases call with isCall | isCall <;>
        simp [isCall, Action.engages] at engages
  | _ => simp [Action.engages] at engages

end Pass

theorem staged_of_awaitBooted
    {inflight : StageOp} {bn : BootcNode} {digest image : String}
    (awaits : classifyAction lib inflight bn digest image = .awaitBooted) :
    infoMatchesDigest lib bn.status.staged digest = true := by
  unfold classifyAction at awaits
  cases staged : infoMatchesDigest lib bn.status.staged digest with
  | true => rfl
  | false =>
      simp only [staged, Bool.false_eq_true, not_false_eq_true, if_true]
        at awaits
      split at awaits <;> cases awaits

/-- A daemon reports a staged image when the desired one is staged. -/
theorem entryMatches_of_takes
    {input : ReconcileInput} {reconciler : BootcNodeReconciler}
    {orig : BootcNode} {inner : BootcNodeOutcome}
    (takes : Takes lib input reconciler (started orig input.now) inner)
    (awaits : inner.exit = .action .awaitBooted) :
    ∃ host, input.status = .ok host ∧
      entryMatches lib host.staged orig.spec.desiredImage = true := by
  cases takes with
  | unreadable _ _ => cases awaits
  | noBooted _ _ => cases awaits
  | invalid _ _ _ _ => cases awaits
  | booted _ _ _ => cases awaits
  | stageFailed _ _ _ _ => cases awaits
  | @acts host digest status comparable _ _ =>
      refine ⟨host, status, ?_⟩
      have isAction : reconciler.nextAction lib input host
          (started orig input.now) digest = .awaitBooted :=
        ReconcileExit.action.inj awaits
      have desired : lib.digestOf orig.spec.desiredImage = some digest :=
        comparable.desired
      rw [entryMatches_of_digest desired]
      exact staged_of_awaitBooted isAction

/-! ## Runs -/

namespace Hosts

/-- No `Reconcile` of the controller retargets a node that is being drained
or that counts as staged for the new image as well; on a node that the
controller works on, no stage of another image lands and no reboot happens;
daemons read what is staged on their hosts. -/
def KeepsTargets (r : BootcNodePoolReconciler) (deploy : String → BootEntry)
    (s : Hosts) : HostAction → Prop
  | .controller env request =>
      ∀ pool, s.world.api.pool request = some pool →
        ∀ name bn, s.world.api.bootcNode name = some bn →
          bn.isControlledBy pool = true →
          bn.spec.desiredImage ≠
            (r.contextOf env request s.world).desiredImage →
          classifyNode r.references (bn.retarget
              (r.contextOf env request s.world).desiredImage) ≠
              .ok .staged ∧
            s.world.drains name = none
  | .daemon name input =>
      ∀ host, input.status = .ok host → host.staged = (s.host name).staged
  | .run name (.stageReturns i _) true =>
      ∀ bn, s.world.api.bootcNode name = some bn →
        Engaged r.references s.world name bn →
          entryMatches r.references
            (some (deploy ((s.fleet.daemon name).inflight.runs i).image))
            bn.spec.desiredImage = true
  | .reboot name =>
      ∀ bn, s.world.api.bootcNode name = some bn →
        ¬ Engaged r.references s.world name bn
  | _ => True

section Steps

variable {r : BootcNodePoolReconciler} {deploy : String → BootEntry}
  {s s' : Hosts}

/-- The condition on a `Reconcile`, for its context. -/
theorem retargetsIdle_of_meets
    {env : Env} {request : String} {pool : BootcNodePool}
    (stored : s.world.api.pool request = some pool)
    (meets : s.KeepsTargets r deploy (.controller env request)) :
    RetargetsIdle (r.contextOf env request s.world) s.world := by
  intro name bn owns other
  refine meets pool stored name bn owns.stored ?_ other
  have uid := (contextOf_keeps r request env stored).1
  rw [BootcNode.isControlledBy, ← uid]
  exact owns.controlled

/-- Around every action of a pass and at its end, the desired images are
staged. -/
theorem targetsStaged_of_reconcile
    {env : Env} {request : String}
    (targets : TargetsStaged r.references s.host s.world)
    (faithful : env.Faithful s.world)
    (meets : s.KeepsTargets r deploy (.controller env request)) :
    (∀ before entry, (before, entry) ∈ transitions s.world
        (r.reconcile env request (.start s.world)).2.log →
      TargetsStaged r.references s.host before) ∧
      TargetsStaged r.references s.host
        (r.reconcile env request (.start s.world)).2.world := by
  cases stored : s.world.api.pool request with
  | none =>
      rw [r.reconcile_of_missing request faithful stored]
      exact ⟨by simp [PassState.start, transitions], targets⟩
  | some pool =>
      have idle := retargetsIdle_of_meets stored meets
      have explained := r.explained_of_reconcile request faithful
      obtain ⟨around, final⟩ := explained.invariant
        (fun w => TargetsStaged r.references s.host w ∧
          RetargetsIdle (r.contextOf env request s.world) w)
        (fun effect holds => ⟨effect.targetsStaged holds.2 holds.1,
          effect.retargetsIdle holds.2⟩) ⟨targets, idle⟩
      exact ⟨fun before entry member => (around before entry member).1.1,
        final.1⟩

theorem targetsStaged_of_daemon
    {input : ReconcileInput}
    (targets : TargetsStaged r.references s.host s.world)
    (meets : s.KeepsTargets r deploy (.daemon name input)) :
    TargetsStaged r.references s.host
      (s.fleet.afterDaemon r.references name input).world := by
  refine ⟨fun other bn isBn engaged => ?_, fun other entry => ?_⟩
  · rcases Fleet.bootcNode_before_daemon isBn with
      before | ⟨rfl, orig, inner, isOrig, takes, rfl⟩
    · exact targets.staged other bn before engaged
    · rcases engaged with isStaged | entry
      · rw [classifyNode_reported takes, Except.ok.injEq] at isStaged
        have awaits : inner.exit = .action .awaitBooted := by
          revert isStaged
          cases inner.exit with
          | degraded => simp [ReconcileExit.state]
          | desiredBooted => simp [ReconcileExit.state]
          | action action => cases action <;> simp [ReconcileExit.state]
        obtain ⟨host, status, matched⟩ := entryMatches_of_takes takes awaits
        rw [meets host status] at matched
        exact matched
      · exact targets.staged other orig isOrig (.inr entry)
  · obtain ⟨bn, isBn⟩ :=
      Option.ne_none_iff_exists'.mp (targets.present other entry)
    obtain ⟨bn', isBn', _⟩ :=
      Fleet.bootcNode_after_daemon r.references name input isBn
    exact Option.ne_none_iff_exists'.mpr ⟨bn', isBn'⟩

/-- The staged entry changes where a stage operation lands. -/
theorem targetsStaged_of_run
    {action : StageOp.Action} {lands : Bool}
    (targets : TargetsStaged r.references s.host s.world)
    (meets : s.KeepsTargets r deploy (.run name action lands))
    (stepped : (machine r deploy).step s (.run name action lands) = some s') :
    TargetsStaged r.references s'.host s'.world := by
  obtain ⟨sameWorld, host⟩ := world_of_runStep stepped
  rw [sameWorld]
  refine ⟨fun other bn isBn engaged => ?_, targets.present⟩
  rw [host]
  by_cases same : other = name
  · subst same
    rw [Function.update_self]
    have before := targets.staged other bn isBn engaged
    cases action with
    | stageReturns i err =>
        cases lands with
        | true => exact meets bn isBn engaged
        | false => exact before
    | _ => exact before
  · rw [Function.update_of_ne same]
    exact targets.staged other bn isBn engaged

theorem targetsStaged_congr
    {host : String → HostStatus} {w w' : World}
    (targets : TargetsStaged lib host w)
    (bootcNodes : w'.api.bootcNode = w.api.bootcNode)
    (drains : ∀ name, w'.drains name ≠ none → w.drains name ≠ none) :
    TargetsStaged lib host w' := by
  refine ⟨fun name bn isBn engaged => ?_, fun name entry => ?_⟩
  · rw [bootcNodes] at isBn
    exact targets.staged name bn isBn (engaged.imp id (drains name))
  · rw [bootcNodes]
    exact targets.present name (drains name entry)

theorem targetsStaged_of_step
    {action : HostAction}
    (targets : TargetsStaged r.references s.host s.world)
    (proper : s.Proper action) (meets : s.KeepsTargets r deploy action)
    (stepped : (machine r deploy).step s action = some s') :
    TargetsStaged r.references s'.host s'.world := by
  cases action with
  | controller env request =>
      cases stepped
      exact (targetsStaged_of_reconcile targets proper meets).2
  | drained name outcome =>
      obtain ⟨host, api, drains⟩ := world_of_drained stepped
      rw [host]
      refine targetsStaged_congr targets (by rw [api]) fun other entry => ?_
      rw [← Option.isSome_iff_ne_none] at entry ⊢
      rw [← drains, entry]
  | daemon name input =>
      cases stepped
      exact targetsStaged_of_daemon targets meets
  | run name action lands => exact targetsStaged_of_run targets meets stepped
  | reboot name =>
      obtain ⟨sameWorld, host⟩ := world_of_reboot stepped
      rw [sameWorld]
      refine ⟨fun other bn isBn engaged => ?_, targets.present⟩
      rw [host]
      by_cases same : other = name
      · subst same
        exact absurd engaged (meets bn isBn)
      · rw [Function.update_of_ne same]
        exact targets.staged other bn isBn engaged
  | users change =>
      cases stepped
      obtain ⟨bootcNodes, drains⟩ := proper
      exact targetsStaged_congr targets bootcNodes fun name =>
        (congrFun drains name).symm ▸ id

/-- A run starts with no node that the controller works on. -/
structure Unengaged (lib : ReferenceLibrary) (s : Hosts) : Prop where
  undrained : ∀ name, s.world.drains name = none
  unstaged : ∀ name bn, s.world.api.bootcNode name = some bn →
    classifyNode lib bn ≠ .ok .staged

/-- In every run that keeps the targets, whenever a pass assigns a slot to a
node, starts its drain or approves its reboot, the desired image in the
BootcNode of the node is staged on its host at that moment. -/
theorem engaged_nodes_have_target_staged
    {start : Hosts} {actions : List HostAction} {env : Env}
    {request : String}
    (fresh : start.Unengaged r.references)
    (path : (machine r deploy).Path
      (fun s action => s.Proper action ∧ s.KeepsTargets r deploy action)
      start actions s)
    (proper : s.Proper (.controller env request))
    (meets : s.KeepsTargets r deploy (.controller env request)) :
    ∀ before entry name, (before, entry) ∈ transitions s.world
        (r.reconcile env request (.start s.world)).2.log →
      entry.action.engages name = true →
      ∃ bn, before.api.bootcNode name = some bn ∧
        entryMatches r.references (s.host name).staged
          bn.spec.desiredImage = true := by
  have targets : TargetsStaged r.references s.host s.world := by
    refine path.invariant
      (fun s => TargetsStaged r.references s.host s.world) ?_ ⟨?_, ?_⟩
    · exact fun targets meets stepped =>
        targetsStaged_of_step targets meets.1 meets.2 stepped
    · intro name bn isBn engaged
      rcases engaged with isStaged | entry
      · exact absurd isStaged (fresh.unstaged name bn isBn)
      · exact absurd (fresh.undrained name) entry
    · exact fun name entry => absurd (fresh.undrained name) entry
  intro before entry name member engages
  have around := (targetsStaged_of_reconcile targets proper meets).1 before
    entry member
  obtain ⟨_, _, effect⟩ :=
    (r.explained_of_reconcile request proper).effect before entry member
  obtain ⟨bn, isBn, engaged⟩ := effect.engaged engages
  exact ⟨bn, isBn, around.staged name bn isBn engaged⟩

end Steps

/-! ## A slot for a staged image -/

/-- The node is not staged and nothing drains it. -/
def isIdle (lib : ReferenceLibrary) (s : Hosts) (name : String)
    (bn : BootcNode) : Bool :=
  (classifyNode lib bn).toOption != some .staged &&
    (s.world.drains name).isNone

theorem not_engaged_of_isIdle
    {s : Hosts} {bn : BootcNode} (idle : s.isIdle lib name bn = true) :
    classifyNode lib bn ≠ .ok .staged ∧ s.world.drains name = none := by
  simp only [isIdle, Bool.and_eq_true, bne_iff_ne, ne_eq,
    Option.isNone_iff_eq_none] at idle
  refine ⟨fun isStaged => idle.1 ?_, idle.2⟩
  rw [isStaged]
  rfl

/-- The test of `KeepsTargets` for one node. -/
def keepsTargets (r : BootcNodePoolReconciler) (name : String) (s : Hosts) :
    HostAction → Bool
  | .controller env request =>
      match s.world.api.bootcNode name with
      | none => true
      | some bn =>
          bn.spec.desiredImage =
              (r.contextOf env request s.world).desiredImage ||
            s.isIdle r.references name (bn.retarget
              (r.contextOf env request s.world).desiredImage)
  | .daemon node input =>
      s.readsBooted (.daemon node input) &&
        match input.status with
        | .ok host => host.staged = (s.host node).staged
        | .error _ => true
  | .run _ (.stageReturns _ _) true =>
      match s.world.api.bootcNode name with
      | none => true
      | some bn => s.isIdle r.references name bn
  | .reboot _ => false
  | _ => true

theorem keepsTargets_of_check
    {r : BootcNodePoolReconciler} {deploy : String → BootEntry} {s : Hosts}
    {action : HostAction} (within : s.world.Within [name])
    (passes : keepsTargets r name s action = true) :
    s.KeepsTargets r deploy action := by
  have isName : ∀ {other : String} {bn : BootcNode},
      s.world.api.bootcNode other = some bn → other = name := by
    intro other bn isBn
    simpa using within.bootcNode other (by simp [isBn])
  cases action with
  | controller env request =>
      intro pool _ other bn isBn _ retargeted
      obtain rfl := isName isBn
      simp only [keepsTargets, isBn, Bool.or_eq_true, decide_eq_true_eq]
        at passes
      exact not_engaged_of_isIdle (passes.resolve_left retargeted)
  | daemon node input =>
      intro host status
      simp only [keepsTargets, status, Bool.and_eq_true, decide_eq_true_eq]
        at passes
      exact passes.2
  | run node action lands =>
      cases action with
      | stageReturns i err =>
          cases lands with
          | false => trivial
          | true =>
              intro bn isBn engaged
              obtain rfl := isName isBn
              simp only [keepsTargets, isBn] at passes
              obtain ⟨unstaged, undrained⟩ := not_engaged_of_isIdle passes
              rcases engaged with isStaged | entry
              · exact absurd isStaged unstaged
              · exact absurd undrained entry
      | _ => trivial
  | reboot node => cases passes
  | _ => trivial

theorem unengaged_singleStart : singleStart.Unengaged osLibrary where
  undrained _ := rfl
  unstaged _ _ isBn := nomatch isBn

theorem readsBooted_of_keepsTargets
    (r : BootcNodePoolReconciler) (name : String) (s : Hosts)
    (action : HostAction) (passes : keepsTargets r name s action = true) :
    s.readsBooted action = true := by
  cases action with
  | daemon name input =>
      simp only [keepsTargets, Bool.and_eq_true] at passes
      exact passes.1
  | _ => rfl

theorem keepsTargets_reportsStaged :
    (machine osReconciler osDeploy).checks (keepsTargets osReconciler "n")
      singleStart reportsStaged = true := by
  decide +kernel

theorem path_reportedHosts :
    (machine osReconciler osDeploy).Path
        (fun s action => s.Proper action ∧
          s.KeepsTargets osReconciler osDeploy action)
        singleStart (reportsStaged ++ []) reportedHosts ∧
      reportedHosts.world.Within ["n"] := by
  have reported := path_of_reported (readsBooted_of_keepsTargets osReconciler
    "n") (List.forall_mem_nil _) keepsTargets_reportsStaged rfl
  exact ⟨reported.1.mono fun _ _ meets => ⟨meets.1,
    keepsTargets_of_check meets.2.1 meets.2.2⟩, reported.2⟩

theorem keepsTargets_reportedHosts :
    keepsTargets osReconciler "n" reportedHosts
      (.controller (.calm ["n"] 0) "workers") = true := by
  decide +kernel

def stagedPass : PassState :=
  (osReconciler.reconcile (.calm ["n"] 0) "workers"
    (.start reportedHosts.world)).2

theorem stagedPass_starts :
    stagedPass.log.any (·.action.startsDrain "n") = true := by
  decide +kernel

/-- The pass after the report starts a drain, and the image of the pool is
staged. -/
theorem engaged_nodes_have_target_staged_single :
    ∃ before entry,
      (before, entry) ∈ transitions reportedHosts.world stagedPass.log ∧
      entry.action.startsDrain "n" = true ∧
      ∃ bn, before.api.bootcNode "n" = some bn ∧
        entryMatches osReconciler.references (reportedHosts.host "n").staged
          bn.spec.desiredImage = true := by
  obtain ⟨entry, member, isStart⟩ := List.any_eq_true.mp stagedPass_starts
  obtain ⟨before, isTransition⟩ :=
    exists_transition reportedHosts.world member
  obtain ⟨path, within⟩ := path_reportedHosts
  have engages : entry.action.engages "n" = true := by
    generalize entry.action = action at isStart ⊢
    cases action with
    | startDrain started => exact isStart
    | _ => cases isStart
  refine ⟨before, entry, isTransition, isStart, ?_⟩
  exact engaged_nodes_have_target_staged unengaged_singleStart path
    (Env.faithful_calm within (by decide))
    (keepsTargets_of_check within keepsTargets_reportedHosts) before entry
    "n" isTransition engages

/-! ## A retarget between the report and the slot -/

/-- The user asks for a third image. -/
def retargets : HostAction :=
  .users (editPool "workers" fun spec => { spec with imageRef := "os@c" })

def retargetedHosts : Hosts :=
  after osReconciler osDeploy reportedHosts [retargets]

def retargetedPass : PassState :=
  (osReconciler.reconcile (.calm ["n"] 0) "workers"
    (.start retargetedHosts.world)).2

/-- The pass has an action of the kind while the BootcNode of the node, in a
slot or not, asks for an image. -/
def engagesFor (s : PassState) (w : World) (kind : Action → Bool)
    (name : String) (slotted : Bool) (image : String) : Bool :=
  (transitions w s.log).any fun moment =>
    kind moment.2.action &&
      match moment.1.api.bootcNode name with
      | some bn =>
          bn.inRebootSlot == slotted && bn.spec.desiredImage == image
      | none => false

def assignsSlot (name : String) : Action → Bool
  | .wrote (.assignSlot other) => other = name
  | _ => false

theorem retargetedPass_assigns :
    engagesFor retargetedPass retargetedHosts.world (assignsSlot "n") "n"
      false "os@c" = true := by
  decide +kernel

theorem retargetedPass_drains :
    engagesFor retargetedPass retargetedHosts.world
      (Action.startsDrain "n") "n" true "os@c" = true := by
  decide +kernel

theorem retargetedHosts_host : retargetedHosts.host "n" = hostStagedB := by
  decide +kernel

/-- The pass after the retarget syncs the BootcNode to `os@c` and, from the
status that is about `os@b`, newly assigns a slot and starts a drain. -/
theorem drains_for_unstaged_image :
    singleStart.Unengaged osLibrary ∧
    (machine osReconciler osDeploy).Path Proper singleStart
      (reportsStaged ++ [retargets]) retargetedHosts ∧
    (Env.calm ["n"] 0).Faithful retargetedHosts.world ∧
    engagesFor retargetedPass retargetedHosts.world (assignsSlot "n") "n"
      false "os@c" = true ∧
    engagesFor retargetedPass retargetedHosts.world
      (Action.startsDrain "n") "n" true "os@c" = true ∧
    entryMatches osLibrary (retargetedHosts.host "n").staged "os@c" =
      false := by
  have tame : ∀ action ∈ [retargets], Tame ["n"] action :=
    List.forall_mem_singleton.mpr (tame_editPool _ _ _)
  have retargeted := path_of_reported (fun _ _ reads => reads) tame
    readsBooted_reportsStaged rfl
  refine ⟨unengaged_singleStart,
    retargeted.1.mono fun _ _ meets => meets.1,
    Env.faithful_calm retargeted.2 (by decide), retargetedPass_assigns,
    retargetedPass_drains, ?_⟩
  rw [retargetedHosts_host]
  decide

end Hosts

end BootcOperator
