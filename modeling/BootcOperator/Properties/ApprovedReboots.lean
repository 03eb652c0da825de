import BootcOperator.Daemon.RebootDiscipline
import BootcOperator.Hosts
import BootcOperator.Properties.DrainSlots

/-!
# Reboots of approved nodes

A daemon reboots an approved node whose desired image is staged; it does not
look at the slot.  The slot is there as long as no drain outlives it and a node
that has completed its update does not boot something else: an approved node
then holds a slot and has not reported the new image, or it runs the image
already.  The last section shows the run in which a drain outlives its slot.
-/

namespace BootcOperator

open BootcNodePoolReconciler BootcNodeReconciler

/-! ## What a pass keeps -/

/-- The approval of a BootcNode is backed: the node is in its slot with its
reboot to come, or its host runs the desired image. -/
def ApprovalBacked (lib : ReferenceLibrary) (host : HostStatus)
    (bn : BootcNode) : Prop :=
  bn.spec.desiredImageState = .booted →
    (bn.inRebootSlot = true ∧ reportsDesired lib bn = false) ∨
      entryMatches lib host.booted bn.spec.desiredImage = true

/-- Every approval of a stored BootcNode is backed by its host. -/
def ApprovalsBacked (lib : ReferenceLibrary) (host : String → HostStatus)
    (w : World) : Prop :=
  ∀ name bn, w.api.bootcNode name = some bn →
    ApprovalBacked lib (host name) bn

section Pass

variable {c : PassContext} {w w' : World} {action : Action}
  {budget : Option Int} {host : String → HostStatus} {name : String}

/-- A new version with the same spec and status, in a slot if the old one
was. -/
theorem ApprovalBacked.annotate
    {lib : ReferenceLibrary} {status : HostStatus} {bn : BootcNode}
    {annotations : Annotations BootcNodeKey}
    (backed : ApprovalBacked lib status bn)
    (slotted : bn.inRebootSlot = true → reportsDesired lib bn = false →
      annotations.has .inRebootSlot = true) :
    ApprovalBacked lib status { bn with annotations := annotations } := by
  intro approved
  rcases backed approved with ⟨inSlot, stale⟩ | runs
  · exact .inl ⟨slotted inSlot stale, stale⟩
  · exact .inr runs

theorem ApprovalBacked.sync
    {lib : ReferenceLibrary} {status : HostStatus} {bn : BootcNode}
    (backed : ApprovalBacked lib status bn) (r : BootcNodePoolReconciler)
    (pool : BootcNodePool) :
    ApprovalBacked lib status (bn.setSpec (r.syncedSpec pool bn.spec)) := by
  intro approved
  simp only [BootcNode.setSpec, syncedSpec] at approved
  split at approved
  · cases approved
  · next same =>
      have sameImage := not_not.mp same
      rcases backed approved with ⟨inSlot, stale⟩ | runs
      · refine .inl ⟨inSlot, ?_⟩
        rw [← stale]
        exact reportsDesired_congr sameImage.symm rfl
      · right
        rw [sameImage] at runs
        exact runs

/-- What a pass does to the BootcNode of a node. -/
theorem ApprovalBacked.change
    {after : Option BootcNode}
    (backed : ∀ bn, w.api.bootcNode name = some bn →
      ApprovalBacked c.reconciler.references (host name) bn)
    (inSlots : DrainsInSlots c w)
    (change : BootcNodeChange c name w action after) :
    ∀ bn, after = some bn →
      ApprovalBacked c.reconciler.references (host name) bn := by
  cases change with
  | kept => exact backed
  | created _ _ =>
      rintro _ ⟨⟩ approved
      cases approved
  | synced _ owns =>
      rintro _ ⟨⟩
      exact (backed _ owns.stored).sync _ _
  | @approved bn status owns entry _ =>
      rintro _ ⟨⟩ _
      have inSlot := inSlots name status entry
      rw [owns.stored] at inSlot
      obtain ⟨_, ⟨⟩, slotted⟩ := inSlot.slotted
      exact .inl ⟨slotted, (inSlot.behind bn rfl owns.controlled).1⟩
  | annotated owns slot =>
      rintro _ ⟨⟩
      exact (backed _ owns.stored).annotate fun inSlot _ => slot.trans inSlot
  | freed owns upToDate =>
      rintro _ ⟨⟩
      refine (backed _ owns.stored).annotate fun _ stale => ?_
      rw [reportsDesired_of_upToDate upToDate] at stale
      cases stale
  | assigned owns _ slotted =>
      rintro _ ⟨⟩
      exact (backed _ owns.stored).annotate fun _ _ => slotted
  | deleted _ _ =>
      rintro _ ⟨⟩

theorem Effect.approvalsBacked
    (effect : Effect c budget action w w') (inSlots : DrainsInSlots c w)
    (backed : ApprovalsBacked c.reconciler.references host w) :
    ApprovalsBacked c.reconciler.references host w' :=
  fun name => ApprovalBacked.change (backed name) inSlots
    (effect.bootcNodeChange name)

end Pass

/-! ## Runs -/

namespace Hosts

/-- No `Reconcile` of the controller meets a drain of a node that reports the
image it is to get, and no node boots another image than the desired one while
it is approved and either holds no slot or reports the desired image. -/
def KeepsApprovals (r : BootcNodePoolReconciler) (s : Hosts) :
    HostAction → Prop
  | .controller env request =>
      MeetsNoCompletedDrain r ⟨s.world, fun _ => 0⟩ (.reconcile env request)
  | .reboot name =>
      ∀ bn, s.world.api.bootcNode name = some bn →
        bn.spec.desiredImageState = .booted →
          (bn.inRebootSlot = true ∧
            reportsDesired r.references bn = false) ∨
          entryMatches r.references (s.host name).rebooted.booted
            bn.spec.desiredImage = true
  | _ => True

/-- The invariant: drains run in slots, and approvals are backed. -/
structure RebootsCovered (lib : ReferenceLibrary) (s : Hosts) : Prop where
  drains : DrainsSlotted s.world
  approvals : ApprovalsBacked lib s.host s.world

section Steps

variable {r : BootcNodePoolReconciler} {deploy : String → BootEntry}
  {s s' : Hosts}

theorem RebootsCovered.controller
    {env : Env} {request : String}
    (covered : RebootsCovered r.references s)
    (faithful : env.Faithful s.world)
    (meets : s.KeepsApprovals r (.controller env request)) :
    RebootsCovered r.references
      { s with fleet := s.fleet.afterController r env request } := by
  cases stored : s.world.api.pool request with
  | none =>
      have unchanged : (r.reconcile env request (.start s.fleet.world)).2 =
          .start s.fleet.world :=
        r.reconcile_of_missing request faithful stored
      rw [Fleet.afterController, unchanged]
      exact covered
  | some pool =>
      have inSlots := drainsInSlots_of_meets covered.drains stored meets
      obtain ⟨inSlots', backed⟩ := (r.reconcile_invariant request
        (fun w => DrainsInSlots (r.contextOf env request s.world) w ∧
          ApprovalsBacked r.references s.host w)
        (fun effect holds => ⟨effect.drainsInSlots holds.1,
          effect.approvalsBacked holds.1 holds.2⟩)
        faithful ⟨inSlots, covered.approvals⟩).1
      exact ⟨fun name status entry =>
        (inSlots' name status entry).slotted, backed⟩

/-- A report of the host's booted entry. -/
theorem RebootsCovered.daemon
    {name : String} {input : ReconcileInput}
    (covered : RebootsCovered r.references s)
    (proper : s.Proper (.daemon name input)) :
    RebootsCovered r.references
      { s with fleet := s.fleet.afterDaemon r.references name input } := by
  refine ⟨fun other status entry => ?_, fun other bn isBn => ?_⟩
  · obtain ⟨bn, isBn, slotted⟩ := covered.drains other status entry
    obtain ⟨bn', isBn', annotations⟩ :=
      Fleet.bootcNode_after_daemon r.references name input isBn
    refine ⟨bn', isBn', ?_⟩
    rw [BootcNode.inRebootSlot, annotations]
    exact slotted
  · rcases Fleet.bootcNode_before_daemon isBn with
      before | ⟨rfl, orig, inner, isOrig, takes, rfl⟩
    · exact covered.approvals other bn before
    · intro approved
      rcases covered.approvals other orig isOrig approved with
        ⟨slotted, stale⟩ | runs
      · rcases booted_of_takes takes with
          sameBooted | ⟨host, status, isBooted⟩
        · refine .inl ⟨slotted, ?_⟩
          rw [reportsDesired, sameBooted]
          exact stale
        · cases matched : entryMatches r.references (s.host other).booted
              orig.spec.desiredImage with
          | true => exact .inr matched
          | false =>
              refine .inl ⟨slotted, ?_⟩
              rw [reportsDesired, isBooted, proper.2 host status]
              exact matched
      · exact .inr runs

theorem RebootsCovered.step
    {action : HostAction} (covered : RebootsCovered r.references s)
    (proper : s.Proper action) (meets : s.KeepsApprovals r action)
    (stepped : (machine r deploy).step s action = some s') :
    RebootsCovered r.references s' := by
  cases action with
  | controller env request =>
      cases stepped
      exact covered.controller proper meets
  | drained name outcome =>
      obtain ⟨host, api, drains⟩ := world_of_drained stepped
      refine ⟨fun other status entry => ?_, fun other bn isBn => ?_⟩
      · have was : (s.world.drains other).isSome = true := by
          rw [← drains, entry]
          rfl
        obtain ⟨before, isBefore⟩ := Option.isSome_iff_exists.mp was
        rw [api]
        exact covered.drains other before isBefore
      · rw [host]
        rw [api] at isBn
        exact covered.approvals other bn isBn
  | daemon name input =>
      cases stepped
      exact covered.daemon proper
  | run name action lands =>
      obtain ⟨sameWorld, host⟩ := world_of_runStep stepped
      refine ⟨sameWorld ▸ covered.drains, fun other bn isBn => ?_⟩
      rw [sameWorld] at isBn
      have sameBooted : (s'.host other).booted = (s.host other).booted := by
        rw [host]
        by_cases same : other = name
        · subst same
          rw [Function.update_self, hostAfter_booted]
        · rw [Function.update_of_ne same]
      intro approved
      rw [sameBooted]
      exact covered.approvals other bn isBn approved
  | reboot name =>
      obtain ⟨sameWorld, host⟩ := world_of_reboot stepped
      refine ⟨sameWorld ▸ covered.drains, fun other bn isBn => ?_⟩
      rw [sameWorld] at isBn
      rw [host]
      by_cases same : other = name
      · subst same
        rw [Function.update_self]
        exact meets bn isBn
      · rw [Function.update_of_ne same]
        exact covered.approvals other bn isBn
  | users change =>
      cases stepped
      refine ⟨fun name status entry => ?_, fun name bn isBn => ?_⟩
      · have before : s.world.drains name = some status :=
          (congrFun proper.2 name).symm.trans entry
        obtain ⟨bn, isBn, slotted⟩ := covered.drains name status before
        exact ⟨bn, (congrFun proper.1 name).trans isBn, slotted⟩
      · exact covered.approvals name bn
          ((congrFun proper.1 name).symm.trans isBn)

/-- Nothing is drained and no BootcNode is approved yet. -/
structure Unapproved (s : Hosts) : Prop where
  undrained : ∀ name, s.world.drains name = none
  unapproved : ∀ name bn, s.world.api.bootcNode name = some bn →
    bn.spec.desiredImageState ≠ .booted

theorem rebootsCovered_of_path
    {start : Hosts} {actions : List HostAction} (fresh : start.Unapproved)
    (path : (machine r deploy).Path
      (fun s action => s.Proper action ∧ s.KeepsApprovals r action)
      start actions s) :
    RebootsCovered r.references s := by
  refine path.invariant (RebootsCovered r.references) ?_ ⟨?_, ?_⟩
  · exact fun covered meets stepped =>
      covered.step meets.1 meets.2 stepped
  · intro name status entry
    rw [fresh.undrained] at entry
    cases entry
  · intro name bn isBn approved
    exact absurd approved (fresh.unapproved name bn isBn)

/-- In every run that keeps the approvals covered, a daemon that gives
`Executor.Reboot` or `Executor.ApplyUpdate` does so on a node whose BootcNode
carries a reboot slot. -/
theorem approved_reboots_in_slots
    {start : Hosts} {actions : List HostAction} {name : String}
    {input : ReconcileInput} {command : RebootCommand}
    (fresh : start.Unapproved)
    (path : (machine r deploy).Path
      (fun s action => s.Proper action ∧ s.KeepsApprovals r action)
      start actions s)
    (proper : s.Proper (.daemon name input))
    (commanded : (s.fleet.daemonOutcome r.references name input).command =
      some command) :
    ∃ bn, (s.fleet.daemonOutcome r.references name input).bootcNode =
        some bn ∧ bn.inRebootSlot = true := by
  have covered := rebootsCovered_of_path fresh path
  obtain ⟨⟨bn, host, digest, approved⟩, _⟩ := approved_of_command commanded
  have sameBooted := proper.2 host approved.status
  have slotted : bn.inRebootSlot = true := by
    rcases covered.approvals name bn approved.read approved.state with
      inSlot | runs
    · exact inSlot.1
    · rw [entryMatches_of_digest approved.desired, ← sameBooted,
        approved.notBooted] at runs
      cases runs
  rcases s.fleet.daemonOutcome_bootcNode with
    kept | ⟨orig, inner, isOrig, _, isReported⟩
  · exact ⟨bn, kept.trans approved.read, slotted⟩
  · obtain rfl := Option.some.inj (isOrig.symm.trans approved.read)
    exact ⟨_, isReported, slotted⟩

end Steps

/-! ## A reboot in its slot -/

/-- The two conditions of the runs, for one node that is looked at. -/
def keepsApprovals (r : BootcNodePoolReconciler) (name : String)
    (s : Hosts) : HostAction → Bool
  | .controller env request =>
      match s.world.drains name, s.world.api.bootcNode name with
      | some _, some bn =>
          !reportsDesired r.references bn &&
            !reportsImage r.references bn
              (r.contextOf env request s.world).desiredImage
      | _, _ => true
  | .reboot _ => false
  | action => s.readsBooted action

theorem keepsApprovals_of_check
    {r : BootcNodePoolReconciler} {name : String} {s : Hosts}
    {action : HostAction} (within : s.world.Within [name])
    (passes : keepsApprovals r name s action = true) :
    s.KeepsApprovals r action := by
  cases action with
  | controller env request =>
      intro pool _ other status bn entry isBn _
      obtain rfl : other = name := by
        simpa using within.bootcNode other (by simp [show
          s.world.api.bootcNode other = some bn from isBn])
      have isEntry : s.world.drains other = some status := entry
      have isStored : s.world.api.bootcNode other = some bn := isBn
      simpa [keepsApprovals, isEntry, isStored] using passes
  | reboot name => cases passes
  | _ => trivial

/-- The drain of `n` succeeds, and the next `Reconcile` approves. -/
def approvedRun : List HostAction :=
  [.controller (.calm ["n"] 0) "workers", .drained "n" .succeeded,
    .controller (.calm ["n"] 0) "workers"]

theorem tame_approvedRun : ∀ action ∈ approvedRun, Tame ["n"] action := by
  intro action member
  simp only [approvedRun, List.mem_cons, List.not_mem_nil, or_false] at member
  rcases member with rfl | rfl | rfl
  · exact ⟨0, rfl⟩
  · trivial
  · exact ⟨0, rfl⟩

theorem unapproved_singleStart : singleStart.Unapproved where
  undrained _ := rfl
  unapproved _ _ isBn := nomatch isBn

theorem keepsApprovals_reportsStaged :
    (machine osReconciler osDeploy).checks (keepsApprovals osReconciler "n")
      singleStart reportsStaged = true := by
  decide +kernel

theorem keepsApprovals_approvedRun :
    (machine osReconciler osDeploy).checks (keepsApprovals osReconciler "n")
      reportedHosts approvedRun = true := by
  decide +kernel

def approvedHosts : Hosts :=
  after osReconciler osDeploy reportedHosts approvedRun

theorem approvedHosts_commanded :
    (approvedHosts.fleet.daemonOutcome osReconciler.references "n"
      (calmInput hostStagedB)).command = some .reboot := by
  decide +kernel

theorem approvedHosts_booted :
    hostStagedB.booted = (approvedHosts.host "n").booted := by
  decide +kernel

theorem readsBooted_of_keepsApprovals
    (r : BootcNodePoolReconciler) (name : String) (s : Hosts)
    (action : HostAction) (passes : keepsApprovals r name s action = true) :
    s.readsBooted action = true := by
  cases action with
  | daemon name input => exact passes
  | _ => rfl

theorem path_approvedHosts :
    (machine osReconciler osDeploy).Path
      (fun s action => s.Proper action ∧ s.KeepsApprovals osReconciler action)
      singleStart (reportsStaged ++ approvedRun) approvedHosts :=
  (path_of_reported (readsBooted_of_keepsApprovals osReconciler "n")
    tame_approvedRun keepsApprovals_reportsStaged
    keepsApprovals_approvedRun).1.mono
      fun _ _ meets => ⟨meets.1, keepsApprovals_of_check meets.2.1 meets.2.2⟩

/-- The daemon then reboots the node in its slot. -/
theorem approved_reboots_in_slots_single :
    (approvedHosts.fleet.daemonOutcome osReconciler.references "n"
        (calmInput hostStagedB)).command = some .reboot ∧
      ∃ bn, (approvedHosts.fleet.daemonOutcome osReconciler.references "n"
          (calmInput hostStagedB)).bootcNode = some bn ∧
        bn.inRebootSlot = true := by
  have proper : approvedHosts.Proper
      (.daemon "n" (calmInput hostStagedB)) := by
    refine ⟨rfl, ?_⟩
    rintro host ⟨⟩
    exact approvedHosts_booted
  exact ⟨approvedHosts_commanded, approved_reboots_in_slots
    unapproved_singleStart path_approvedHosts proper
    approvedHosts_commanded⟩

/-! ## A drain that outlives its slot -/

/-- While the node is drained, the user goes back to the image it runs, and
its slot is freed.  When the drain has ended, the user rolls out `os@b` again
and pauses the rollout: the next pass approves the reboot, but gives no
slot. -/
def outlivedRun : List HostAction :=
  [.controller (.calm ["n"] 0) "workers",
    .users (editPool "workers" fun spec => { spec with imageRef := "os@a" }),
    .controller (.calm ["n"] 0) "workers", .drained "n" .succeeded,
    .users (editPool "workers" fun spec =>
      { spec with
        imageRef := "os@b"
        rollout :=
          some
            { maxUnavailable := none
              paused := true
              drainTimeoutSeconds := none
              rebootTimeoutSeconds := none } }),
    .controller (.calm ["n"] 0) "workers"]

theorem tame_outlivedRun : ∀ action ∈ outlivedRun, Tame ["n"] action := by
  intro action member
  simp only [outlivedRun, List.mem_cons, List.not_mem_nil, or_false] at member
  rcases member with rfl | rfl | rfl | rfl | rfl | rfl
  · exact ⟨0, rfl⟩
  · exact tame_editPool _ _ _
  · exact ⟨0, rfl⟩
  · trivial
  · exact tame_editPool _ _ _
  · exact ⟨0, rfl⟩

/-- The daemon reboots the node outside of any slot. -/
theorem reboot_outside_slot :
    let s := after osReconciler osDeploy reportedHosts outlivedRun
    singleStart.Unapproved ∧
    (machine osReconciler osDeploy).Path Proper singleStart
      (reportsStaged ++ outlivedRun) s ∧
    s.Proper (.daemon "n" (calmInput hostStagedB)) ∧
    s.host "n" = hostStagedB ∧
    (s.fleet.daemonOutcome osLibrary "n" (calmInput hostStagedB)).command =
      some .reboot ∧
    (s.world.api.bootcNode "n").map BootcNode.inRebootSlot = some false ∧
    ((s.fleet.daemonOutcome osLibrary "n"
      (calmInput hostStagedB)).bootcNode).map BootcNode.inRebootSlot =
        some false := by
  intro s
  have host : s.host "n" = hostStagedB := by decide +kernel
  have passes : (machine osReconciler osDeploy).checks readsBooted
      reportedHosts outlivedRun = true := by
    decide +kernel
  obtain ⟨path, _⟩ := path_of_reported (fun _ _ reads => reads)
    tame_outlivedRun readsBooted_reportsStaged passes
  refine ⟨unapproved_singleStart, path.mono fun _ _ meets => meets.1,
    ⟨rfl, ?_⟩, host, by decide +kernel, by decide +kernel,
    by decide +kernel⟩
  rintro _ ⟨⟩
  rw [host]

end Hosts

end BootcOperator
