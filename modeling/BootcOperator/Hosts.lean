import BootcOperator.Daemon.StatusWrites
import BootcOperator.Fleet

/-!
# The fleet and its hosts

`Hosts` adds to the fleet what is deployed on each host: a stage operation
that lands puts its image into the staged entry, and a reboot boots it.  The
daemon of a node reports the entries of its own host.
-/

namespace BootcOperator

open BootcNodeReconciler

/-- The boot entry is of this image. -/
def entryMatches (lib : ReferenceLibrary) (entry : Option BootEntry)
    (image : String) : Bool :=
  match lib.digestOf image with
  | none => false
  | some digest => infoMatchesDigest lib (convertBootEntry entry) digest

theorem entryMatches_of_digest
    {lib : ReferenceLibrary} {entry : Option BootEntry}
    {image digest : String} (desired : lib.digestOf image = some digest) :
    entryMatches lib entry image =
      infoMatchesDigest lib (convertBootEntry entry) digest := by
  rw [entryMatches, desired]

/-- A reboot boots the staged entry, if there is one. -/
def HostStatus.rebooted (host : HostStatus) : HostStatus :=
  match host.staged with
  | none => host
  | some entry =>
      { staged := none
        booted := some entry
        rollback := host.booted }

/-- The fleet together with the hosts themselves. -/
structure Hosts where
  fleet : Fleet
  /-- what `bootc status` would show on a node -/
  host : String → HostStatus

inductive HostAction where
  | controller (env : Env) (request : String)
  /-- the goroutine of a drain sends its result -/
  | drained (name : String) (outcome : DrainOutcome)
  | daemon (name : String) (input : ReconcileInput)
  /-- a `run` call on a node moves; `lands` tells whether an
  `Executor.Stage` that returns has left its image staged -/
  | run (name : String) (action : StageOp.Action) (lands : Bool)
  | reboot (name : String)
  /-- users edit pools, and Nodes change -/
  | users (change : World → World)

namespace Hosts

variable (r : BootcNodePoolReconciler) (deploy : String → BootEntry)

def world (s : Hosts) : World :=
  s.fleet.world

def setHost (s : Hosts) (name : String) (host : HostStatus) : Hosts :=
  { s with host := Function.update s.host name host }

/-- A stage that lands leaves its image in the staged slot. -/
def hostAfter (s : Hosts) (name : String) (action : StageOp.Action)
    (lands : Bool) : HostStatus :=
  match action with
  | .stageReturns i _ =>
      if lands then
        { s.host name with
          staged :=
            some (deploy ((s.fleet.daemon name).inflight.runs i).image) }
      else s.host name
  | _ => s.host name

def step (s : Hosts) : HostAction → Option Hosts
  | .controller env request =>
      some { s with fleet := s.fleet.afterController r env request }
  | .drained name outcome =>
      match s.world.drains name with
      | none => none
      | some status =>
          if status.outcome = .running ∧ outcome ≠ .running then
            some
              { s with
                fleet :=
                  { s.fleet with
                    world :=
                      s.world.putDrain name
                        (some { status with outcome := outcome }) } }
          else none
  | .daemon name input =>
      some { s with fleet := s.fleet.afterDaemon r.references name input }
  | .run name action lands =>
      (s.fleet.step r (.run name action)).map fun fleet =>
        { s.setHost name (s.hostAfter deploy name action lands) with
          fleet := fleet }
  | .reboot name =>
      (s.fleet.step r (.restart name)).map fun fleet =>
        { s.setHost name (s.host name).rebooted with fleet := fleet }
  | .users change =>
      some { s with fleet := { s.fleet with world := change s.world } }

/-- Controller, daemons, drains, hosts and users, interleaved in any order.
Staging a reference leaves the entry that `deploy` gives for it. -/
def machine : Machine Hosts HostAction :=
  ⟨step r deploy⟩

/-- The reads of the controller see all earlier writes, a daemon reads the
booted entry of its host, a `Reconcile` of a daemon is one step, and nobody
but controller and daemons writes BootcNodes or drains.  What a daemon reads
as staged may be out of date. -/
def Proper (s : Hosts) : HostAction → Prop
  | .controller env _ => env.Faithful s.world
  | .daemon name input =>
      input.gap = (fun _ => []) ∧
        ∀ host, input.status = .ok host → host.booted = (s.host name).booted
  | .users change =>
      (change s.world).api.bootcNode = s.world.api.bootcNode ∧
        (change s.world).drains = s.world.drains
  | _ => True

variable {r deploy}

theorem hostAfter_booted
    (s : Hosts) (name : String) (action : StageOp.Action) (lands : Bool) :
    (s.hostAfter deploy name action lands).booted = (s.host name).booted := by
  unfold hostAfter
  cases action with
  | stageReturns i err => cases lands <;> rfl
  | _ => rfl

section

variable {s s' : Hosts} {name : String}

theorem world_of_runStep
    {action : StageOp.Action} {lands : Bool}
    (stepped : (machine r deploy).step s (.run name action lands) = some s') :
    s'.world = s.world ∧
      s'.host =
        Function.update s.host name (s.hostAfter deploy name action lands) := by
  obtain ⟨fleet, moved, rfl⟩ := Option.map_eq_some_iff.mp stepped
  exact ⟨Fleet.world_of_run moved, rfl⟩

theorem world_of_reboot
    (stepped : (machine r deploy).step s (.reboot name) = some s') :
    s'.world = s.world ∧
      s'.host = Function.update s.host name (s.host name).rebooted := by
  cases stepped
  exact ⟨rfl, rfl⟩

theorem world_of_drained
    {outcome : DrainOutcome}
    (stepped : (machine r deploy).step s (.drained name outcome) = some s') :
    s'.host = s.host ∧ s'.world.api = s.world.api ∧
      ∀ other, (s'.world.drains other).isSome =
        (s.world.drains other).isSome := by
  simp only [machine, step] at stepped
  split at stepped
  · cases stepped
  · next status entry =>
      split at stepped
      · cases stepped
        refine ⟨rfl, rfl, fun other => ?_⟩
        simp only [world, World.putDrain_drains]
        split
        · next same =>
            have isEntry : s.fleet.world.drains other = some status := by
              rw [same]
              exact entry
            rw [isEntry]
            rfl
        · rfl
      · cases stepped

end

/-- Moves under which only the listed nodes occur. -/
def Tame (names : List String) : HostAction → Prop
  | .controller env _ => ∃ now, env = .calm names now
  | .daemon name input => name ∈ names ∧ input.gap = fun _ => []
  | .users change =>
      ∀ w, (change w).api.node = w.api.node ∧
        (change w).api.bootcNode = w.api.bootcNode ∧
        (change w).drains = w.drains
  | _ => True

/-- The daemon reads the entry that is booted. -/
def readsBooted (s : Hosts) : HostAction → Bool
  | .daemon name input =>
      match input.status with
      | .ok host => host.booted = (s.host name).booted
      | .error _ => true
  | _ => true

def after (r : BootcNodePoolReconciler) (deploy : String → BootEntry)
    (start : Hosts) (actions : List HostAction) : Hosts :=
  ((machine r deploy).run start actions).getD start

section Tame

variable {names : List String} {s s' : Hosts} {action : HostAction}

theorem Tame.step
    (nodup : names.Nodup) (tame : Tame names action)
    (reads : s.readsBooted action = true) (within : s.world.Within names)
    (stepped : (machine r deploy).step s action = some s') :
    s.Proper action ∧ s'.world.Within names := by
  cases action with
  | controller env request =>
      obtain ⟨now, rfl⟩ := tame
      cases stepped
      have faithful : (Env.calm names now).Faithful s.world :=
        Env.faithful_calm within nodup
      exact ⟨faithful, r.reconcile_within request faithful within⟩
  | drained name outcome =>
      obtain ⟨_, api, drains⟩ := world_of_drained stepped
      refine ⟨trivial, api ▸ within.node, api ▸ within.bootcNode,
        fun other present => within.drain other ?_⟩
      rw [← Option.isSome_iff_ne_none] at present ⊢
      rw [← drains, present]
  | daemon name input =>
      cases stepped
      refine ⟨⟨tame.2, fun host status => ?_⟩,
        within.putBootcNode tame.1 _⟩
      simpa [readsBooted, status] using reads
  | run name action lands =>
      obtain ⟨same, _⟩ := world_of_runStep stepped
      exact ⟨trivial, same ▸ within⟩
  | reboot name =>
      obtain ⟨same, _⟩ := world_of_reboot stepped
      exact ⟨trivial, same ▸ within⟩
  | users change =>
      cases stepped
      obtain ⟨nodes, bootcNodes, drains⟩ := tame s.world
      exact ⟨⟨bootcNodes, drains⟩, nodes ▸ within.node,
        bootcNodes ▸ within.bootcNode, drains ▸ within.drain⟩

theorem path_of_tame
    {check : Hosts → HostAction → Bool} {actions : List HostAction}
    (nodup : names.Nodup) (tame : ∀ action ∈ actions, Tame names action)
    (reads : ∀ s action, check s action = true → s.readsBooted action = true)
    (within : s.world.Within names)
    (passes : (machine r deploy).checks check s actions = true) :
    (machine r deploy).Path
        (fun s action => s.Proper action ∧ s.world.Within names ∧
          check s action = true)
        s actions (after r deploy s actions) ∧
      (after r deploy s actions).world.Within names := by
  obtain ⟨s', path⟩ := Machine.path_of_checks passes
  rw [after, path.run_eq, Option.getD_some]
  exact path.keeping (·.world.Within names)
    (fun {_ action _} (tame : Tame names action) within here stepped =>
      tame.step nodup (reads _ _ here) within stepped) tame within

end Tame

def editPool (request : String) (edit : BootcNodePoolSpec → BootcNodePoolSpec)
    (w : World) : World :=
  match w.api.pool request with
  | none => w
  | some pool =>
      w.putPool request (some { pool with spec := edit pool.spec })

theorem tame_editPool
    (names : List String) (request : String)
    (edit : BootcNodePoolSpec → BootcNodePoolSpec) :
    Tame names (.users (editPool request edit)) := by
  intro w
  unfold editPool
  split
  · exact ⟨rfl, rfl, rfl⟩
  · exact ⟨rfl, rfl, rfl⟩

def singleStart : Hosts :=
  { fleet := .initial (Tables.world
      { nodes := [("n", plainNode)]
        pools := [("workers", osPool "os@b")] })
    host := fun _ => ⟨none, some (bootEntry "os@a" "a"), none⟩ }

/-- Staging a reference of `osLibrary` deploys its digest. -/
def osDeploy (image : String) : BootEntry :=
  bootEntry image ((osLibrary.digestOf image).getD "")

/-- The first stage operation of the node runs and succeeds. -/
def stagesFirst : List HostAction :=
  [.run "n" (.lockRun 0) false, .run "n" (.checkContext 0) false,
    .run "n" (.startStage 0) false, .run "n" (.stageReturns 0 none) true,
    .run "n" (.publish 0) false, .run "n" (.send 0) false,
    .run "n" (.unlockRun 0) false]

/-- The daemon of `n` stages `os@b` and reports it. -/
def reportsStaged : List HostAction :=
  [.controller (.calm ["n"] 0) "workers",
    .daemon "n" (calmInput ⟨none, some (bootEntry "os@a" "a"), none⟩)] ++
    stagesFirst ++ [.daemon "n" (calmInput hostStagedB)]

theorem tame_reportsStaged :
    ∀ action ∈ reportsStaged, Tame ["n"] action := by
  intro action member
  simp only [reportsStaged, stagesFirst, List.cons_append, List.nil_append,
    List.mem_cons, List.not_mem_nil, or_false] at member
  rcases member with rfl | rfl | rfl | rfl | rfl | rfl | rfl | rfl | rfl | rfl
  · exact ⟨0, rfl⟩
  · exact ⟨by simp, rfl⟩
  all_goals trivial

theorem singleStart_within : singleStart.world.Within ["n"] :=
  Tables.within_names _

def reportedNode : BootcNode :=
  { stagedNode "os@b" "os@a" with
    annotations := .empty
    status :=
      { observedGeneration := 1
        booted := convertBootEntry hostStagedB.booted
        staged := convertBootEntry hostStagedB.staged
        rollback := none
        conditions :=
          [{ type := nodeIdle
             status := .conditionFalse
             reason := nodeReasonStaged
             message := ""
             observedGeneration := 1
             lastTransitionTime := 0 },
            { type := nodeDegraded
              status := .conditionFalse
              reason := nodeReasonHealthy
              message := ""
              observedGeneration := 1
              lastTransitionTime := 0 }] } }

/-- The world with this BootcNode under the name. -/
def pin (s : Hosts) (name : String) (found : Option BootcNode) : Hosts :=
  { s with
    fleet := { s.fleet with world := s.world.putBootcNode name found } }

theorem pin_eq
    {s : Hosts} {name : String} {found : Option BootcNode}
    (stored : s.world.api.bootcNode name = found) : s.pin name found = s := by
  have same : Function.update s.world.api.bootcNode name found =
      s.world.api.bootcNode := by
    rw [← stored]
    exact Function.update_eq_self name s.world.api.bootcNode
  rw [pin, World.putBootcNode, same]
  rfl

def reportedHosts : Hosts :=
  (after osReconciler osDeploy singleStart reportsStaged).pin "n"
    (some reportedNode)

theorem reportedHosts_eq :
    after osReconciler osDeploy singleStart reportsStaged = reportedHosts :=
  (pin_eq (by decide +kernel)).symm

theorem readsBooted_reportsStaged :
    (machine osReconciler osDeploy).checks readsBooted singleStart
      reportsStaged = true := by
  decide +kernel

theorem path_of_reported
    {check : Hosts → HostAction → Bool} {rest : List HostAction}
    (reads : ∀ s action, check s action = true → s.readsBooted action = true)
    (tame : ∀ action ∈ rest, Tame ["n"] action)
    (passes : (machine osReconciler osDeploy).checks check singleStart
      reportsStaged = true)
    (passesRest : (machine osReconciler osDeploy).checks check reportedHosts
      rest = true) :
    (machine osReconciler osDeploy).Path
        (fun s action => s.Proper action ∧ s.world.Within ["n"] ∧
          check s action = true)
        singleStart (reportsStaged ++ rest)
        (after osReconciler osDeploy reportedHosts rest) ∧
      (after osReconciler osDeploy reportedHosts rest).world.Within
        ["n"] := by
  obtain ⟨path, within⟩ := path_of_tame (by decide) tame_reportsStaged reads
    singleStart_within passes
  rw [reportedHosts_eq] at path within
  obtain ⟨pathRest, withinRest⟩ := path_of_tame (by decide) tame reads within
    passesRest
  exact ⟨path.append pathRest, withinRest⟩

end Hosts

/-- The booted entry in the status after a report: the host's, or the one
that was there before. -/
theorem booted_of_takes
    {lib : ReferenceLibrary} {input : ReconcileInput}
    {reconciler : BootcNodeReconciler} {orig : BootcNode}
    {inner : BootcNodeOutcome}
    (takes : Takes lib input reconciler (started orig input.now) inner) :
    (reported orig input.now inner).status.booted = orig.status.booted ∨
      ∃ host, input.status = .ok host ∧
        (reported orig input.now inner).status.booted =
          convertBootEntry host.booted := by
  rw [reported_booted]
  cases takes with
  | unreadable _ _ => exact .inl rfl
  | noBooted status _ => exact .inr ⟨_, status, rfl⟩
  | invalid status _ _ _ => exact .inr ⟨_, status, rfl⟩
  | booted status _ _ => exact .inr ⟨_, status, rfl⟩
  | stageFailed status _ _ _ => exact .inr ⟨_, status, rfl⟩
  | acts status _ _ _ => exact .inr ⟨_, status, rfl⟩

end BootcOperator
