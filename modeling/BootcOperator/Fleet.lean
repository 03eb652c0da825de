import BootcOperator.Agreement
import BootcOperator.Daemon.InFlight
import BootcOperator.Effects.Reconcile
import BootcOperator.Effects.Tables

/-!
# The controller and the daemons together

A `Fleet` is the world of the controller with the daemon of every node.  A
`Reconcile` of the controller works on all objects of a pool, a `Reconcile` of
a daemon on the BootcNode of its node; the stage operations, the drains, the
users and the nodes themselves go on in between.
-/

namespace BootcOperator

open BootcNodeReconciler

/-- The controller's world and the daemons of all nodes. -/
structure Fleet where
  world : World
  /-- the reconciler of the daemon on a node -/
  daemon : String → BootcNodeReconciler

/-- One move of a participant. -/
inductive FleetAction where
  | controller (env : Env) (request : String)
  | daemon (name : String) (input : ReconcileInput)
  /-- a `run` call on a node moves, or an event is taken from `done` -/
  | run (name : String) (action : StageOp.Action)
  /-- the daemon of a node is started anew, after a reboot for example -/
  | restart (name : String)
  /-- a drain ends, a Node changes, a user edits a pool -/
  | others (change : World → World)

namespace Fleet

/-- The daemon of a node before anything is staged. -/
def freshDaemon (name : String) (authFile : Option String) :
    BootcNodeReconciler :=
  { nodeName := name
    inflight := .initial
    rebootIssued := false
    authFile := authFile }

def initial (world : World) : Fleet :=
  { world := world
    daemon := fun name => freshDaemon name none }

def daemonOutcome (s : Fleet) (lib : ReferenceLibrary) (name : String)
    (input : ReconcileInput) : ReconcileOutcome :=
  (s.daemon name).reconcile lib input (s.world.api.bootcNode name)

def setDaemon (s : Fleet) (name : String) (daemon : BootcNodeReconciler) :
    Fleet :=
  { s with daemon := Function.update s.daemon name daemon }

/-- A `Reconcile` of the controller. -/
def afterController (s : Fleet) (r : BootcNodePoolReconciler) (env : Env)
    (request : String) : Fleet :=
  { s with world := (r.reconcile env request (.start s.world)).2.world }

/-- A `Reconcile` of the daemon of a node. -/
def afterDaemon (s : Fleet) (lib : ReferenceLibrary) (name : String)
    (input : ReconcileInput) : Fleet :=
  let outcome := s.daemonOutcome lib name input
  { s.setDaemon name outcome.reconciler with
    world := s.world.putBootcNode name outcome.bootcNode }

def step (r : BootcNodePoolReconciler) (s : Fleet) :
    FleetAction → Option Fleet
  | .controller env request => some (s.afterController r env request)
  | .daemon name input => some (s.afterDaemon r.references name input)
  | .run name action =>
      if action.runOf.isSome ∨ action = .receive then
        ((s.daemon name).inflight.step action).map fun inflight =>
          s.setDaemon name { s.daemon name with inflight := inflight }
      else none
  | .restart name =>
      some (s.setDaemon name (freshDaemon name (s.daemon name).authFile))
  | .others change => some { s with world := change s.world }

/-- Controller and daemons, interleaved in any order. -/
def machine (r : BootcNodePoolReconciler) : Machine Fleet FleetAction :=
  ⟨step r⟩

/-- The reads of the controller see all earlier writes, and nobody else writes
BootcNodes. -/
def Proper (s : Fleet) : FleetAction → Prop
  | .controller env _ => env.Faithful s.world
  | .others change =>
      ∀ name bn, (change s.world).api.bootcNode name = some bn →
        s.world.api.bootcNode name = some bn
  | _ => True

section Daemon

variable {lib : ReferenceLibrary} {s : Fleet} {name : String}
  {input : ReconcileInput}

/-- The BootcNode of a node after a `Reconcile` of its daemon: the one it was,
or that one with the reported status. -/
theorem daemonOutcome_bootcNode :
    (s.daemonOutcome lib name input).bootcNode =
        s.world.api.bootcNode name ∨
      ∃ orig inner, s.world.api.bootcNode name = some orig ∧
        (s.daemon name).reconcileBootcNode lib input
          (started orig input.now) = some inner ∧
        (s.daemonOutcome lib name input).bootcNode =
          some (reported orig input.now inner) := by
  unfold daemonOutcome
  cases persisted : ((s.daemon name).reconcile lib input
      (s.world.api.bootcNode name)).persisted with
  | some inner =>
      obtain ⟨orig, stored, _, _, _, returned, outcome⟩ :=
        reconcile_of_persisted persisted
      rw [outcome, issueReboot_bootcNode]
      exact .inr ⟨orig, inner, stored, returned, rfl⟩
  | none =>
      have reconciles := reconcile_reconciles lib input (s.daemon name)
        (s.world.api.bootcNode name)
      generalize (s.daemon name).reconcile lib input
        (s.world.api.bootcNode name) = outcome at *
      cases reconciles with
      | skipped _ => exact .inl rfl
      | failed => exact .inl rfl
      | unpatched runs _ => exact .inl runs.stored.symm
      | persisted runs =>
          rw [issueReboot_persisted] at persisted
          cases persisted

theorem afterDaemon_bootcNode (other : String) :
    (s.afterDaemon lib name input).world.api.bootcNode other =
      if other = name then (s.daemonOutcome lib name input).bootcNode
      else s.world.api.bootcNode other :=
  s.world.putBootcNode_bootcNode name other _

/-- A BootcNode behind a `Reconcile` of a daemon was there before, or it
carries the status that the daemon has reported. -/
theorem bootcNode_before_daemon
    {other : String} {bn : BootcNode}
    (stored : (s.afterDaemon lib name input).world.api.bootcNode other =
      some bn) :
    s.world.api.bootcNode other = some bn ∨
      other = name ∧ ∃ orig inner, s.world.api.bootcNode name = some orig ∧
        Takes lib input (s.daemon name) (started orig input.now) inner ∧
        reported orig input.now inner = bn := by
  rw [afterDaemon_bootcNode] at stored
  split at stored
  · next same =>
      have outcome : (s.daemonOutcome lib name input).bootcNode =
          s.world.api.bootcNode name ∨ _ := daemonOutcome_bootcNode
      rcases outcome with kept | ⟨orig, inner, isOrig, returned, isReported⟩
      · exact .inl (same ▸ kept.symm.trans stored)
      · exact .inr ⟨same, orig, inner, isOrig,
          reconcileBootcNode_takes returned,
          Option.some.inj (isReported.symm.trans stored)⟩
  · exact .inl stored

/-- No daemon deletes or annotates a BootcNode. -/
theorem bootcNode_after_daemon
    (lib : ReferenceLibrary) (name : String) (input : ReconcileInput)
    {other : String} {bn : BootcNode}
    (stored : s.world.api.bootcNode other = some bn) :
    ∃ bn', (s.afterDaemon lib name input).world.api.bootcNode other =
        some bn' ∧ bn'.annotations = bn.annotations := by
  rw [afterDaemon_bootcNode]
  split
  · next same =>
      have outcome : (s.daemonOutcome lib name input).bootcNode =
          s.world.api.bootcNode name ∨ _ := daemonOutcome_bootcNode
      rcases outcome with kept | ⟨orig, inner, isOrig, _, isReported⟩
      · exact ⟨bn, kept.trans (same ▸ stored), rfl⟩
      · obtain rfl : orig = bn :=
          Option.some.inj (isOrig.symm.trans (same ▸ stored))
        exact ⟨_, isReported, rfl⟩
  · exact ⟨bn, stored, rfl⟩

theorem world_of_run
    {r : BootcNodePoolReconciler} {action : StageOp.Action} {s' : Fleet}
    (stepped : step r s (.run name action) = some s') :
    s'.world = s.world := by
  unfold step at stepped
  dsimp only at stepped
  split_ifs at stepped
  obtain ⟨inflight, _, rfl⟩ := Option.map_eq_some_iff.mp stepped
  rfl

end Daemon

def after (r : BootcNodePoolReconciler) (world : World)
    (actions : List FleetAction) : Fleet :=
  ((machine r).run (initial world) actions).getD (initial world)

theorem run_eq_after
    {r : BootcNodePoolReconciler} {world : World} {actions : List FleetAction}
    (executes : ((machine r).run (initial world) actions).isSome = true) :
    (machine r).run (initial world) actions = some (after r world actions) := by
  obtain ⟨s, executed⟩ := Option.isSome_iff_exists.mp executes
  rw [after, executed, Option.getD_some]

/-- The actions of runs over some nodes in which no request of the controller
fails. -/
def Tame (names : List String) : FleetAction → Prop
  | .controller env _ => ∃ now, env = .calm names now
  | .daemon name _ => name ∈ names
  | .others change =>
      ∀ w, w.Within names →
        (change w).Within names ∧ (change w).api.bootcNode = w.api.bootcNode
  | _ => True

section Tame

variable {r : BootcNodePoolReconciler} {names : List String} {s s' : Fleet}

theorem Tame.step
    {action : FleetAction} (nodup : names.Nodup) (tame : Tame names action)
    (within : s.world.Within names)
    (stepped : (machine r).step s action = some s') :
    s.Proper action ∧ s'.world.Within names := by
  cases action with
  | controller env request =>
      obtain ⟨now, rfl⟩ := tame
      cases stepped
      have faithful : (Env.calm names now).Faithful s.world :=
        Env.faithful_calm within nodup
      exact ⟨faithful, r.reconcile_within request faithful within⟩
  | daemon name input =>
      cases stepped
      exact ⟨trivial, within.putBootcNode tame _⟩
  | run name action =>
      have same : s'.world = s.world := world_of_run (r := r) stepped
      rw [same]
      exact ⟨trivial, within⟩
  | restart name =>
      cases stepped
      exact ⟨trivial, within⟩
  | others change =>
      cases stepped
      obtain ⟨withinAfter, bootcNodes⟩ := tame s.world within
      refine ⟨fun name bn stored => ?_, withinAfter⟩
      rwa [bootcNodes] at stored

theorem path_of_tame
    {actions : List FleetAction} (nodup : names.Nodup)
    (tame : ∀ action ∈ actions, Tame names action)
    (within : s.world.Within names)
    (executed : (machine r).run s actions = some s') :
    (machine r).Path
        (fun s action => s.Proper action ∧ s.world.Within names) s actions s' ∧
      s'.world.Within names := by
  obtain ⟨path, withinAfter⟩ := (Machine.path_of_run executed).keeping
    (·.world.Within names)
    (fun {_ action _} (tame : Tame names action) within _ stepped =>
      tame.step nodup within stepped) tame within
  exact ⟨path.mono fun _ _ meets => ⟨meets.1, meets.2.1⟩, withinAfter⟩

end Tame

end Fleet

end BootcOperator
