import BootcOperator.Controller.Reconcile
import Mathlib.Data.Set.Card

/-!
# What a pass can do

`Effect` says once what a pass of the controller can do to the world, each
effect with the state in which it is done.  It is the abstract side of the
controller: the modules below show that every `Reconcile` is a chain of
effects, however its requests fail, and every invariant over runs of
reconciles is then a statement about single effects.
-/

namespace BootcOperator

/-- What a pass works with: the reconciler, its surroundings, the name it was
called with, the result of `resolveTargetDigest` if the pass gets to one, the
pool with the target digest it has settled on, and the Nodes that match. -/
structure PassContext where
  reconciler : BootcNodePoolReconciler
  env : Env
  request : String
  pool : BootcNodePool
  resolution : Option Resolution
  isMember : String → Bool

def PassContext.desiredImage (c : PassContext) : String :=
  c.reconciler.desiredImageFromPool c.pool

/-- The pass has a digest to roll out. -/
def PassContext.HasTarget (c : PassContext) : Prop :=
  ∃ resolution, c.resolution = some resolution ∧
    resolution.pool.status.targetDigest ≠ ""

/-- The nodes of the pool in a reboot slot. -/
def slottedNodes (pool : BootcNodePool) (api : Cluster) : Set String :=
  {name | ∃ bn, api.bootcNode name = some bn ∧
    bn.isControlledBy pool = true ∧ bn.inRebootSlot = true}

/-- A changed spec is a new generation. -/
def BootcNode.setSpec (bn : BootcNode) (spec : BootcNodeSpec) : BootcNode :=
  { bn with
    spec := spec
    generation :=
      if spec = bn.spec then bn.generation else bn.generation + 1 }

/-- The BootcNode is in the API server and controlled by the pool. -/
structure Owns (c : PassContext) (w : World) (name : String)
    (bn : BootcNode) : Prop where
  stored : w.api.bootcNode name = some bn
  controlled : bn.isControlledBy c.pool = true

/-- An owned BootcNode with the image of the pass, of a Node that matches. -/
structure OwnsTargeted (c : PassContext) (w : World) (name : String)
    (bn : BootcNode) : Prop extends Owns c w name bn where
  targeted : bn.spec.desiredImage = c.desiredImage
  member : c.isMember name = true

/-- A node whose update is complete: its BootcNode is classified up to date
against the target of the pass, and its Node is ready. -/
structure Completed (c : PassContext) (w : World) (name : String)
    (bn : BootcNode) (node : Node) : Prop
    extends OwnsTargeted c w name bn where
  upToDate : classifyNode c.reconciler.references bn = .ok .upToDate
  present : w.api.node name = some node
  isReady : nodeReadyStatus node = .conditionTrue

/-- A cordon that `was-cordoned` tells to lift is lifted. -/
def Uncordoned (w : World) (name : String) (bn : BootcNode) : Prop :=
  ∀ node, w.api.node name = some node →
    bn.annotations.known .wasCordoned = some "false" →
      node.unschedulable = false

/-- A slot may be taken: the node holds one already, or there is room. -/
def MayTakeSlot (c : PassContext) (budget : Option Int) (w : World)
    (bn : BootcNode) : Prop :=
  bn.inRebootSlot = true ∨
    ∃ maxUnavail, budget = some maxUnavail ∧
      (slottedNodes c.pool w.api).encard < (maxUnavail.toNat : ℕ∞)

/-- The drain has crossed the stall threshold without having been marked. -/
def DrainStatus.isOverdue (status : DrainStatus) (now : Time) : Bool :=
  status.isStalled = false ∧ drainStallThreshold ≤ now - status.startTime

def drainFailedEvent (pool : BootcNodePool) (name err : String) : Event :=
  { regarding := .bootcNode name
    related := some (.pool pool.name)
    type := .warning
    reason := eventReasonDrainFailed
    action := eventActionDrain
    note := .drainFailed err }

/-- The effects of a pass; `budget` is the value of `maxUnavailable` once the
pass has resolved it. -/
inductive Effect (c : PassContext) (budget : Option Int) :
    Action → World → World → Prop
  | updatePool {w : World} {old new : BootcNodePool} :
      w.api.pool c.request = some old →
      new.name = old.name → new.uid = old.uid → new.spec = old.spec →
      new.status = old.status →
      (finalizerPoolCleanup ∉ new.finalizers → ∀ name bn, ¬ Owns c w name bn) →
      Effect c budget (.wrote .updatePool) w (w.putPool c.request (some new))
  | releasePool {w : World} {old : BootcNodePool} :
      w.api.pool c.request = some old → (∀ name bn, ¬ Owns c w name bn) →
      Effect c budget (.wrote .updatePool) w (w.putPool c.request none)
  | updatePoolStatus {w : World} {old : BootcNodePool}
      {status : BootcNodePoolStatus} :
      w.api.pool c.request = some old →
      status.targetDigest = c.pool.status.targetDigest →
      Effect c budget (.wrote .updatePoolStatus) w
        (w.putPool c.request (some { old with status := status }))
  | labelNode {w : World} {name : String} {bn : BootcNode} {node : Node} :
      w.api.bootcNode name = some bn → w.api.node name = some node →
      Effect c budget (.wrote (.labelNode name)) w
        (w.putNode name
          (node.store
            { node with labels := { node.labels with managed := some "" } }))
  | unlabelNode {w : World} {name : String} {bn : BootcNode} {node : Node} :
      Owns c w name bn → w.api.node name = some node →
      Effect c budget (.wrote (.unlabelNode name)) w
        (w.putNode name
          (node.store
            { node with labels := { node.labels with managed := none } }))
  | createBootcNode {w : World} {name : String} {node : Node} :
      c.HasTarget → w.api.bootcNode name = none →
      w.api.node name = some node →
      Effect c budget (.wrote (.createBootcNode name)) w
        (w.putBootcNode name (some (c.reconciler.newBootcNode c.pool node)))
  | syncSpec {w : World} {name : String} {bn : BootcNode} :
      c.HasTarget → Owns c w name bn →
      Effect c budget (.wrote (.syncSpec name)) w
        (w.putBootcNode name
          (some (bn.setSpec (c.reconciler.syncedSpec c.pool bn.spec))))
  | cancelDrain {w : World} {name : String} {bn : BootcNode} :
      Owns c w name bn →
      Effect c budget (.cancelDrain name) w (w.putDrain name none)
  | restoreNode {w : World} {name : String} {bn : BootcNode} {node : Node}
      {owner : Annotations BootcNodeKey} :
      Owns c w name bn → w.api.node name = some node →
      (∀ key, key ≠ .ownsOsNotReadyTaint →
        owner.known key = bn.annotations.known key) →
      (owner.has .ownsOsNotReadyTaint = true →
        Completed c w name bn node ∧
          bn.annotations.has .ownsOsNotReadyTaint = true) →
      Effect c budget (.wrote (.restoreNode name)) w
        (w.putNode name
          (node.store (BootcNodePoolReconciler.restoredNode owner node)))
  | patchNodeClaim {w : World} {call : Call} {name claimName : String}
      {claim : NodeClaim} {annotations : Annotations KarpenterKey} :
      (call = .restoreClaim name ∨ call = .fenceClaim name) →
      w.api.nodeClaim claimName = some claim →
      Effect c budget (.wrote call) w
        (w.putNodeClaim claimName { claim with annotations := annotations })
  | deleteBootcNode {w : World} {name : String} {bn : BootcNode} :
      Owns c w name bn → c.isMember name = false → w.drains name = none →
      (∀ node, w.api.node name = some node →
        node.deletionTimestamp ≠ none ∨
          (Uncordoned w name bn ∧ node.labels.managed = none)) →
      Effect c budget (.wrote (.deleteBootcNode name)) w
        (w.putBootcNode name none)
  | markObserved {w : World} {name : String} {bn : BootcNode}
      {observation : String} :
      Owns c w name bn →
      Effect c budget (.wrote (.markObserved name)) w
        (w.putBootcNode name
          (some
            { bn with
              annotations :=
                bn.annotations.set .lastObservedState observation }))
  | collectDrain {w : World} {name : String} {status : DrainStatus} :
      w.drains name = some status → status.outcome ≠ .running →
      ((∀ bn, ¬ Owns c w name bn) ∨
        (status.outcome = .succeeded ∧
          c.env.fails (.approve name) ≠ none) ∨
        (status.outcome ≠ .succeeded ∧ status.cancelled = true)) →
      Effect c budget (.collectDrain name) w (w.putDrain name none)
  | reportDrain {w : World} {name err : String} {bn : BootcNode}
      {status : DrainStatus} :
      Owns c w name bn → w.drains name = some status →
      status.outcome = .failed err → status.cancelled = false →
      Effect c budget (.event (drainFailedEvent c.pool name err)) w
        (w.putDrain name none)
  | approve {w : World} {name : String} {bn : BootcNode}
      {status : DrainStatus} :
      OwnsTargeted c w name bn → w.drains name = some status →
      status.outcome = .succeeded →
      Effect c budget (.wrote (.approve name)) w
        ((w.putDrain name none).putBootcNode name
          (some
            (bn.setSpec { bn.spec with desiredImageState := .booted })))
  | freeSlot {w : World} {name : String} {bn : BootcNode} {node : Node} :
      Completed c w name bn node →
      bn.inRebootSlot = true → Uncordoned w name bn →
      Effect c budget (.wrote (.freeSlot name)) w
        (w.putBootcNode name
          (some
            { bn with
              annotations :=
                BootcNodePoolReconciler.freedAnnotations bn.annotations }))
  | removeTaint {w : World} {name : String} {bn : BootcNode} {node : Node} :
      Completed c w name bn node →
      bn.annotations.has .ownsOsNotReadyTaint = true →
      Effect c budget (.wrote (.removeTaint name)) w
        (w.putNode name
          (node.store
            { node with
              taints :=
                BootcNodePoolReconciler.removeOsNotReadyTaint
                  node.taints }))
  | clearTaint {w : World} {name : String} {bn : BootcNode} :
      Owns c w name bn →
      Effect c budget (.wrote (.clearTaint name)) w
        (w.putBootcNode name
          (some
            { bn with
              annotations := bn.annotations.delete .ownsOsNotReadyTaint }))
  | assignSlot {w : World} {name : String} {bn : BootcNode} {node : Node}
      {claim : Option NodeClaim} :
      OwnsTargeted c w name bn → w.api.node name = some node →
      classifyNode c.reconciler.references bn = .ok .staged →
      MayTakeSlot c budget w bn →
      Effect c budget (.wrote (.assignSlot name)) w
        (w.putBootcNode name
          (some
            { bn with
              annotations :=
                (BootcNodePoolReconciler.slotPlan bn node
                  claim).bootcNode }))
  | cordonNode {w : World} {name : String} {bn : BootcNode} {node : Node}
      {annotations : Annotations KarpenterKey} :
      Owns c w name bn → bn.inRebootSlot = true →
      w.api.node name = some node →
      Effect c budget (.wrote (.cordonNode name)) w
        (w.putNode name
          (node.store
            { node with unschedulable := true, annotations := annotations }))
  | startDrain {w : World} {name : String} {bn : BootcNode} :
      OwnsTargeted c w name bn →
      classifyNode c.reconciler.references bn = .ok .staged →
      bn.inRebootSlot = true → bn.spec.desiredImageState ≠ .booted →
      w.drains name = none →
      Effect c budget (.startDrain name) w
        (w.putDrain name
          (some
            { outcome := .running
              cancelled := false
              startTime := c.env.now
              isStalled := false }))
  | stallDrain {w : World} {name : String} {status : DrainStatus} :
      w.drains name = some status → status.isOverdue c.env.now = true →
      Effect c budget (.stallDrain name) w
        (w.putDrain name (some { status with isStalled := true }))
  | event {w : World} {event : Event} :
      Effect c budget (.event event) w w
  | resolve {w : World} {ref : String} {answer : Except String String} :
      Effect c budget (.resolve ref answer) w w

/-- The part of the state that steps are about. -/
structure Seen where
  world : World
  log : List Entry
  rolloutHalted : Bool
  maxUnavail : Option Int

def PassState.seen (s : PassState) : Seen :=
  { world := s.world
    log := s.log
    rolloutHalted := s.rolloutHalted
    maxUnavail := s.maxUnavail }

def EventNote.isStall : EventNote → Bool
  | .drainStalled _ => true
  | _ => false

/-- The marks and reports of stalled drains. -/
def Action.concernsStall : Action → Bool
  | .stallDrain _ => true
  | .event recorded => recorded.note.isStall
  | _ => false

/-- Every finished drain is taken out of `r.drains`. -/
def Collected (w : World) : Prop :=
  ∀ name status, w.drains name = some status → status.outcome = .running

/-- The steps of a pass: an effect, the halt of the rollout, or the resolution
of `maxUnavailable`.  Only `recordDrainStalls` is `loud`. -/
inductive Step (c : PassContext) (loud : Bool) : Seen → Seen → Prop
  | act {seen : Seen} {action : Action} {world : World} :
      (loud || !action.concernsStall) = true →
      Effect c seen.maxUnavail action seen.world world →
      Step c loud seen
        { seen with
          world := world
          log := seen.log ++ [⟨action, world⟩] }
  | halt {seen : Seen} :
      seen.maxUnavail = none → Collected seen.world →
      Step c loud seen { seen with rolloutHalted := true }
  | resolveMaxUnavailable {seen : Seen} {maxUnavail : Int} :
      seen.maxUnavail = none → seen.rolloutHalted = false →
      Collected seen.world →
      (∃ nodeCount,
        c.reconciler.resolveMaxUnavailable c.pool nodeCount =
          .ok maxUnavail) →
      Step c loud seen { seen with maxUnavail := some maxUnavail }

/-- The regimes under which passes are verified: they differ in the steps they
admit. -/
def observing (step : Seen → Seen → Prop) :
    Program.Regime PassState Seen :=
  { view := PassState.seen
    step := step }

abbrev regime (c : PassContext) : Program.Regime PassState Seen :=
  observing (Step c false)

end BootcOperator
