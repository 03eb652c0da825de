import BootcOperator.Effects.Slots

/-!
# A pass with lagging reads

The client of the controller reads from watch caches, so the BootcNodes and
Nodes a pass sees may be older than those in the API server.  `LagContext` is
the setting of such a pass, with the world in which it starts and the versions
of the Nodes that were ever stored.

`LagEffect` says what the pass can do to the BootcNodes and Nodes when its
BootcNode list is up to date in the owner references and in the slots, and more
when it is up to date in the recorded cordon states as well; the status and the
spec it shows may still be old.
-/

namespace BootcOperator

/-! ## The setting -/

/-- What a slot consists of: that it is held, and the cordon state recorded
with it. -/
def BootcNode.slotRecord (bn : BootcNode) : Bool × Option String :=
  (bn.inRebootSlot, bn.annotations.known .wasCordoned)

/-- The value of `was-cordoned`. -/
def cordonText (unschedulable : Bool) : String :=
  if unschedulable then "true" else "false"

def World.unschedulable (w : World) (name : String) : Option Bool :=
  (w.api.node name).map (·.unschedulable)

/-- The resource version tells the versions of a Node apart and grows. -/
structure Node.IsVersionOf (node server : Node) : Prop where
  notNewer : node.resourceVersion ≤ server.resourceVersion
  isServer : node.resourceVersion = server.resourceVersion → node = server

theorem Node.IsVersionOf.refl (node : Node) : node.IsVersionOf node :=
  ⟨le_rfl, fun _ => rfl⟩

theorem Node.IsVersionOf.store
    {node server : Node} (version : node.IsVersionOf server)
    (modified : Node) : node.IsVersionOf (server.store modified) := by
  unfold Node.store
  split_ifs with unchanged
  · rw [unchanged]
    exact version
  · refine ⟨version.notNewer.trans (Nat.le_succ _), fun same => ?_⟩
    have notNewer := version.notNewer
    dsimp only at same
    omega

/-- What a pass with lagging reads works with. -/
structure LagContext where
  reconciler : BootcNodePoolReconciler
  env : Env
  /-- the pool the pass has read -/
  pool : BootcNodePool
  /-- the world in which the pass starts -/
  start : World
  /-- the Nodes that were stored before the pass -/
  nodes : List (String → Option Node)

namespace LagContext

variable (c : LagContext)

/-- The BootcNodes as the list request returns them. -/
def listed : String → Option BootcNode :=
  (c.env.view .listBootcNodes c.start.api).bootcNode

/-- The list is up to date in the owners and the slots. -/
def ShowsSlots : Prop :=
  ∀ name,
    (c.listed name).map (fun bn => (bn.ownerReferences, bn.inRebootSlot)) =
      (c.start.api.bootcNode name).map
        fun bn => (bn.ownerReferences, bn.inRebootSlot)

/-- The list is up to date in the recorded cordon states. -/
def ShowsRecords : Prop :=
  ∀ name,
    (c.listed name).map (·.annotations.known .wasCordoned) =
      (c.start.api.bootcNode name).map (·.annotations.known .wasCordoned)

/-- A BootcNode in memory has the slot of the one in the API server, and the
record of it when the list was up to date in those. -/
structure SameSlot (server bn : BootcNode) : Prop where
  slot : server.inRebootSlot = bn.inRebootSlot
  cordon : c.ShowsRecords → server.annotations.known .wasCordoned =
    bn.annotations.known .wasCordoned

theorem SameSlot.refl (bn : BootcNode) : c.SameSlot bn bn :=
  ⟨rfl, fun _ => rfl⟩

/-- Every Node that is read is stored now or was stored before the pass.  The
reads before a drain is started do not matter, as no write depends on
them. -/
def ServesNodes : Prop :=
  ∀ call cluster name, (∀ drained, call ≠ .getDraining drained) →
    (c.env.view call cluster).node name = cluster.node name ∨
      ∃ snapshot ∈ c.nodes,
        (c.env.view call cluster).node name = snapshot name

/-- The Node of a candidate without a slot is read with the cordon state it
has. -/
def ShowsCordons : Prop :=
  ∀ name cluster node server,
    (∀ bn, c.start.api.bootcNode name = some bn →
      bn.inRebootSlot = false) →
    (cluster.node name).map (·.unschedulable) =
      c.start.unschedulable name →
    (c.env.view (.getCandidate name) cluster).node name = some node →
    cluster.node name = some server →
    node.unschedulable = server.unschedulable

/-- The loop over the owned BootcNodes visits all of them: those listed and
those created for a listed Node. -/
def Visits : Prop :=
  ∀ name, c.listed name ≠ none ∨
      (c.env.view .listNodes c.start.api).node name ≠ none →
    name ∈ c.env.order .classification

/-- The stored Nodes of before the pass are versions of those in the world. -/
def Versions (w : World) : Prop :=
  ∀ snapshot ∈ c.nodes, ∀ name node server, snapshot name = some node →
    w.api.node name = some server → node.IsVersionOf server

end LagContext

/-- A cordon, or part of giving a slot back. -/
def Action.handlesSlot : Action → Bool
  | .wrote (.cordonNode _) | .wrote (.restoreNode _)
  | .wrote (.freeSlot _) => true
  | _ => false

/-- What one action does to slots and cordons, when reads may be stale. -/
inductive LagEffect (c : LagContext) (budget : Option Int) :
    Action → World → World → Prop
  | aside {action : Action} {w w' : World} :
      action.handlesSlot = false → w'.api.bootcNode = w.api.bootcNode →
      w'.api.node = w.api.node → LagEffect c budget action w w'
  | patchNode {action : Action} {w : World} {name : String}
      {node modified : Node} :
      action.handlesSlot = false → w.api.node name = some node →
      modified.unschedulable = node.unschedulable →
      LagEffect c budget action w (w.putNode name (node.store modified))
  | restoreNode {w : World} {name : String} {node : Node}
      {owner : Annotations BootcNodeKey} :
      w.api.node name = some node →
      (c.ShowsRecords → ∀ bn, w.api.bootcNode name = some bn →
        bn.inRebootSlot = true →
        owner.known .wasCordoned = bn.annotations.known .wasCordoned) →
      LagEffect c budget (.wrote (.restoreNode name)) w
        (w.putNode name
          (node.store (BootcNodePoolReconciler.restoredNode owner node)))
  | cordonNode {w : World} {name : String} {node : Node} {bn : BootcNode}
      {annotations : Annotations KarpenterKey} :
      w.api.node name = some node → w.api.bootcNode name = some bn →
      bn.inRebootSlot = true →
      LagEffect c budget (.wrote (.cordonNode name)) w
        (w.putNode name
          (node.store
            { node with unschedulable := true, annotations := annotations }))
  | createBootcNode {w : World} {name : String} {bn : BootcNode} :
      w.api.bootcNode name = none → bn.inRebootSlot = false →
      LagEffect c budget (.wrote (.createBootcNode name)) w
        (w.putBootcNode name (some bn))
  | patchBootcNode {action : Action} {w w' : World} {name : String}
      {old new : BootcNode} :
      action.handlesSlot = false → w.api.bootcNode name = some old →
      new.ownerReferences = old.ownerReferences →
      new.slotRecord = old.slotRecord →
      w'.api.bootcNode = (w.putBootcNode name (some new)).api.bootcNode →
      w'.api.node = w.api.node → LagEffect c budget action w w'
  | freeSlot {w : World} {name : String} {old new : BootcNode} :
      w.api.bootcNode name = some old →
      new.ownerReferences = old.ownerReferences →
      new.inRebootSlot = false → (c.ShowsRecords → Uncordoned w name old) →
      LagEffect c budget (.wrote (.freeSlot name)) w
        (w.putBootcNode name (some new))
  | deleteBootcNode {w : World} {name : String} :
      LagEffect c budget (.wrote (.deleteBootcNode name)) w
        (w.putBootcNode name none)
  | assignSlot {w : World} {name : String} {old new : BootcNode}
      {maxUnavail : Int} {unschedulable : Bool} :
      w.api.bootcNode name = some old →
      old.isControlledBy c.pool = true → old.inRebootSlot = false →
      budget = some maxUnavail →
      (slottedNodes c.pool w.api).encard < (maxUnavail.toNat : ℕ∞) →
      new.ownerReferences = old.ownerReferences →
      new.inRebootSlot = true →
      (c.ShowsRecords → new.annotations.known .wasCordoned =
        some (cordonText unschedulable)) →
      (c.ShowsCordons → ∀ node, w.api.node name = some node →
        node.unschedulable = unschedulable) →
      LagEffect c budget (.wrote (.assignSlot name)) w
        (w.putBootcNode name (some new))

/-- One step of such a pass. -/
inductive LagStep (c : LagContext) : Seen → Seen → Prop
  | act {seen : Seen} {action : Action} {world : World} :
      LagEffect c seen.maxUnavail action seen.world world →
      LagStep c seen
        { seen with
          world := world
          log := seen.log ++ [⟨action, world⟩] }
  | halt {seen : Seen} :
      LagStep c seen { seen with rolloutHalted := true }
  | resolveMaxUnavailable {seen : Seen} {maxUnavail : Int} :
      (∃ nodeCount,
        c.reconciler.resolveMaxUnavailable c.pool nodeCount =
          .ok maxUnavail) →
      LagStep c seen { seen with maxUnavail := some maxUnavail }

abbrev lagRegime (c : LagContext) : Program.Regime PassState Seen :=
  observing (LagStep c)

/-! ## Merge patches of an object that may have changed -/

theorem BootcNode.merge_ownerReferences (base modified server : BootcNode) :
    (base.merge modified server).ownerReferences =
      server.ownerReferences :=
  rfl

theorem BootcNode.merge_known
    (base modified server : BootcNode) (key : BootcNodeKey) :
    (base.merge modified server).annotations.known key =
      mergeField (base.annotations.known key) (modified.annotations.known key)
        (server.annotations.known key) :=
  rfl

/-- A patch that leaves an annotation out does not change it. -/
theorem BootcNode.merge_known_of_eq
    {base modified : BootcNode} {key : BootcNodeKey}
    (same : modified.annotations.known key = base.annotations.known key)
    (server : BootcNode) :
    (base.merge modified server).annotations.known key =
      server.annotations.known key := by
  rw [BootcNode.merge_known, same]
  simp [mergeField]

/-- A patch that leaves the slot out does not change it. -/
theorem BootcNode.merge_slotRecord
    {base modified : BootcNode}
    (slot : modified.annotations.known .inRebootSlot =
      base.annotations.known .inRebootSlot)
    (cordon : modified.annotations.known .wasCordoned =
      base.annotations.known .wasCordoned)
    (server : BootcNode) :
    (base.merge modified server).slotRecord = server.slotRecord := by
  simp only [BootcNode.slotRecord, BootcNode.inRebootSlot, Annotations.has,
    BootcNode.merge_known_of_eq slot, BootcNode.merge_known_of_eq cordon]

end BootcOperator
