import BootcOperator.Controller.Karpenter
import BootcOperator.Controller.PoolStatus
import Mathlib.Data.List.Sort

/-!
# Pool membership

`syncMembership` and `handlePoolDeletion` in `bootcnodepool_controller.go`:
BootcNodes are created for Nodes that match the pool's selector, their spec
follows the pool, and Nodes that leave are restored before their BootcNode is
deleted.
-/

namespace BootcOperator

/-! ## Ownership -/

/-- `metav1.GetControllerOf` -/
def BootcNode.controllerOf (bn : BootcNode) : Option OwnerReference :=
  bn.ownerReferences.find? (·.controller)

/-- `metav1.IsControlledBy` -/
def BootcNode.isControlledBy (bn : BootcNode) (pool : BootcNodePool) : Bool :=
  match bn.controllerOf with
  | some ref => ref.uid = pool.uid
  | none => false

def effectiveRebootPolicy (pool : BootcNodePool) : RebootPolicy :=
  match pool.spec.disruption with
  | some disruption => disruption.rebootPolicy.getD .rebootOnly
  | none => .rebootOnly

def Taint.isOsNotReady (taint : Taint) : Bool :=
  taint.key = taintKeyOsNotReady ∧ taint.effect = .noSchedule

def nodeHasOsNotReadyTaint (node : Node) : Bool :=
  node.taints.any Taint.isOsNotReady

namespace BootcNodePoolReconciler

open Program

/-- The BootcNode of a node that joins. -/
def newBootcNode (r : BootcNodePoolReconciler) (pool : BootcNodePool)
    (node : Node) : BootcNode :=
  { generation := 1
    annotations :=
      if nodeHasOsNotReadyTaint node then
        Annotations.empty.set .ownsOsNotReadyTaint "true"
      else .empty
    ownerReferences :=
      [{ apiVersion := "node.bootc.dev/v1alpha1"
         kind := "BootcNodePool"
         name := pool.name
         uid := pool.uid
         controller := true }]
    spec :=
      { desiredImage := r.desiredImageFromPool pool
        desiredImageState := .staged
        pullSecretRef := pool.spec.pullSecretRef
        rebootPolicy := some (effectiveRebootPolicy pool) }
    status :=
      { observedGeneration := 0
        booted := none
        staged := none
        rollback := none
        conditions := [] } }

/-- `ensureManagedLabel`; it returns the Node with its label. -/
def ensureManagedLabel (env : Env) (call : Call) (name : String)
    (node : Node) (managed : Bool) : Pass Node :=
  if node.labels.managed.isSome = managed then pure node
  else
    Pass.patchNode env call name node
      { node with
        labels :=
          { node.labels with
            managed := if managed then some "" else none } }

/-- The spec that the pool asks for; a new image is only staged. -/
def syncedSpec (r : BootcNodePoolReconciler) (pool : BootcNodePool)
    (spec : BootcNodeSpec) : BootcNodeSpec :=
  { desiredImage := r.desiredImageFromPool pool
    desiredImageState :=
      if spec.desiredImage ≠ r.desiredImageFromPool pool then .staged
      else spec.desiredImageState
    pullSecretRef := pool.spec.pullSecretRef
    rebootPolicy := some (effectiveRebootPolicy pool) }

def syncBootcNodeSpec (r : BootcNodePoolReconciler) (env : Env)
    (name : String) (bn : BootcNode) : Pass Unit := do
  let pool ← read (·.pool)
  let modified := { bn with spec := r.syncedSpec pool bn.spec }
  if modified.spec ≠ bn.spec then
    mapError (.wrap "patching BootcNode: ")
      (Pass.patchBootcNode env (.syncSpec name) name bn modified)
  else pure ()

/-- `createBootcNode`; it returns the BootcNode as created. -/
def createBootcNode (r : BootcNodePoolReconciler) (env : Env)
    (name : String) (node : Node) : Pass BootcNode := do
  let pool ← read (·.pool)
  let bn := r.newBootcNode pool node
  mapError (.wrap "creating BootcNode: ")
    (Pass.createBootcNode env (.createBootcNode name) name bn)
  let _ ← mapError (.wrap "labeling node: ")
    (ensureManagedLabel env (.labelNode name) name node true)
  pure bn

/-! ## Leaving a pool -/

def removeOsNotReadyTaint (taints : List Taint) : List Taint :=
  taints.filter fun taint => !taint.isOsNotReady

/-- The Node without the operator's cordon and annotations. -/
def restoredNode (owner : Annotations BootcNodeKey) (node : Node) : Node :=
  { node with
    annotations :=
      removeOwnedAnnotation owner .ownsKarpenterDoNotDisrupt .doNotDisrupt <|
        removeOwnedAnnotation owner .ownsKarpenterDoNotRepair .doNotRepair
          node.annotations
    unschedulable :=
      if owner.known .wasCordoned = some "false" then false
      else node.unschedulable
    taints :=
      if owner.has .ownsOsNotReadyTaint then
        removeOsNotReadyTaint node.taints
      else node.taints }

/-- `changed` in `restoreNodeState` -/
def restoreChanges (owner : Annotations BootcNodeKey) (node : Node) : Bool :=
  removesOwnedAnnotation owner .ownsKarpenterDoNotRepair .doNotRepair
      node.annotations ||
    removesOwnedAnnotation owner .ownsKarpenterDoNotDisrupt .doNotDisrupt
      node.annotations ||
    decide (owner.known .wasCordoned = some "false") ||
    (owner.has .ownsOsNotReadyTaint && nodeHasOsNotReadyTaint node)

def restoredClaim (owner : Annotations BootcNodeKey) (claim : NodeClaim) :
    NodeClaim :=
  { claim with
    annotations :=
      removeOwnedAnnotation owner .ownsKarpenterNodeClaimDoNotDisrupt
        .doNotDisrupt <|
        removeOwnedAnnotation owner .ownsKarpenterNodeClaimDoNotRepair
          .doNotRepair claim.annotations }

/-- `changed` in `restoreNodeClaimState` -/
def restoreClaimChanges (owner : Annotations BootcNodeKey)
    (claim : NodeClaim) : Bool :=
  removesOwnedAnnotation owner .ownsKarpenterNodeClaimDoNotRepair
      .doNotRepair claim.annotations ||
    removesOwnedAnnotation owner .ownsKarpenterNodeClaimDoNotDisrupt
      .doNotDisrupt claim.annotations

def restoreNodeClaimState (env : Env) (name : String)
    (owner : Annotations BootcNodeKey) (node : Node) : Pass Unit :=
  if owner.has .ownsKarpenterNodeClaimDoNotRepair ∨
      owner.has .ownsKarpenterNodeClaimDoNotDisrupt then do
    let result ← mapError (.wrap "getting Karpenter NodeClaim: ")
      (getKarpenterNodeClaim env (.getRestoredClaim name) node)
    match result.claim with
    | none => pure ()
    | some (claimName, claim) =>
        if restoreClaimChanges owner claim then
          mapError (.wrap "restoring Karpenter NodeClaim annotations: ")
            (Pass.patchNodeClaim env (.restoreClaim name) claimName claim
              (restoredClaim owner claim))
        else pure ()
  else pure ()

/-- The Node patch of `restoreNodeState`; it returns the Node it leaves. -/
def patchRestoredNode (env : Env) (name : String)
    (owner : Annotations BootcNodeKey) (node : Node) : Pass Node :=
  if restoreChanges owner node then
    mapError (.wrap "restoring node state: ")
      (Pass.patchNode env (.restoreNode name) name node
        (restoredNode owner node))
  else pure node

/-- `restoreNodeState`; no caller passes a prefetched NodeClaim. -/
def restoreNodeState (env : Env) (name : String)
    (owner : Annotations BootcNodeKey) (node : Node) : Pass Node := do
  let node ← patchRestoredNode env name owner node
  mapError (.wrap "could not restore Karpenter NodeClaim state: ")
    (restoreNodeClaimState env name owner node)
  pure node

/-- `DrainManager.CancelDrain`. -/
def cancelDrain (name : String) : Pass Unit := do
  match ← read fun s => s.world.drains name with
  | none => pure ()
  | some _ =>
      update fun s =>
        s.perform (.cancelDrain name) (s.world.putDrain name none)

/-- The cleanup of the Node in `removeBootcNode`. -/
def releaseNode (env : Env) (name : String) (bn : BootcNode) (node : Node) :
    Pass Unit := do
  let node ← mapError (.wrap "restoring node state: ")
    (restoreNodeState env name (bn.annotations.delete .ownsOsNotReadyTaint)
      node)
  let _ ← mapError (.wrap "removing managed label: ")
    (ensureManagedLabel env (.unlabelNode name) name node false)
  pure ()

/-- The node leaves the pool. -/
def removeBootcNode (env : Env) (name : String) (bn : BootcNode) :
    Pass Unit := do
  cancelDrain name
  let found ← mapError (.wrap ("fetching node " ++ name ++ ": "))
    (Pass.query env (.getDeparting name) (·.node name))
  match found with
  | some node =>
      if node.deletionTimestamp = none then releaseNode env name bn node
      else pure ()
  | none => pure ()
  mapError (.wrap "deleting BootcNode: ")
    (Pass.deleteBootcNode env (.deleteBootcNode name) name)

/-! ## Synchronisation -/

def listMatchingNodes (r : BootcNodePoolReconciler) (env : Env) :
    Pass (String → Option Node) := do
  let pool ← read (·.pool)
  match r.labelSelectorAsSelector pool.spec.nodeSelector with
  | .error err => fail ⟨.invalidSpec, "invalid nodeSelector: " ++ err⟩
  | .ok selector =>
      mapError (.wrap "listing nodes: ")
        (Pass.query env .listNodes fun cluster name =>
          (cluster.node name).filter fun node => selector node.labels)

def listAllBootcNodes (env : Env) : Pass (String → Option BootcNode) :=
  mapError (.wrap "listing BootcNodes: ")
    (Pass.query env .listBootcNodes (·.bootcNode))

/-- One iteration of the loop over the matching Nodes; it returns the names of
conflicting pools. -/
def syncMatchingNode (r : BootcNodePoolReconciler) (env : Env)
    (all : String → Option BootcNode) (name : String) (node : Node) :
    Pass (List String) := do
  match ← read fun s => s.owned name with
  | some bn => do
      let _ ← mapError (.wrap ("ensuring managed label for " ++ name ++ ": "))
        (ensureManagedLabel env (.labelNode name) name node true)
      mapError (.wrap ("syncing BootcNode spec for " ++ name ++ ": "))
        (r.syncBootcNodeSpec env name bn)
      pure []
  | none => do
      match ← attempt (r.createBootcNode env name node) with
      | .ok bn => do
          update fun s => s.setOwned name (some bn)
          pure []
      | .error err =>
          if err.kind ≠ .alreadyExists then
            fail (err.wrap ("creating BootcNode for " ++ name ++ ": "))
          else
            pure (((all name).bind BootcNode.controllerOf).map
              (·.name)).toList

/-- One iteration of the loop over the owned BootcNodes. -/
def removeDeparted (env : Env) (matching : String → Option Node)
    (name : String) : Pass Unit := do
  match ← read fun s => s.owned name with
  | none => pure ()
  | some bn =>
      match matching name with
      | some _ => pure ()
      | none => do
          mapError (.wrap ("removing BootcNode for " ++ name ++ ": "))
            (removeBootcNode env name bn)
          update fun s => s.setOwned name none

def conflictMessage (conflicting : List String) : String :=
  "Node selector overlaps with pool(s): " ++
    String.intercalate ", "
      (conflicting.dedup.insertionSort fun left right => left ≤ right)

def syncMembership (r : BootcNodePoolReconciler) (env : Env) : Pass Unit := do
  let matching ← mapError (.wrap "listing matching nodes: ")
    (r.listMatchingNodes env)
  let all ← mapError (.wrap "listing BootcNodes: ") (listAllBootcNodes env)
  update fun s =>
    { s with owned := fun name => (all name).filter (·.isControlledBy s.pool) }
  let conflicting ← gather (env.order .matchingNodes) fun name =>
    match matching name with
    | some node => r.syncMatchingNode env all name node
    | none => pure []
  forEach (env.order .departedNodes) (removeDeparted env matching)
  if conflicting ≠ [] then
    update fun s =>
      { s with
        pool :=
          setPoolDegraded env.now poolNodeConflict
            (conflictMessage conflicting) s.pool }
  else pure ()

/-- The loop body of `handlePoolDeletion`. -/
def removeForDeletion (env : Env) (pool : BootcNodePool)
    (all : String → Option BootcNode) (name : String) : Pass Unit :=
  match all name with
  | none => pure ()
  | some bn =>
      if bn.isControlledBy pool then
        mapError (.wrap
            ("removing BootcNode " ++ name ++ " during pool deletion: "))
          (removeBootcNode env name bn)
      else pure ()

/-- Removes all BootcNodes, then the finalizer. -/
def handlePoolDeletion (env : Env) (request : String) : Pass Unit := do
  let pool ← read (·.pool)
  if finalizerPoolCleanup ∉ pool.finalizers then pure ()
  else do
    let all ← mapError
      (.wrap "listing BootcNodes for deletion cleanup: ")
      (listAllBootcNodes env)
    forEach (env.order .deletedPool) (removeForDeletion env pool all)
    let released :=
      { pool with
        finalizers := pool.finalizers.filter (· ≠ finalizerPoolCleanup) }
    update fun s => { s with pool := released }
    match ← attempt (Pass.updatePool env request released) with
    | .ok _ => pure ()
    | .error err =>
        if err.kind = .notFound then pure ()
        else fail (err.wrap "removing finalizer: ")

end BootcNodePoolReconciler

end BootcOperator
