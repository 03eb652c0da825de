import BootcOperator.Controller.Classify
import BootcOperator.Controller.Events
import BootcOperator.Controller.Membership

/-!
# The rollout

`driveRollout` in `internal/controller/rollout.go` and the functions it calls:
collecting drain results, classifying nodes, freeing and assigning reboot
slots, and starting drains.
-/

namespace BootcOperator

def unhealthySlotHaltThreshold : Nat := 2

/-- The node holds a reboot slot. -/
def BootcNode.inRebootSlot (bn : BootcNode) : Bool :=
  bn.annotations.has .inRebootSlot

/-! ## The rollout state -/

namespace RolloutState

/-- Sorts a node into its bucket. -/
def add (rs : RolloutState) (name : String) :
    Except String NodeState → RolloutState
  | .error _ => { rs with unclassified := rs.unclassified ++ [name] }
  | .ok .upToDate => { rs with upToDate := rs.upToDate ++ [name] }
  | .ok .pending => { rs with pending := rs.pending ++ [name] }
  | .ok .staging => { rs with staging := rs.staging ++ [name] }
  | .ok .staged => { rs with staged := rs.staged ++ [name] }
  | .ok .rebooting => { rs with rebooting := rs.rebooting ++ [name] }
  | .ok .degraded => { rs with degraded := rs.degraded ++ [name] }

def setRequeueAfter (rs : RolloutState) (d : Duration) : RolloutState :=
  { rs with requeueAfter := earlierRequeue rs.requeueAfter d }

end RolloutState

/-- One iteration of `buildRolloutState`. -/
def classifyInto (lib : ReferenceLibrary)
    (owned : String → Option BootcNode) (rs : RolloutState) (name : String) :
    RolloutState :=
  match owned name with
  | none => rs
  | some bn =>
      let counted :=
        if bn.inRebootSlot then
          { rs with occupiedSlots := rs.occupiedSlots + 1 }
        else rs
      counted.add name (classifyNode lib bn)

def buildRolloutState (lib : ReferenceLibrary)
    (owned : String → Option BootcNode) (names : List String) :
    RolloutState :=
  names.foldl (classifyInto lib owned) {}

def resolveRebootTimeout (pool : BootcNodePool) : Duration :=
  match pool.spec.rollout with
  | none => 0
  | some rollout =>
      match rollout.rebootTimeoutSeconds with
      | none => 0
      | some seconds => seconds * second

def rebootTimedOut (bn : BootcNode) (timeout : Duration) (now : Time) :
    Bool :=
  if timeout ≤ 0 then false
  else
    match findStatusCondition bn.status.conditions nodeIdle with
    | none => false
    | some idle =>
        idle.reason = nodeReasonRebooting ∧
          timeout < now - idle.lastTransitionTime

def isRebootTimedOut (owned : String → Option BootcNode)
    (timeout : Duration) (now : Time) (name : String) : Bool :=
  match owned name with
  | none => false
  | some bn => rebootTimedOut bn timeout now

/-- When the first node that is still rebooting can time out. -/
def rebootRequeue (owned : String → Option BootcNode) (timeout : Duration)
    (now : Time) (names : List String) : Duration :=
  names.foldl
    (fun requeue name =>
      match (owned name).bind fun bn =>
          findStatusCondition bn.status.conditions nodeIdle with
      | none => requeue
      | some idle =>
          let left := timeout - (now - idle.lastTransitionTime)
          if 0 < left ∧ (requeue = 0 ∨ left < requeue) then left
          else requeue) 0

/-- `applyRebootTimeouts` with the assignment of its result to
`requeueAfter`. -/
def applyRebootTimeouts (owned : String → Option BootcNode)
    (timeout : Duration) (now : Time) (rs : RolloutState) : RolloutState :=
  if timeout ≤ 0 then { rs with requeueAfter := 0 }
  else
    let timedOut := rs.rebooting.filter (isRebootTimedOut owned timeout now)
    let remaining :=
      rs.rebooting.filter fun name => !isRebootTimedOut owned timeout now name
    { rs with
      rebooting := remaining
      degraded := rs.degraded ++ timedOut
      rebootTimedOutNodes := rs.rebootTimedOutNodes ++ timedOut
      requeueAfter := rebootRequeue owned timeout now remaining }

structure UnhealthySlot where
  name : String
  reason : String
  deriving DecidableEq, Repr

/-- The node is owned, in a slot, and passes the test. -/
def slottedWith (owned : String → Option BootcNode)
    (test : BootcNode → Bool) (name : String) : Bool :=
  match owned name with
  | none => false
  | some bn => bn.inRebootSlot && test bn

def findUnhealthySlots (lib : ReferenceLibrary)
    (owned : String → Option BootcNode) (rs : RolloutState)
    (targetDigest : String) : List UnhealthySlot :=
  (rs.degraded.filter (slottedWith owned fun bn =>
      bn.status.booted.isNone ||
        infoMatchesDigest lib bn.status.booted targetDigest)).map
        (⟨·, "Degraded"⟩) ++
  (rs.upToDate.filter (slottedWith owned fun _ => true)).map
    (⟨·, "NotReady"⟩) ++
  (rs.rebootTimedOutNodes.filter (slottedWith owned fun _ => true)).map
    (⟨·, "RebootTimeout"⟩)

/-- `intstr.IntOrString.String` -/
def IntOrString.text : IntOrString → String
  | .int value => toString value
  | .str value => value

def nodeReadyStatus (node : Node) : ConditionStatus :=
  match node.conditions.find? (·.type = "Ready") with
  | some condition => condition.status
  | none => .conditionUnknown

/-- Names in the order of `strings.Compare`. -/
def sortNames (names : List String) : List String :=
  names.insertionSort fun left right => left ≤ right

def partitionSlottedNodes (owned : String → Option BootcNode)
    (staged : List String) : List String × List String :=
  (sortNames (staged.filter (slottedWith owned fun _ => true)),
    sortNames (staged.filter fun name =>
      !slottedWith owned (fun _ => true) name))

namespace BootcNodePoolReconciler

open Program

def resolveMaxUnavailable (r : BootcNodePoolReconciler)
    (pool : BootcNodePool) (nodeCount : Nat) : Except ApiError Int :=
  if isPaused pool then .ok 0
  else
    match pool.spec.rollout.bind (·.maxUnavailable) with
    | none => .ok 1
    | some value =>
        match r.getScaledValueFromIntOrPercent value nodeCount with
        | .ok scaled => .ok scaled
        | .error err =>
            .error ⟨.invalidSpec,
              "invalid maxUnavailable " ++ value.text.goQuote ++ ": " ++ err⟩

/-! ## Drains -/

/-- The manager forgets a drain that has ended. -/
def forgetDrain (name : String) : Pass Unit :=
  update fun s =>
    s.perform (.collectDrain name) (s.world.putDrain name none)

/-- The collection of a successful drain of an owned node.  The entry leaves
`r.drains` whether or not the patch is applied; `drainsMu` is held meanwhile,
so both are one step. -/
def approveReboot (env : Env) (name : String) (bn : BootcNode) :
    Pass Unit := do
  match ← attempt (Pass.sendWrite env (.approve name)) with
  | .error err => do
      forgetDrain name
      fail err
  | .ok _ => do
      match ← read fun s => s.world.api.bootcNode name with
      | none => do
          forgetDrain name
          fail ⟨.notFound, "bootcnodes " ++ name.goQuote ++ " not found"⟩
      | some server =>
          let stored :=
            bn.merge
              { bn with spec := { bn.spec with desiredImageState := .booted } }
              server
          update fun s =>
            (s.perform (.wrote (.approve name))
              ((s.world.putDrain name none).putBootcNode name
                (some stored))).setOwned name (some stored)

/-- The collection of a failed drain of an owned node, with its event. -/
def reportFailedDrain (name err : String) : Pass Unit := do
  let pool ← read (·.pool)
  update fun s =>
    s.perform
      (.event
        { regarding := .bootcNode name
          related := some (.pool pool.name)
          type := .warning
          reason := eventReasonDrainFailed
          action := eventActionDrain
          note := .drainFailed err })
      (s.world.putDrain name none)

/-- One iteration of `collectDrainResults`. -/
def collectDrainResult (env : Env) (name : String) : Pass Unit := do
  match ← read fun s => s.world.drains name with
  | none => pure ()
  | some status =>
      match status.outcome with
      | .running => pure ()
      | .failed err => do
          let owned ← read fun s => s.owned name
          if !status.cancelled && owned.isSome then
            reportFailedDrain name err
          else forgetDrain name
      | .succeeded => do
          match ← read fun s => s.owned name with
          | none => forgetDrain name
          | some bn =>
              mapError (.wrap ("setting desiredImageState on " ++ name ++ ": "))
                (approveReboot env name bn)

def collectDrainResults (env : Env) : Pass Unit :=
  forEach (env.order .drainResults) (collectDrainResult env)

/-- Starts a drain unless there is one. -/
def ensureDrain (env : Env) (name : String) : Pass Unit := do
  match ← read fun s => s.world.drains name with
  | some _ => pure ()
  | none =>
      update fun s =>
        s.perform (.startDrain name)
          (s.world.putDrain name
            (some
              { outcome := .running
                cancelled := false
                startTime := env.now
                isStalled := false }))

/-! ## Freeing slots -/

/-- Drops the slot and its records. -/
def freedAnnotations (annotations : Annotations BootcNodeKey) :
    Annotations BootcNodeKey :=
  ((((((annotations.delete .ownsKarpenterDoNotRepair).delete
    .ownsKarpenterDoNotDisrupt).delete
    .ownsKarpenterNodeClaimDoNotRepair).delete
    .ownsKarpenterNodeClaimDoNotDisrupt).delete
    .ownsOsNotReadyTaint).delete
    .wasCordoned).delete .inRebootSlot

/-- The Node is restored first, then the record removed. -/
def freeRebootSlot (env : Env) (name : String) (bn : BootcNode)
    (node : Node) : Pass Unit := do
  let _ ← restoreNodeState env name bn.annotations node
  mapError (.wrap "removing reboot slot annotations: ")
    (Pass.patchBootcNode env (.freeSlot name) name bn
      { bn with annotations := freedAnnotations bn.annotations })

/-- The first half of `removeOsNotReadyTaintAndAnnotation`. -/
def untaintNode (env : Env) (name : String) (node : Node) : Pass Unit :=
  if nodeHasOsNotReadyTaint node then do
    let _ ← mapError (.wrap "removing os-not-ready taint from node: ")
      (Pass.patchNode env (.removeTaint name) name node
        { node with taints := removeOsNotReadyTaint node.taints })
    pure ()
  else pure ()

def removeOsNotReadyTaintAndAnnotation (env : Env) (name : String)
    (bn : BootcNode) (node : Node) : Pass Unit := do
  untaintNode env name node
  if bn.annotations.has .ownsOsNotReadyTaint then
    mapError (.wrap "clearing os-not-ready taint ownership annotation: ")
      (Pass.patchBootcNode env (.clearTaint name) name bn
        { bn with
          annotations := bn.annotations.delete .ownsOsNotReadyTaint })
  else pure ()

/-- `freeCompletedSlot` for a node that holds a slot or owns the startup
taint, once its Node is read. -/
def releaseCompleted (env : Env) (name : String) (bn : BootcNode)
    (node : Node) : Pass Unit :=
  if nodeReadyStatus node ≠ .conditionTrue then pure ()
  else if bn.inRebootSlot then do
    mapError (.wrap ("freeing reboot slot for " ++ name ++ ": "))
      (freeRebootSlot env name bn node)
    update fun s =>
      { s with rs := { s.rs with occupiedSlots := s.rs.occupiedSlots - 1 } }
  else
    mapError (.wrap ("removing os-not-ready taint for " ++ name ++ ": ")) <|
      removeOsNotReadyTaintAndAnnotation env name bn node

/-- One node that runs the desired image. -/
def freeCompletedSlot (env : Env) (name : String) : Pass Unit := do
  match ← read fun s => s.owned name with
  | none => pure ()
  | some bn =>
      if bn.inRebootSlot ∨ bn.annotations.has .ownsOsNotReadyTaint then do
        let node ← mapError (.wrap ("fetching node " ++ name ++ ": "))
          (Pass.getNode env (.getCompleted name) name)
        releaseCompleted env name bn node
      else pure ()

def freeCompletedSlots (env : Env) : Pass Unit := do
  let rs ← read (·.rs)
  forEach rs.upToDate (freeCompletedSlot env)

/-! ## Assigning slots -/

/-- The annotations of the three objects of a slot. -/
structure SlotPlan where
  bootcNode : Annotations BootcNodeKey
  node : Annotations KarpenterKey
  claim : Option (Annotations KarpenterKey)

/-- The BootcNode annotations of a slot before Karpenter ownership is
recorded; an earlier record of the cordon state is kept. -/
def slotAnnotations (bn : BootcNode) (node : Node) :
    Annotations BootcNodeKey :=
  let marked := bn.annotations.set .inRebootSlot ""
  if bn.inRebootSlot then marked
  else
    marked.set .wasCordoned (if node.unschedulable then "true" else "false")

/-- Record and set `do-not-repair` and `do-not-disrupt` on a target. -/
def fence (repairKey disruptKey : BootcNodeKey)
    (annotations : Annotations BootcNodeKey × Annotations KarpenterKey) :
    Annotations BootcNodeKey × Annotations KarpenterKey :=
  ensureOwnedAnnotation disruptKey .doNotDisrupt "true" <|
    ensureOwnedAnnotation repairKey .doNotRepair "true" annotations

/-- The annotations that `assignRebootSlot` wants. -/
def slotPlan (bn : BootcNode) (node : Node) (claim : Option NodeClaim) :
    SlotPlan :=
  let marked := slotAnnotations bn node
  if isNodeOwnedByKarpenterNodeClaim node then
    let (marked, nodeAnnotations) :=
      fence .ownsKarpenterDoNotRepair .ownsKarpenterDoNotDisrupt
        (marked, node.annotations)
    match claim with
    | none => ⟨marked, nodeAnnotations, none⟩
    | some claim =>
        let (marked, claimAnnotations) :=
          fence .ownsKarpenterNodeClaimDoNotRepair
            .ownsKarpenterNodeClaimDoNotDisrupt (marked, claim.annotations)
        ⟨marked, nodeAnnotations, some claimAnnotations⟩
  else ⟨marked, node.annotations, none⟩

/-- The NodeClaim that `assignRebootSlot` fences. -/
def claimToFence (env : Env) (name : String) (node : Node)
    (prefetchedClaim : Option (String × NodeClaim)) :
    Pass (Option (String × NodeClaim)) :=
  if isNodeOwnedByKarpenterNodeClaim node then
    match prefetchedClaim with
    | some claim => pure (some claim)
    | none => do
        let result ← mapError (.wrap "getting NodeClaim: ")
          (getKarpenterNodeClaim env (.getAssignedClaim name) node)
        match result with
        | .absent =>
            fail ⟨.other,
              "NodeClaim for node " ++ name ++ " disappeared unexpectedly"⟩
        | .found claimName claim => pure (some (claimName, claim))
        | .crdMissing | .noRef => pure none
  else pure none

/-- The NodeClaim patch of `assignRebootSlot`. -/
def fenceClaim (env : Env) (name : String)
    (claim : Option (String × NodeClaim))
    (planned : Option (Annotations KarpenterKey)) : Pass Unit :=
  match claim, planned with
  | some (claimName, claim), some annotations =>
      if claim.annotations ≠ annotations then
        mapError (.wrap "patching Karpenter NodeClaim: ")
          (Pass.patchNodeClaim env (.fenceClaim name) claimName claim
            { claim with annotations := annotations })
      else pure ()
  | _, _ => pure ()

/-- The Node patch of `assignRebootSlot`. -/
def cordonNode (env : Env) (name : String) (node : Node)
    (planned : Annotations KarpenterKey) : Pass Unit :=
  if node.unschedulable = false ∨ node.annotations ≠ planned then do
    let _ ← mapError (.wrap "patching node: ")
      (Pass.patchNode env (.cordonNode name) name node
        { node with unschedulable := true, annotations := planned })
    pure ()
  else pure ()

/-- The BootcNode patch of `assignRebootSlot`. -/
def annotateSlot (env : Env) (name : String) (bn : BootcNode)
    (planned : Annotations BootcNodeKey) : Pass Unit :=
  if bn.annotations ≠ planned then
    mapError (.wrap "annotating BootcNode: ")
      (Pass.patchBootcNode env (.assignSlot name) name bn
        { bn with annotations := planned })
  else pure ()

/-- The slot is recorded first, then the Node cordoned. -/
def assignRebootSlot (env : Env) (name : String) (bn : BootcNode)
    (node : Node) (prefetchedClaim : Option (String × NodeClaim)) :
    Pass Unit := do
  let claim ← claimToFence env name node prefetchedClaim
  let plan := slotPlan bn node (claim.map Prod.snd)
  annotateSlot env name bn plan.bootcNode
  fenceClaim env name claim plan.claim
  cordonNode env name node plan.node

/-! ## The main loop -/

def requeueForKarpenter : Pass Unit :=
  update fun s =>
    { s with rs := s.rs.setRequeueAfter karpenterRequeueInterval }

/-- `processCandidate`: whether the node got its slot. -/
def processCandidate (env : Env) (name : String) : Pass Bool := do
  match ← read fun s => s.owned name with
  | none => pure false
  | some bn => do
      let node ← mapError (.wrap ("fetching node " ++ name ++ ": "))
        (Pass.getNode env (.getCandidate name) name)
      let disruption ← mapError
        (.wrap ("checking Karpenter disruption for " ++ name ++ ": "))
        (isKarpenterDisruptionActive env (.getCandidateClaim name) node)
      if disruption.claimMissing ∨ disruption.active then do
        requeueForKarpenter
        pure false
      else do
        mapError (.wrap ("assigning reboot slot to " ++ name ++ ": "))
          (assignRebootSlot env name bn node disruption.prefetchedClaim)
        if isNodeOwnedByKarpenterNodeClaim node then requeueForKarpenter
        else pure ()
        pure true

/-- The loop that gives the free slots. -/
def assignUnslotted (env : Env) (availableSlots : Int) :
    Int → List String → Pass Unit
  | _, [] => pure ()
  | assignedSlots, name :: rest =>
      if availableSlots ≤ assignedSlots then pure ()
      else do
        let isSlotted ← processCandidate env name
        assignUnslotted env availableSlots
          (if isSlotted then assignedSlots + 1 else assignedSlots) rest

/-- One iteration of the loop that starts drains. -/
def drainStaged (env : Env) (name : String) : Pass Unit := do
  match ← read fun s => s.owned name with
  | none => pure ()
  | some bn =>
      if bn.inRebootSlot = false ∨ bn.spec.desiredImageState = .booted then
        pure ()
      else do
        let node ← mapError (.wrap ("fetching node " ++ name ++ ": "))
          (Pass.getNode env (.getDraining name) name)
        let disruption ← mapError
          (.wrap ("checking Karpenter disruption for " ++ name ++ ": "))
          (isKarpenterDisruptionActive env (.getDrainingClaim name) node)
        if disruption.claimMissing ∨ disruption.active then
          requeueForKarpenter
        else ensureDrain env name

/-- The fallback requeue for slots on Karpenter nodes. -/
def requeueForFencedNodes : Pass Unit :=
  update fun s =>
    if s.rs.staged.any fun name =>
        match s.owned name with
        | some bn => bn.annotations.has .ownsKarpenterDoNotRepair
        | none => false then
      { s with rs := s.rs.setRequeueAfter karpenterRequeueInterval }
    else s

/-- The part of `driveRollout` that a halted rollout does not reach. -/
def advanceRollout (r : BootcNodePoolReconciler) (env : Env) :
    Pass Unit := do
  let pool ← read (·.pool)
  let rs ← read (·.rs)
  let maxUnavail ← ofExcept (r.resolveMaxUnavailable pool rs.nodeCount)
  update fun s => { s with maxUnavail := some maxUnavail }
  let owned ← read (·.owned)
  let (slotted, unslotted) := partitionSlottedNodes owned rs.staged
  forEach slotted fun name => do
    let _ ← processCandidate env name
    pure ()
  assignUnslotted env (max 0 (maxUnavail - rs.occupiedSlots)) 0 unslotted
  requeueForFencedNodes
  forEach rs.staged (drainStaged env)

/-- Classify the owned nodes and report the degraded ones. -/
def classifyNodes (r : BootcNodePoolReconciler) (env : Env) : Pass Unit :=
  update fun s =>
    let rs := applyRebootTimeouts s.owned (resolveRebootTimeout s.pool)
      env.now
      (buildRolloutState r.references s.owned (env.order .classification))
    { s with
      rs := rs
      pool :=
        if rs.degraded ≠ [] then
          setPoolDegraded env.now poolNodeDegraded
            ("Degraded nodes: " ++
              String.intercalate ", " (sortNames rs.degraded)) s.pool
        else s.pool }

/-- The rollout goes no further in this pass. -/
def haltRollout (env : Env) (unhealthy : List UnhealthySlot) : Pass Unit :=
  update fun s =>
    { s with
      rolloutHalted := true
      pool :=
        setPoolDegraded env.now poolRolloutHalted
          ("Rollout halted: 2+ unhealthy nodes in reboot slots (" ++
            String.intercalate ", "
              (sortNames (unhealthy.map fun u => u.name ++ ": " ++ u.reason)) ++
            ")") s.pool }

def driveRollout (r : BootcNodePoolReconciler) (env : Env) : Pass Unit := do
  mapError (.wrap "collecting drain results: ") (collectDrainResults env)
  r.classifyNodes env
  mapError (.wrap "freeing completed slots: ") (freeCompletedSlots env)
  let unhealthy ← read fun s =>
    findUnhealthySlots r.references s.owned s.rs s.pool.status.targetDigest
  if unhealthySlotHaltThreshold ≤ unhealthy.length then
    haltRollout env unhealthy
  else r.advanceRollout env

end BootcNodePoolReconciler

end BootcOperator
