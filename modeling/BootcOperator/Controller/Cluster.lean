import BootcOperator.Api.Constants
import BootcOperator.Image.Digest
import BootcOperator.Lib.Program

/-!
# The controller and the API server

The state a `Reconcile` of the pool controller works on and the requests it
can send.  A `Reconcile` is a `Program` over `PassState`: the world that
outlives it (the objects in the API server and the drain map of the
reconciler), and its own memory (the pool it has read and the BootcNodes the
pool owns).

Every request has a label, `Call`.  The environment decides for each label
whether the request fails and which snapshot a read is served from; Go's map
iteration orders are part of the environment as well.

The log records what the controller has done, with the world after it.
`World.cordoned` and `PassState.issued` are history: no step reads them.
-/

namespace BootcOperator

/-- What the API server holds. -/
structure Cluster where
  node : String → Option Node
  bootcNode : String → Option BootcNode
  nodeClaim : String → Option NodeClaim
  pool : String → Option BootcNodePool
  /-- by namespace and name -/
  secret : String → String → Option Secret
  /-- the NodeClaim CRD is installed -/
  nodeClaimCRD : Bool

/-- What the goroutine of a drain has sent. -/
inductive DrainOutcome where
  | running
  | succeeded
  | failed (err : String)
  deriving DecidableEq, Repr

/-- A drain that the drain manager holds. -/
structure DrainStatus where
  outcome : DrainOutcome
  /-- `ctx.Err() != nil` -/
  cancelled : Bool
  startTime : Time
  isStalled : Bool
  deriving DecidableEq, Repr

/-- The cluster and what the operator keeps between passes. -/
structure World where
  api : Cluster
  drains : String → Option DrainStatus
  /-- the operator has set `spec.unschedulable` and not yet reset it -/
  cordoned : String → Bool

/-- The note of an event, before it is formatted. -/
inductive EventNote where
  | poolImageUpdate (imageRef newDigest previousDigest : String)
  | poolRolloutStarted (targetDigest : String)
  | poolRolloutCompleted (targetDigest : String)
  | poolDegraded (message : String)
  | nodeStaging (image : String)
  | nodeStaged (image : String)
  | nodeRebooting (image : String)
  | nodeIdle (image : String)
  | drainFailed (err : String)
  | drainStalled (threshold : Duration)
  deriving DecidableEq, Repr

inductive EventObject where
  | pool (name : String)
  | bootcNode (name : String)
  deriving DecidableEq, Repr

inductive EventType where
  | normal
  | warning
  deriving DecidableEq, Repr

structure Event where
  regarding : EventObject
  related : Option EventObject
  type : EventType
  reason : String
  action : String
  note : EventNote
  deriving DecidableEq, Repr

/-! ## Requests and the log -/

/-- The requests a `Reconcile` sends, by the place in the code that sends
them. -/
inductive Call where
  | getPool
  | updatePool
  | updatePoolStatus
  | getSecret
  | listNodes
  | listBootcNodes
  | labelNode (name : String)
  | syncSpec (name : String)
  | createBootcNode (name : String)
  | getDeparting (name : String)
  | restoreNode (name : String)
  | getRestoredClaim (name : String)
  | restoreClaim (name : String)
  | unlabelNode (name : String)
  | deleteBootcNode (name : String)
  | markObserved (name : String)
  | approve (name : String)
  | getCompleted (name : String)
  | freeSlot (name : String)
  | removeTaint (name : String)
  | clearTaint (name : String)
  | getCandidate (name : String)
  | getCandidateClaim (name : String)
  | getAssignedClaim (name : String)
  | assignSlot (name : String)
  | fenceClaim (name : String)
  | cordonNode (name : String)
  | getDraining (name : String)
  | getDrainingClaim (name : String)
  deriving DecidableEq, Repr

/-- What a pass does to the outside. -/
inductive Action where
  /-- a write that the API server has applied -/
  | wrote (call : Call)
  | cancelDrain (name : String)
  | collectDrain (name : String)
  | startDrain (name : String)
  | stallDrain (name : String)
  | event (event : Event)
  /-- a call of `TagResolver.Resolve` with its answer -/
  | resolve (ref : String) (answer : Except String String)

/-- An action and the world it leaves. -/
structure Entry where
  action : Action
  after : World

/-- The loops whose order is left open. -/
inductive Loop where
  | matchingNodes
  | departedNodes
  | deletedPool
  | nodeEvents
  | drainResults
  | classification
  | drainStalls
  deriving DecidableEq, Repr

/-- The surroundings of one `Reconcile`. -/
structure Env where
  now : Time
  /-- the requests that fail, with the error -/
  fails : Call → Option String
  /-- the snapshot that serves a read -/
  view : Call → Cluster → Cluster
  /-- the order in which a loop visits names -/
  order : Loop → List String
  /-- `TagResolver.Resolve` for a reference and credentials -/
  resolve : String → Option String → Except String String

/-- The fields of the reconciler, with the library functions it calls. -/
structure BootcNodePoolReconciler where
  references : ReferenceLibrary
  /-- `metav1.LabelSelectorAsSelector` with the selector's `Matches` -/
  labelSelectorAsSelector :
    Option LabelSelector → Except String (Labels → Bool)
  /-- `intstr.GetScaledValueFromIntOrPercent`, rounding up -/
  getScaledValueFromIntOrPercent : IntOrString → Int → Except String Int
  tagResolutionInterval : Duration
  pullSecretNamespaces : List String

/-- The kinds of errors the code tells apart. -/
inductive ErrorKind where
  | other
  | notFound
  | alreadyExists
  | invalidSpec
  deriving DecidableEq, Repr

structure ApiError where
  kind : ErrorKind
  message : String
  deriving DecidableEq, Repr

/-- `fmt.Errorf("text%w", err)` -/
def ApiError.wrap (text : String) (err : ApiError) : ApiError :=
  { err with message := text ++ err.message }

/-! ## The memory of a pass -/

/-- `rolloutState`; its BootcNodes are named, they live in
`PassState.owned`. -/
structure RolloutState where
  upToDate : List String := []
  pending : List String := []
  staging : List String := []
  staged : List String := []
  rebooting : List String := []
  degraded : List String := []
  unclassified : List String := []
  rebootTimedOutNodes : List String := []
  occupiedSlots : Int := 0
  requeueAfter : Duration := 0

/-- The state of one `Reconcile`. -/
structure PassState where
  world : World
  log : List Entry
  /-- the writes sent so far, applied or not -/
  issued : List Call
  pool : BootcNodePool
  /-- `ownedBootcNodes` -/
  owned : String → Option BootcNode
  rs : RolloutState
  /-- `rolloutHalted` in `driveRollout` -/
  rolloutHalted : Bool
  /-- `maxUnavail` in `driveRollout`, once it is resolved -/
  maxUnavail : Option Int

def BootcNodePool.zero : BootcNodePool :=
  { name := ""
    uid := ""
    generation := 0
    deletionTimestamp := none
    finalizers := []
    spec :=
      { nodeSelector := none
        imageRef := ""
        rollout := none
        disruption := none
        pullSecretRef := none }
    status :=
      { observedGeneration := 0
        targetDigest := ""
        nextTagResolutionTime := none
        deployedDigest := ""
        updateAvailable := false
        nodeCount := 0
        updatedCount := 0
        updatingCount := 0
        degradedCount := 0
        conditions := [] } }

def PassState.start (world : World) : PassState :=
  { world := world
    log := []
    issued := []
    pool := .zero
    owned := fun _ => none
    rs := {}
    rolloutHalted := false
    maxUnavail := none }

/-- A part of `Reconcile`. -/
abbrev Pass := Program PassState ApiError

end BootcOperator
