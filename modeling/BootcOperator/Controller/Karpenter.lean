import BootcOperator.Controller.Requests

/-!
# Coordination with Karpenter

`internal/controller/karpenter.go` and the NodeClaim accessors of
`internal/karpenter/nodeclaim.go`: looking up the NodeClaim of a Node,
deferring while Karpenter works on it, and the annotations whose ownership is
recorded on the BootcNode.
-/

namespace BootcOperator

def nodeClaimAPIVersion : String := "karpenter.sh/v1"
def nodeClaimKind : String := "NodeClaim"
def rebootingTaintKey : String := "karpenter.sh/rebooting"
def disruptedTaintKey : String := "karpenter.sh/disrupted"
def conditionRebooting : String := "Rebooting"
def conditionDisruptionReason : String := "DisruptionReason"
def conditionInstanceTerminating : String := "InstanceTerminating"

def karpenterRequeueInterval : Duration := 30 * second

def OwnerReference.isNodeClaim (ref : OwnerReference) : Bool :=
  ref.apiVersion = nodeClaimAPIVersion ∧ ref.kind = nodeClaimKind

def isNodeOwnedByKarpenterNodeClaim (node : Node) : Bool :=
  node.ownerReferences.any OwnerReference.isNodeClaim

/-- `karpenterNodeClaimResult` without its error case, which is an error of
the program. -/
inductive KarpenterNodeClaimResult where
  | found (name : String) (claim : NodeClaim)
  | absent
  | crdMissing
  | noRef

def KarpenterNodeClaimResult.claim :
    KarpenterNodeClaimResult → Option (String × NodeClaim)
  | .found name claim => some (name, claim)
  | _ => none

/-- The answer of the API server to the lookup of a Node's NodeClaim. -/
def lookupNodeClaim (node : Node) (cluster : Cluster) :
    KarpenterNodeClaimResult :=
  match node.ownerReferences.find? OwnerReference.isNodeClaim with
  | none => .noRef
  | some ref =>
      if ¬ cluster.nodeClaimCRD then .crdMissing
      else
        match cluster.nodeClaim ref.name with
        | some claim => .found ref.name claim
        | none => .absent

/-- The request is sent only for a Node with a NodeClaim reference. -/
def getKarpenterNodeClaim (env : Env) (call : Call) (node : Node) :
    Pass KarpenterNodeClaimResult :=
  if isNodeOwnedByKarpenterNodeClaim node then
    Pass.query env call (lookupNodeClaim node)
  else
    pure .noRef

def conditionIsTrue (conditions : List NodeClaimCondition) (type : String) :
    Bool :=
  conditions.any fun condition =>
    condition.status = "True" ∧ condition.type = type

/-- What `isKarpenterDisruptionActive` found. -/
structure KarpenterDisruptionStatus where
  active : Bool := false
  claimMissing : Bool := false
  prefetchedClaim : Option (String × NodeClaim) := none

def Taint.isKarpenterDisruption (taint : Taint) : Bool :=
  (taint.key = rebootingTaintKey ∧ taint.effect = .noSchedule) ∨
    (taint.key = disruptedTaintKey ∧ taint.effect = .noSchedule)

/-- The conditions of a NodeClaim that stand for an active disruption. -/
def NodeClaim.isDisrupted (claim : NodeClaim) : Except String Bool :=
  claim.conditions.map fun conditions =>
    [conditionRebooting, conditionDisruptionReason,
      conditionInstanceTerminating].any (conditionIsTrue conditions)

/-- The part of `isKarpenterDisruptionActive` behind the lookup of the
NodeClaim. -/
def disruptionOf :
    KarpenterNodeClaimResult → Except ApiError KarpenterDisruptionStatus
  | .noRef | .crdMissing => .ok {}
  | .absent => .ok { active := true, claimMissing := true }
  | .found name claim =>
      if claim.deletionTimestamp.isSome then .ok { active := true }
      else
        match claim.isDisrupted with
        | .error err => .error ⟨.other, err⟩
        | .ok true => .ok { active := true }
        | .ok false => .ok { prefetchedClaim := some (name, claim) }

def isKarpenterDisruptionActive (env : Env) (call : Call) (node : Node) :
    Pass KarpenterDisruptionStatus :=
  if node.deletionTimestamp.isSome then
    pure { active := true }
  else if node.taints.any Taint.isKarpenterDisruption then
    pure { active := true }
  else do
    let result ← getKarpenterNodeClaim env call node
    Program.ofExcept (disruptionOf result)

/-- The annotations of the owner and of the target after
`ensureOwnedAnnotation`. -/
def ensureOwnedAnnotation (ownerKey : BootcNodeKey) (targetKey : KarpenterKey)
    (value : String)
    (annotations : Annotations BootcNodeKey × Annotations KarpenterKey) :
    Annotations BootcNodeKey × Annotations KarpenterKey :=
  let (owner, target) := annotations
  if (target.known targetKey).getD "" = value then
    (owner, target)
  else
    (if owner.has ownerKey then owner else owner.set ownerKey "true",
      target.set targetKey value)

/-- Whether `removeOwnedAnnotation` removes the annotation of the target. -/
def removesOwnedAnnotation (owner : Annotations BootcNodeKey)
    (ownerKey : BootcNodeKey) (targetKey : KarpenterKey)
    (target : Annotations KarpenterKey) : Bool :=
  owner.has ownerKey && target.has targetKey

/-- Removes the annotation if the operator has set it. -/
def removeOwnedAnnotation (owner : Annotations BootcNodeKey)
    (ownerKey : BootcNodeKey) (targetKey : KarpenterKey)
    (target : Annotations KarpenterKey) : Annotations KarpenterKey :=
  if removesOwnedAnnotation owner ownerKey targetKey target then
    target.delete targetKey
  else target

end BootcOperator
