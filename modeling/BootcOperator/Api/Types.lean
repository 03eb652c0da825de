import BootcOperator.Lib.GoQuote
import Mathlib.Data.Fintype.Pi

/-!
# The objects the operator works on

`BootcNode` and `BootcNodePool` from `api/v1alpha1`, the fields of Nodes,
NodeClaims and Secrets that the controller reads or writes, and the part of
`bootc status --json` that the daemon reads.

A name is not part of an object: it is the key under which the API server holds
the object.  An annotation map is split into the keys the operator names and
the remaining entries, which it never touches.  Labels are split in the same
way.
-/

namespace BootcOperator

/-- Nanoseconds on the wall clock.  There is no bound on them, while Go's `Sub`
saturates for readings that are more than 292 years apart. -/
abbrev Time := Int

/-- Nanoseconds between two clock readings, unbounded as well; a Go `Duration`
wraps at `2 ^ 63` of them. -/
abbrev Duration := Int

def second : Duration := 1000000000

/-! ## Object metadata -/

/-- An annotation map: the entries under keys the program names, and the
remaining ones. -/
structure Annotations (κ : Type) where
  known : κ → Option String
  other : List (String × String)

namespace Annotations

variable {κ : Type}

instance [DecidableEq κ] [Fintype κ] : DecidableEq (Annotations κ) :=
  fun left right =>
    decidable_of_iff
      (left.known = right.known ∧ left.other = right.other) <| by
        cases left
        cases right
        simp

def empty : Annotations κ :=
  ⟨fun _ => none, []⟩

/-- `metav1.HasAnnotation` -/
def has (annotations : Annotations κ) (key : κ) : Bool :=
  (annotations.known key).isSome

variable [DecidableEq κ]

variable (annotations : Annotations κ) (key : κ)

/-- `metav1.SetMetaDataAnnotation` -/
def set (annotations : Annotations κ) (key : κ) (value : String) :
    Annotations κ :=
  { annotations with
    known := Function.update annotations.known key (some value) }

/-- `delete(annotations, key)` -/
def delete (annotations : Annotations κ) (key : κ) : Annotations κ :=
  { annotations with
    known := Function.update annotations.known key none }

@[simp]
theorem set_known (tested : κ) (value : String) :
    (annotations.set key value).known tested =
      if tested = key then some value else annotations.known tested := by
  simp [set, Function.update_apply]

@[simp]
theorem set_other (value : String) :
    (annotations.set key value).other = annotations.other :=
  rfl

@[simp]
theorem delete_known (tested : κ) :
    (annotations.delete key).known tested =
      if tested = key then none else annotations.known tested := by
  simp [delete, Function.update_apply]

@[simp]
theorem delete_other :
    (annotations.delete key).other = annotations.other :=
  rfl

omit [DecidableEq κ] in
theorem eq_of_known_of_other
    {left right : Annotations κ}
    (known : ∀ key, left.known key = right.known key)
    (other : left.other = right.other) :
    left = right := by
  cases left
  cases right
  simp only [mk.injEq]
  exact ⟨funext known, other⟩

end Annotations

/-- The annotation keys of a BootcNode. -/
inductive BootcNodeKey where
  /-- `bootc.dev/in-reboot-slot` -/
  | inRebootSlot
  /-- `bootc.dev/was-cordoned` -/
  | wasCordoned
  /-- `bootc.dev/last-observed-state` -/
  | lastObservedState
  /-- `bootc.dev/owns-karpenter-do-not-repair` -/
  | ownsKarpenterDoNotRepair
  /-- `bootc.dev/owns-karpenter-do-not-disrupt` -/
  | ownsKarpenterDoNotDisrupt
  /-- `bootc.dev/owns-karpenter-nodeclaim-do-not-repair` -/
  | ownsKarpenterNodeClaimDoNotRepair
  /-- `bootc.dev/owns-karpenter-nodeclaim-do-not-disrupt` -/
  | ownsKarpenterNodeClaimDoNotDisrupt
  /-- `bootc.dev/owns-os-not-ready-taint` -/
  | ownsOsNotReadyTaint
  deriving DecidableEq, Repr

instance : Fintype BootcNodeKey where
  elems :=
    {.inRebootSlot, .wasCordoned, .lastObservedState,
      .ownsKarpenterDoNotRepair, .ownsKarpenterDoNotDisrupt,
      .ownsKarpenterNodeClaimDoNotRepair,
      .ownsKarpenterNodeClaimDoNotDisrupt, .ownsOsNotReadyTaint}
  complete key := by
    cases key <;> decide

/-- The annotation keys the controller manages on Nodes and NodeClaims. -/
inductive KarpenterKey where
  /-- `karpenter.sh/do-not-repair` -/
  | doNotRepair
  /-- `karpenter.sh/do-not-disrupt` -/
  | doNotDisrupt
  deriving DecidableEq, Repr

instance : Fintype KarpenterKey where
  elems := {.doNotRepair, .doNotDisrupt}
  complete key := by
    cases key <;> decide

/-- Node labels: `bootc.dev/managed` and the remaining ones. -/
structure Labels where
  managed : Option String
  other : List (String × String)
  deriving DecidableEq, Repr

/-- `metav1.OwnerReference`. -/
structure OwnerReference where
  apiVersion : String
  kind : String
  name : String
  uid : String
  controller : Bool
  deriving DecidableEq, Repr

inductive ConditionStatus where
  | conditionTrue
  | conditionFalse
  | conditionUnknown
  deriving DecidableEq, Repr

/-- `metav1.Condition` -/
structure Condition where
  type : String
  status : ConditionStatus
  reason : String
  message : String
  observedGeneration : Int
  lastTransitionTime : Time
  deriving DecidableEq, Repr

/-! ## BootcNode -/

inductive DesiredImageState where
  | staged
  | booted
  deriving DecidableEq, Repr

inductive RebootPolicy where
  | rebootOnly
  | allowSoftReboot
  deriving DecidableEq, Repr

/-- Where the pull secret is. -/
structure PullSecretRef where
  name : String
  secretNamespace : String
  deriving DecidableEq, Repr

/-- An OS image in a boot slot. -/
structure ImageInfo where
  image : String
  imageDigest : String
  version : String
  timestamp : Option Time
  architecture : String
  softRebootCapable : Bool
  incompatible : Bool
  deriving DecidableEq, Repr

/-- What the controller asks of the daemon. -/
structure BootcNodeSpec where
  desiredImage : String
  desiredImageState : DesiredImageState
  pullSecretRef : Option PullSecretRef
  rebootPolicy : Option RebootPolicy
  deriving DecidableEq, Repr

/-- What the daemon reports. -/
structure BootcNodeStatus where
  observedGeneration : Int
  booted : Option ImageInfo
  staged : Option ImageInfo
  rollback : Option ImageInfo
  conditions : List Condition
  deriving DecidableEq, Repr

/-- The object through which controller and daemon talk. -/
structure BootcNode where
  generation : Int
  annotations : Annotations BootcNodeKey
  ownerReferences : List OwnerReference
  spec : BootcNodeSpec
  status : BootcNodeStatus
  deriving DecidableEq

/-! ## BootcNodePool -/

/-- `intstr.IntOrString` -/
inductive IntOrString where
  | int (value : Int)
  | str (value : String)
  deriving DecidableEq, Repr

structure RolloutSpec where
  maxUnavailable : Option IntOrString
  paused : Bool
  drainTimeoutSeconds : Option Int
  rebootTimeoutSeconds : Option Int
  deriving DecidableEq, Repr

structure DisruptionSpec where
  rebootPolicy : Option RebootPolicy
  deriving DecidableEq, Repr

/-- One `matchExpressions` entry of a label selector. -/
structure LabelSelectorRequirement where
  key : String
  operator : String
  values : List String
  deriving DecidableEq, Repr

/-- `metav1.LabelSelector` -/
structure LabelSelector where
  matchLabels : List (String × String)
  matchExpressions : List LabelSelectorRequirement
  deriving DecidableEq, Repr

structure BootcNodePoolSpec where
  nodeSelector : Option LabelSelector
  imageRef : String
  rollout : Option RolloutSpec
  disruption : Option DisruptionSpec
  pullSecretRef : Option PullSecretRef
  deriving DecidableEq, Repr

structure BootcNodePoolStatus where
  observedGeneration : Int
  targetDigest : String
  nextTagResolutionTime : Option Time
  deployedDigest : String
  updateAvailable : Bool
  nodeCount : Int
  updatedCount : Int
  updatingCount : Int
  degradedCount : Int
  conditions : List Condition
  deriving DecidableEq, Repr

/-- A set of nodes and the image they are to run. -/
structure BootcNodePool where
  name : String
  uid : String
  generation : Int
  deletionTimestamp : Option Time
  finalizers : List String
  spec : BootcNodePoolSpec
  status : BootcNodePoolStatus
  deriving DecidableEq, Repr

/-! ## Nodes, NodeClaims and Secrets -/

inductive TaintEffect where
  | noSchedule
  | preferNoSchedule
  | noExecute
  deriving DecidableEq, Repr

structure Taint where
  key : String
  value : String
  effect : TaintEffect
  deriving DecidableEq, Repr

structure NodeCondition where
  type : String
  status : ConditionStatus
  deriving DecidableEq, Repr

/-- A Node, with what the operator reads or writes. -/
structure Node where
  resourceVersion : Nat
  labels : Labels
  annotations : Annotations KarpenterKey
  ownerReferences : List OwnerReference
  deletionTimestamp : Option Time
  unschedulable : Bool
  taints : List Taint
  conditions : List NodeCondition
  deriving DecidableEq

structure NodeClaimCondition where
  type : String
  status : String
  deriving DecidableEq, Repr

/-- An unstructured Karpenter NodeClaim.  Its conditions may be malformed, in
which case reading them fails. -/
structure NodeClaim where
  annotations : Annotations KarpenterKey
  deletionTimestamp : Option Time
  conditions : Except String (List NodeClaimCondition)

structure Secret where
  type : String
  data : List (String × String)
  deriving DecidableEq, Repr

/-! ## Host status -/

/-- `bootc.ImageStatus` with its image pullspec. -/
structure ImageStatus where
  image : String
  version : Option String
  timestamp : Option Time
  imageDigest : String
  architecture : String
  deriving DecidableEq, Repr

/-- One deployment in `bootc status`. -/
structure BootEntry where
  image : Option ImageStatus
  incompatible : Bool
  softRebootCapable : Bool
  deriving DecidableEq, Repr

/-- The `status` section of `bootc status --json`. -/
structure HostStatus where
  staged : Option BootEntry
  booted : Option BootEntry
  rollback : Option BootEntry
  deriving DecidableEq, Repr

end BootcOperator
