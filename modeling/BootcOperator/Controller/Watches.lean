import BootcOperator.Controller.Rollout

/-!
# Watches

The predicates and map functions by which `SetupWithManager` in
`bootcnodepool_controller.go` turns events of Secrets and Nodes into requests.
The handler applies a map function to the object of a creation or deletion,
and to both objects of an update.
-/

namespace BootcOperator

/-- What a watch reports of an object. -/
inductive ObjectEvent (α : Type) where
  | create (new : α)
  | update (old new : α)
  | delete (old : α)

namespace ObjectEvent

variable {α : Type}

def before : ObjectEvent α → Option α
  | .create _ => none
  | .update old _ | .delete old => some old

def after : ObjectEvent α → Option α
  | .create new | .update _ new => some new
  | .delete _ => none

/-- The objects to which the handler applies the map function. -/
def mapped : ObjectEvent α → List α
  | .create new => [new]
  | .update old new => [old, new]
  | .delete old => [old]

end ObjectEvent

def secretTypeDockerConfigJson : String := "kubernetes.io/dockerconfigjson"

/-- The object at which `predicate.NewPredicateFuncs` looks. -/
def ObjectEvent.carried {α : Type} : ObjectEvent α → α
  | .create new | .update _ new => new
  | .delete old => old

/-- Only Secrets of the docker type are watched. -/
def secretTypePredicate (event : ObjectEvent Secret) : Bool :=
  event.carried.type = secretTypeDockerConfigJson

def mapSecretToPoolRequests (pools : List BootcNodePool)
    (secretNamespace name : String) : List String :=
  (pools.filter fun pool =>
    match pool.spec.pullSecretRef with
    | none => false
    | some ref =>
        ref.name = name ∧ ref.secretNamespace = secretNamespace).map (·.name)

def hasKarpenterRebootTaint (node : Node) : Bool :=
  node.taints.any fun taint =>
    taint.key = rebootingTaintKey ∧ taint.effect = .noSchedule

/-- Which events of Nodes lead to a `Reconcile`. -/
def nodePredicates : ObjectEvent Node → Bool
  | .create _ | .delete _ => true
  | .update old new =>
      old.labels ≠ new.labels ∨
        nodeReadyStatus old ≠ nodeReadyStatus new ∨
        old.unschedulable ≠ new.unschedulable ∨
        hasKarpenterRebootTaint old ≠ hasKarpenterRebootTaint new ∨
        nodeHasOsNotReadyTaint old ≠ nodeHasOsNotReadyTaint new

/-- Each request is made once. -/
def addRequests (requests names : List String) : List String :=
  names.foldl
    (fun requests name =>
      if name ∈ requests then requests else requests ++ [name]) requests

namespace BootcNodePoolReconciler

def nodeSelectorMatchesNode (r : BootcNodePoolReconciler)
    (sel : Option LabelSelector) (node : Node) : Except String Bool :=
  (r.labelSelectorAsSelector sel).map fun selector => selector node.labels

/-- The names of the pools whose selector matches the labels of the Node; a
pool whose selector is invalid is passed over. -/
def matchingPools (r : BootcNodePoolReconciler) (pools : List BootcNodePool)
    (node : Node) : List String :=
  (pools.filter fun pool =>
    match r.nodeSelectorMatchesNode pool.spec.nodeSelector node with
    | .ok selected => selected
    | .error _ => false).map (·.name)

/-- `mapNodeToPoolRequests`, with the BootcNode of the Node's name. -/
def mapNodeToPoolRequests (r : BootcNodePoolReconciler)
    (pools : List BootcNodePool) (bootcNode : Option BootcNode)
    (node : Node) : List String :=
  let requests := addRequests [] (r.matchingPools pools node)
  match bootcNode with
  | none => requests
  | some bn =>
      addRequests requests
        ((bn.ownerReferences.filter (·.kind = "BootcNodePool")).map (·.name))

end BootcNodePoolReconciler

end BootcOperator
