import BootcOperator.Controller.Cluster

/-!
# Requests to the API server

Reads, patches, creation and deletion as the API server answers them.

A merge patch carries the difference between the object the caller has read
and the object it wants; the server applies that difference to the object it
holds, and the answer replaces the caller's copy.  A Node patch also carries
the resource version and is refused when the Node has changed since.
-/

namespace BootcOperator

/-! ## Merge patches -/

/-- One field of a merge patch applied by the server. -/
def mergeField {α : Type} [DecidableEq α] (base modified server : α) : α :=
  if base = modified then server else modified

@[simp]
theorem mergeField_self {α : Type} [DecidableEq α] (base modified : α) :
    mergeField base modified base = modified := by
  unfold mergeField
  split
  · assumption
  · rfl

/-- A JSON merge patch of annotations. -/
def Annotations.merge {κ : Type} (base modified server : Annotations κ) :
    Annotations κ :=
  { known := fun key =>
      mergeField (base.known key) (modified.known key) (server.known key)
    other := server.other }

/-- The fields of the spec are merged one by one.  `pullSecretRef` is taken as
one field, where a merge patch carries its name and its namespace separately;
the two differ only for a base that is not the object of the server. -/
def BootcNodeSpec.merge (base modified server : BootcNodeSpec) :
    BootcNodeSpec :=
  { desiredImage :=
      mergeField base.desiredImage modified.desiredImage
        server.desiredImage
    desiredImageState :=
      mergeField base.desiredImageState modified.desiredImageState
        server.desiredImageState
    pullSecretRef :=
      mergeField base.pullSecretRef modified.pullSecretRef
        server.pullSecretRef
    rebootPolicy :=
      mergeField base.rebootPolicy modified.rebootPolicy
        server.rebootPolicy }

/-- A patch of annotations and spec; a changed spec gets a new generation, and
the status is not reachable through this endpoint. -/
def BootcNode.merge (base modified server : BootcNode) : BootcNode :=
  let spec := base.spec.merge modified.spec server.spec
  { server with
    annotations :=
      base.annotations.merge modified.annotations server.annotations
    spec := spec
    generation :=
      if spec = server.spec then server.generation
      else server.generation + 1 }

def NodeClaim.merge (base modified server : NodeClaim) : NodeClaim :=
  { server with
    annotations :=
      base.annotations.merge modified.annotations server.annotations }

/-- The Node the server stores for a patch of the Node it holds. -/
def Node.store (server modified : Node) : Node :=
  { modified with
    resourceVersion :=
      if { modified with resourceVersion := server.resourceVersion } = server
      then server.resourceVersion
      else server.resourceVersion + 1 }

/-! ## Updates of the world -/

namespace World

/-- Stores the Node and follows its cordon. -/
def putNode (w : World) (name : String) (node : Node) : World :=
  let lifted :=
    match w.api.node name with
    | some old => !old.unschedulable
    | none => false
  { w with
    api := { w.api with node := Function.update w.api.node name (some node) }
    cordoned :=
      Function.update w.cordoned name
        (node.unschedulable && (w.cordoned name || lifted)) }

def putBootcNode (w : World) (name : String) (bn : Option BootcNode) :
    World :=
  { w with
    api :=
      { w.api with bootcNode := Function.update w.api.bootcNode name bn } }

def putNodeClaim (w : World) (name : String) (claim : NodeClaim) : World :=
  { w with
    api :=
      { w.api with
        nodeClaim := Function.update w.api.nodeClaim name (some claim) } }

def putPool (w : World) (name : String) (pool : Option BootcNodePool) :
    World :=
  { w with
    api := { w.api with pool := Function.update w.api.pool name pool } }

def putDrain (w : World) (name : String) (drain : Option DrainStatus) :
    World :=
  { w with drains := Function.update w.drains name drain }

section Lookup

variable (w : World) (name other : String)

theorem putNode_node (node : Node) :
    (w.putNode name node).api.node other =
      if other = name then some node else w.api.node other := by
  simp [putNode, Function.update_apply]

theorem putNode_cordoned
    {old : Node} (stored : w.api.node name = some old) (node : Node) :
    (w.putNode name node).cordoned other =
      if other = name then
        node.unschedulable && (w.cordoned name || !old.unschedulable)
      else w.cordoned other := by
  simp [putNode, stored, Function.update_apply]

theorem putBootcNode_bootcNode (bn : Option BootcNode) :
    (w.putBootcNode name bn).api.bootcNode other =
      if other = name then bn else w.api.bootcNode other := by
  simp [putBootcNode, Function.update_apply]

theorem putDrain_drains (drain : Option DrainStatus) :
    (w.putDrain name drain).drains other =
      if other = name then drain else w.drains other := by
  simp [putDrain, Function.update_apply]

theorem putPool_pool (pool : Option BootcNodePool) :
    (w.putPool name pool).api.pool other =
      if other = name then pool else w.api.pool other := by
  simp [putPool, Function.update_apply]

end Lookup

end World

namespace PassState

/-- Change the world and note the action in the log. -/
def perform (s : PassState) (action : Action) (world : World) : PassState :=
  { s with
    world := world
    log := s.log ++ [⟨action, world⟩] }

def setOwned (s : PassState) (name : String) (bn : Option BootcNode) :
    PassState :=
  { s with owned := Function.update s.owned name bn }

end PassState

namespace Pass

open Program

/-- An action that leaves the world alone. -/
def note (action : Action) : Pass Unit :=
  update fun s => s.perform action s.world

/-- Send a request; it may fail for reasons outside the model. -/
def send (env : Env) (call : Call) : Pass Unit :=
  match env.fails call with
  | none => pure ()
  | some message => fail ⟨.other, message⟩

/-- A write is sent; whether it is applied comes after. -/
def sendWrite (env : Env) (call : Call) : Pass Unit := do
  update fun s => { s with issued := s.issued ++ [call] }
  send env call

/-- Read from the snapshot that serves the request. -/
def query {α : Type} (env : Env) (call : Call) (look : Cluster → α) :
    Pass α := do
  send env call
  read fun s => look (env.view call s.world.api)

/-- `r.Get`: an absent object is an error. -/
def get {α : Type} (env : Env) (call : Call) (look : Cluster → Option α)
    (resource name : String) : Pass α := do
  match ← query env call look with
  | some object => pure object
  | none =>
      fail ⟨.notFound, resource ++ " " ++ name.goQuote ++ " not found"⟩

def getNode (env : Env) (call : Call) (name : String) : Pass Node :=
  get env call (·.node name) "nodes" name

/-- A BootcNode patch together with the assignment of the answer to the
caller's object. -/
def patchBootcNode (env : Env) (call : Call) (name : String)
    (base modified : BootcNode) : Pass Unit := do
  sendWrite env call
  match ← read fun s => s.world.api.bootcNode name with
  | none =>
      fail ⟨.notFound, "bootcnodes " ++ name.goQuote ++ " not found"⟩
  | some server =>
      let stored := base.merge modified server
      update fun s =>
        (s.perform (.wrote call)
          (s.world.putBootcNode name (some stored))).setOwned name
            (some stored)

/-- A Node patch with the optimistic lock; it returns the stored Node. -/
def patchNode (env : Env) (call : Call) (name : String)
    (node modified : Node) : Pass Node := do
  sendWrite env call
  match ← read fun s => s.world.api.node name with
  | none => fail ⟨.notFound, "nodes " ++ name.goQuote ++ " not found"⟩
  | some server =>
      if server.resourceVersion ≠ node.resourceVersion then
        fail ⟨.other, "the object has been modified"⟩
      else do
        let stored := server.store modified
        update fun s =>
          s.perform (.wrote call) (s.world.putNode name stored)
        pure stored

def patchNodeClaim (env : Env) (call : Call) (name : String)
    (claim modified : NodeClaim) : Pass Unit := do
  sendWrite env call
  match ← read fun s => s.world.api.nodeClaim name with
  | none => fail ⟨.notFound, "nodeclaims " ++ name.goQuote ++ " not found"⟩
  | some server =>
      update fun s =>
        s.perform (.wrote call)
          (s.world.putNodeClaim name (claim.merge modified server))

def createBootcNode (env : Env) (call : Call) (name : String)
    (bn : BootcNode) : Pass Unit := do
  sendWrite env call
  match ← read fun s => s.world.api.bootcNode name with
  | some _ =>
      fail ⟨.alreadyExists,
        "bootcnodes " ++ name.goQuote ++ " already exists"⟩
  | none =>
      update fun s =>
        s.perform (.wrote call) (s.world.putBootcNode name (some bn))

/-- `r.Delete`, whose callers ignore that the object is absent. -/
def deleteBootcNode (env : Env) (call : Call) (name : String) :
    Pass Unit := do
  sendWrite env call
  update fun s =>
    s.perform (.wrote call) (s.world.putBootcNode name none)

/-- `r.Update` of the pool: the status is not reachable through this endpoint,
and a terminating pool without finalizers is gone. -/
def updatePool (env : Env) (name : String) (pool : BootcNodePool) :
    Pass Unit := do
  sendWrite env .updatePool
  match ← read fun s => s.world.api.pool name with
  | none =>
      fail ⟨.notFound, "bootcnodepools " ++ name.goQuote ++ " not found"⟩
  | some server =>
      let stored :=
        if pool.deletionTimestamp.isSome ∧ pool.finalizers = [] then none
        else some { pool with status := server.status }
      update fun s =>
        s.perform (.wrote .updatePool) (s.world.putPool name stored)

/-- `r.Status().Update` of the pool: only the status is written. -/
def updatePoolStatus (env : Env) (name : String) (pool : BootcNodePool) :
    Pass Unit := do
  sendWrite env .updatePoolStatus
  match ← read fun s => s.world.api.pool name with
  | none =>
      fail ⟨.notFound, "bootcnodepools " ++ name.goQuote ++ " not found"⟩
  | some server =>
      update fun s =>
        s.perform (.wrote .updatePoolStatus)
          (s.world.putPool name (some { server with status := pool.status }))

end Pass

end BootcOperator
