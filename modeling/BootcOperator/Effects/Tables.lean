import BootcOperator.Effects.Tracking

/-!
# Worlds given by tables

Finite worlds for concrete runs: the objects are listed in tables, and the
environment lets every request succeed and visits the listed names in order.
-/

namespace BootcOperator

/-- Finite tables that describe a cluster. -/
structure Tables where
  nodes : List (String × Node) := []
  bootcNodes : List (String × BootcNode) := []
  pools : List (String × BootcNodePool) := []
  drains : List (String × DrainStatus) := []

namespace Tables

def world (tables : Tables) : World :=
  { api :=
      { node := fun name => tables.nodes.lookup name
        bootcNode := fun name => tables.bootcNodes.lookup name
        nodeClaim := fun _ => none
        pool := fun name => tables.pools.lookup name
        secret := fun _ _ => none
        nodeClaimCRD := false }
    drains := fun name => tables.drains.lookup name
    cordoned := fun _ => false }

def names (tables : Tables) : List String :=
  (tables.nodes.map Prod.fst ++ tables.bootcNodes.map Prod.fst ++
    tables.drains.map Prod.fst).dedup

end Tables

/-- No request fails, reads are fresh, no tag is known. -/
def Env.calm (names : List String) (now : Time) : Env :=
  { now := now
    fails := fun _ => none
    view := fun _ cluster => cluster
    order := fun _ => names
    resolve := fun _ _ => .error "no such tag" }

/-- A calm environment in which the list of BootcNodes is a given one. -/
def Env.listing (names : List String)
    (bootcNode : String → Option BootcNode) : Env :=
  { Env.calm names 0 with
    view := fun call cluster =>
      if call = .listBootcNodes then { cluster with bootcNode := bootcNode }
      else cluster }

theorem mem_of_lookup_eq_some
    {α : Type} {name : String} {value : α} {table : List (String × α)}
    (found : table.lookup name = some value) : (name, value) ∈ table := by
  induction table with
  | nil => cases found
  | cons entry rest ih =>
      obtain ⟨key, listed⟩ := entry
      rw [List.lookup_cons] at found
      split at found
      · next same =>
          cases found
          simp [beq_iff_eq.mp same]
      · exact List.mem_cons_of_mem _ (ih found)

theorem mem_of_lookup_ne_none
    {α : Type} {name : String} {table : List (String × α)}
    (found : table.lookup name ≠ none) : name ∈ table.map Prod.fst := by
  obtain ⟨value, isValue⟩ := Option.ne_none_iff_exists'.mp found
  exact List.mem_map_of_mem (mem_of_lookup_eq_some isValue)

/-- The entries of a table by which a library parses. -/
theorem mem_of_parseNamed
    {table : List (String × String × Option String)} {text : String}
    {named : Named}
    (parsed : (ReferenceLibrary.ofTable table).parseNamed text = .ok named) :
    (text, named.trimmed, named.digest) ∈ table := by
  unfold ReferenceLibrary.ofTable at parsed
  dsimp only at parsed
  split at parsed
  · next found =>
      cases parsed
      exact mem_of_lookup_eq_some found
  · cases parsed

theorem Tables.within_names (tables : Tables) :
    tables.world.Within tables.names := by
  refine ⟨?_, ?_, ?_⟩
  · intro name present
    have listed := mem_of_lookup_ne_none present
    simp [Tables.names, listed]
  · intro name present
    have listed := mem_of_lookup_ne_none present
    simp [Tables.names, listed]
  · intro name present
    have listed := mem_of_lookup_ne_none present
    simp [Tables.names, listed]

/-- Calm surroundings are faithful to a world whose names they visit. -/
theorem Env.faithful_calm
    {w : World} {names : List String} {now : Time}
    (within : w.Within names) (nodup : names.Nodup) :
    (Env.calm names now).Faithful w :=
  ⟨fun _ _ => rfl, fun _ => nodup, fun _ => within⟩

/-- The user edits the reference of the pool. -/
def World.setImageRef (w : World) (request ref : String) : World :=
  match w.api.pool request with
  | none => w
  | some pool =>
      w.putPool request
        (some { pool with spec := { pool.spec with imageRef := ref } })

theorem World.setImageRef_bootcNode (w : World) (request ref : String) :
    (w.setImageRef request ref).api.bootcNode = w.api.bootcNode := by
  unfold World.setImageRef
  split <;> rfl

theorem World.Within.setImageRef
    {w : World} {names : List String} (within : w.Within names)
    (request ref : String) : (w.setImageRef request ref).Within names := by
  unfold World.setImageRef
  split
  · exact within
  · exact ⟨within.node, within.bootcNode, within.drain⟩

/-- A reconciler over `osLibrary` whose selectors match every Node. -/
def osReconciler : BootcNodePoolReconciler :=
  { references := osLibrary
    labelSelectorAsSelector := fun _ => .ok fun _ => true
    getScaledValueFromIntOrPercent := fun value _ =>
      match value with
      | .int value => .ok value
      | .str _ => .error "invalid value for IntOrString"
    tagResolutionInterval := 300 * second
    pullSecretNamespaces := [] }

/-- A live pool with this reference. -/
def osPool (imageRef : String) : BootcNodePool :=
  { BootcNodePool.zero with
    name := "workers"
    uid := "workers-uid"
    generation := 1
    finalizers := [finalizerPoolCleanup]
    spec := { BootcNodePool.zero.spec with imageRef := imageRef } }

def plainNode : Node :=
  { resourceVersion := 0
    labels := ⟨some "", []⟩
    annotations := .empty
    ownerReferences := []
    deletionTimestamp := none
    unschedulable := false
    taints := []
    conditions := [⟨"Ready", .conditionTrue⟩] }

def imageInfo (image digest : String) : ImageInfo :=
  { image := image
    imageDigest := digest
    version := ""
    timestamp := none
    architecture := "amd64"
    softRebootCapable := false
    incompatible := false }

/-- A BootcNode of `osPool` that runs `booted` and has staged another image
for `desired`. -/
def stagedNode (desired booted : String) : BootcNode :=
  { generation := 1
    annotations :=
      Annotations.empty.set .lastObservedState ("False:Staged:" ++ desired)
    ownerReferences :=
      [{ apiVersion := "node.bootc.dev/v1alpha1"
         kind := "BootcNodePool"
         name := "workers"
         uid := "workers-uid"
         controller := true }]
    spec :=
      { desiredImage := desired
        desiredImageState := .staged
        pullSecretRef := none
        rebootPolicy := some .rebootOnly }
    status :=
      { observedGeneration := 1
        booted := some (imageInfo booted "")
        staged := none
        rollback := none
        conditions :=
          [{ type := nodeIdle
             status := .conditionFalse
             reason := nodeReasonStaged
             message := ""
             observedGeneration := 1
             lastTransitionTime := 0 }] } }

/-- The daemon reports that the host reboots. -/
def rebootingNode : BootcNode :=
  { stagedNode "os@b" "os@a" with
    status :=
      { (stagedNode "os@b" "os@a").status with
        conditions :=
          [{ type := nodeIdle
             status := .conditionFalse
             reason := nodeReasonRebooting
             message := ""
             observedGeneration := 1
             lastTransitionTime := 0 }] } }

end BootcOperator
