import BootcOperator.Effects.Tables
import BootcOperator.Effects.Transitions

/-!
# The startup taint

A new Node waits with the taint `bootc.dev/os-not-ready:NoSchedule` until the
operator has verified its operating system.  The operator removes the taint
only from a ready Node whose BootcNode is classified up to date against the
current target of its pool and records that the taint is the operator's to
remove.  No write touches any other taint.
-/

namespace BootcOperator

open BootcNodePoolReconciler

/-! ## What an effect does to the taints -/

/-- The taints of a Node after an effect. -/
inductive TaintChange (c : PassContext) (w : World) (name : String)
    (node : Node) (taints : List Taint) : Prop
  | kept : taints = node.taints → TaintChange c w name node taints
  | removed {bn : BootcNode} :
      taints = removeOsNotReadyTaint node.taints →
      Completed c w name bn node →
      bn.annotations.has .ownsOsNotReadyTaint = true →
      TaintChange c w name node taints

section Effects

variable {c : PassContext} {budget : Option Int} {action : Action}
  {w w' : World} {name : String} {node : Node}

theorem TaintChange.putNode
    {changed : String} {old stored : Node}
    (isOld : w.api.node changed = some old)
    (change : TaintChange c w changed old stored.taints)
    (isNode : w.api.node name = some node) :
    ∃ node', (w.putNode changed stored).api.node name = some node' ∧
      TaintChange c w name node node'.taints := by
  rw [w.putNode_node]
  split_ifs with same
  · subst same
    obtain rfl := Option.some.inj (isOld.symm.trans isNode)
    exact ⟨stored, rfl, change⟩
  · exact ⟨node, isNode, .kept rfl⟩

/-- Every effect leaves the taints of a Node alone or removes the startup
taint from a node whose update is complete. -/
theorem Effect.taintChange
    (effect : Effect c budget action w w')
    (isNode : w.api.node name = some node) :
    ∃ node', w'.api.node name = some node' ∧
      TaintChange c w name node node'.taints := by
  cases effect with
  | labelNode _ isOld => exact TaintChange.putNode isOld (.kept rfl) isNode
  | unlabelNode _ isOld => exact TaintChange.putNode isOld (.kept rfl) isNode
  | cordonNode _ _ isOld => exact TaintChange.putNode isOld (.kept rfl) isNode
  | removeTaint completed owned =>
      exact TaintChange.putNode completed.present
        (.removed rfl completed owned) isNode
  | @restoreNode _ _ bn old owner _ isOld _ taint =>
      refine TaintChange.putNode isOld ?_ isNode
      by_cases owned : owner.has .ownsOsNotReadyTaint = true
      · obtain ⟨completed, records⟩ := taint owned
        refine .removed ?_ completed records
        simp [Node.store, restoredNode, owned]
      · refine .kept ?_
        simp [Node.store, restoredNode, owned]
  | _ => exact ⟨node, isNode, .kept rfl⟩

/-- A Node that does not match keeps its taints. -/
theorem TaintChange.of_not_isMember
    {taints : List Taint} (change : TaintChange c w name node taints)
    (leaves : c.isMember name = false) : taints = node.taints := by
  cases change with
  | kept same => exact same
  | removed _ completed _ =>
      exact absurd (completed.member.symm.trans leaves) (by simp)

/-- No effect makes or deletes a Node. -/
theorem Effect.node_eq_none
    (effect : Effect c budget action w w') (absent : w.api.node name = none) :
    w'.api.node name = none := by
  have elsewhere : ∀ {changed : String} {old : Node} (stored : Node),
      w.api.node changed = some old →
        (w.putNode changed stored).api.node name = none := by
    intro changed old stored isOld
    rw [w.putNode_node, if_neg]
    · exact absent
    · rintro rfl
      rw [absent] at isOld
      cases isOld
  cases effect with
  | labelNode _ isOld => exact elsewhere _ isOld
  | unlabelNode _ isOld => exact elsewhere _ isOld
  | cordonNode _ _ isOld => exact elsewhere _ isOld
  | removeTaint completed _ => exact elsewhere _ completed.present
  | restoreNode _ isOld _ _ => exact elsewhere _ isOld
  | _ => exact absent

theorem Effect.taints_of_not_isMember
    (effect : Effect c budget action w w')
    (leaves : c.isMember name = false) :
    (w'.api.node name).map Node.taints = (w.api.node name).map Node.taints := by
  cases isNode : w.api.node name with
  | none => rw [effect.node_eq_none isNode]
  | some node =>
      obtain ⟨node', isNode', change⟩ := effect.taintChange isNode
      rw [isNode', Option.map_some, Option.map_some,
        change.of_not_isMember leaves]

end Effects

/-- The taints of the Node besides the startup taint. -/
def otherTaints (node : Node) : List Taint :=
  node.taints.filter fun taint => !taint.isOsNotReady

theorem TaintChange.otherTaints
    {c : PassContext} {w : World} {name : String} {node node' : Node}
    (change : TaintChange c w name node node'.taints) :
    otherTaints node' = otherTaints node := by
  unfold BootcOperator.otherTaints
  cases change with
  | kept same => rw [same]
  | removed removed _ _ =>
      rw [removed, removeOsNotReadyTaint, List.filter_filter]
      simp only [Bool.and_self]

/-- What a single write of a pass may do to the taints of a Node. -/
structure TaintSafe (r : BootcNodePoolReconciler) (pool : BootcNodePool)
    (image : String) (before : World) (name : String) (node node' : Node) :
    Prop where
  /-- no other taint is added, removed or reordered -/
  others : otherTaints node' = otherTaints node
  /-- the startup taint is not added, and removed from verified nodes only -/
  startup : node'.taints = node.taints ∨
    node'.taints = removeOsNotReadyTaint node.taints ∧
      nodeReadyStatus node = .conditionTrue ∧
      ∃ bn, before.api.bootcNode name = some bn ∧
        bn.isControlledBy pool = true ∧ bn.spec.desiredImage = image ∧
        classifyNode r.references bn = .ok .upToDate ∧
        bn.annotations.has .ownsOsNotReadyTaint = true

/-- Whatever requests fail, every write of a `Reconcile` with fresh reads is safe
for the taints of all Nodes, and the Nodes that do not match the pool, or whose
pool is being deleted, keep all their taints throughout. -/
theorem startup_taint_safety
    (r : BootcNodePoolReconciler) (env : Env) (request : String) (w : World)
    {pool : BootcNodePool} (faithful : env.Faithful w)
    (stored : w.api.pool request = some pool) :
    let after := (r.reconcile env request (.start w)).2
    let image := r.desiredImageFromPool (r.settledPool env w pool)
    (∀ before entry, (before, entry) ∈ transitions w after.log →
      ∀ name node, before.api.node name = some node →
        ∃ node', entry.after.api.node name = some node' ∧
          TaintSafe r pool image before name node node') ∧
    ∀ name, r.matchesPool w pool name = false →
      ∀ moment ∈ after.moments,
        (moment.api.node name).map Node.taints =
          (w.api.node name).map Node.taints := by
  intro after image
  have isPool := contextOf_pool r request env stored
  have explained := r.explained_of_reconcile request faithful
  constructor
  · intro before entry member name node isNode
    obtain ⟨_, _, effect⟩ := explained.effect before entry member
    obtain ⟨node', isNode', change⟩ := effect.taintChange isNode
    refine ⟨node', isNode', change.otherTaints, ?_⟩
    cases change with
    | kept same => exact .inl same
    | @removed bn removed completed owned =>
        refine .inr ⟨removed, completed.isReady, bn, completed.stored, ?_, ?_,
          completed.upToDate, owned⟩
        · rw [BootcNode.isControlledBy,
            ← (r.settledPool_keeps env w pool).2.1, ← isPool]
          exact completed.controlled
        · rw [completed.targeted, PassContext.desiredImage, isPool]
          rfl
  · intro name leaves
    refine r.moments_invariant request _ (fun effect same => ?_) faithful rfl
    refine (effect.taints_of_not_isMember ?_).trans same
    rw [contextOf_isMember r request env stored]
    exact leaves

def startupTaint : Taint :=
  { key := taintKeyOsNotReady
    value := ""
    effect := .noSchedule }

/-- The host of `n1` has booted the target; its taint is still there. -/
def verifiedNode : Tables :=
  { nodes := [("n1", { plainNode with taints := [startupTaint] })]
    bootcNodes :=
      [("n1",
        { stagedNode "os@b" "os@b" with
          annotations := Annotations.empty.set .ownsOsNotReadyTaint "true" })]
    pools := [("workers", osPool "os@b")] }

def untainted : PassState :=
  (osReconciler.reconcile (.calm ["n1"] 0) "workers"
    (.start verifiedNode.world)).2

/-- The taint goes, and every write on the way is safe. -/
theorem startup_taint_safety_verified :
    (untainted.world.api.node "n1").map Node.taints = some [] ∧
      ∀ before entry, (before, entry) ∈ transitions verifiedNode.world
          untainted.log →
        ∀ name node, before.api.node name = some node →
          ∃ node', entry.after.api.node name = some node' ∧
            TaintSafe osReconciler (osPool "os@b") "os@b" before name node
              node' := by
  refine ⟨by decide +kernel, ?_⟩
  have isImage : osReconciler.desiredImageFromPool
      (osReconciler.settledPool (.calm ["n1"] 0) verifiedNode.world
        (osPool "os@b")) = "os@b" := by decide
  have safe := (startup_taint_safety osReconciler (.calm ["n1"] 0) "workers"
    verifiedNode.world
    (Env.faithful_calm verifiedNode.within_names (by decide)) rfl).1
  rw [isImage] at safe
  exact safe

end BootcOperator
