import BootcOperator.Properties.SlotBudget

/-!
# Joining and leaving a pool

Creation, labelling, restoring, unlabelling, deletion and the removal of the
finalizer are separate writes.  Whichever of them fail, and wherever a
`Reconcile` is interrupted: a Node with the managed label has a BootcNode, a
BootcNode is not deleted while the operator's cordon is on its Node, and a pool
keeps its finalizer as long as it controls a BootcNode.
-/

namespace BootcOperator

open BootcNodePoolReconciler

/-- Every Node with the managed label has a BootcNode, unless the Node is
terminating. -/
def LabelsBacked (w : World) : Prop :=
  ∀ name node, w.api.node name = some node →
    node.deletionTimestamp = none → node.labels.managed.isSome = true →
      w.api.bootcNode name ≠ none

namespace LabelsBacked

variable {w : World} {name : String}

theorem putNode
    (backed : LabelsBacked w) {stored : Node}
    (new : stored.deletionTimestamp = none →
      stored.labels.managed.isSome = true → w.api.bootcNode name ≠ none) :
    LabelsBacked (w.putNode name stored) := by
  intro other node isNode alive labelled
  rw [w.putNode_node] at isNode
  split_ifs at isNode with same
  · subst same
    cases isNode
    exact new alive labelled
  · exact backed other node isNode alive labelled

theorem putUnchanged
    (backed : LabelsBacked w) {node stored : Node}
    (isNode : w.api.node name = some node)
    (terminating : stored.deletionTimestamp = node.deletionTimestamp)
    (labels : stored.labels = node.labels) :
    LabelsBacked (w.putNode name stored) := by
  refine backed.putNode fun alive labelled => ?_
  rw [terminating] at alive
  rw [labels] at labelled
  exact backed name node isNode alive labelled

theorem putBootcNode
    (backed : LabelsBacked w) (bn : BootcNode) :
    LabelsBacked (w.putBootcNode name (some bn)) := by
  intro other node isNode alive labelled
  rw [w.putBootcNode_bootcNode]
  split_ifs
  · simp
  · exact backed other node isNode alive labelled

end LabelsBacked

section Effects

variable {c : PassContext} {budget : Option Int} {action : Action}
  {w w' : World}

theorem Effect.labelsBacked
    (effect : Effect c budget action w w') (backed : LabelsBacked w) :
    LabelsBacked w' := by
  cases effect with
  | labelNode isBn _ =>
      exact backed.putNode fun _ _ => by simp [isBn]
  | unlabelNode _ _ =>
      refine backed.putNode fun _ labelled => ?_
      cases labelled
  | restoreNode _ isNode _ _ => exact backed.putUnchanged isNode rfl rfl
  | removeTaint completed _ =>
      exact backed.putUnchanged completed.present rfl rfl
  | cordonNode _ _ isNode => exact backed.putUnchanged isNode rfl rfl
  | createBootcNode _ _ _ => exact backed.putBootcNode _
  | syncSpec _ _ => exact backed.putBootcNode _
  | markObserved _ => exact backed.putBootcNode _
  | freeSlot _ _ _ => exact backed.putBootcNode _
  | clearTaint _ => exact backed.putBootcNode _
  | assignSlot _ _ _ _ => exact backed.putBootcNode _
  | @approve _ name _ _ _ _ _ =>
      have undrained : LabelsBacked (w.putDrain name none) := backed
      exact undrained.putBootcNode _
  | deleteBootcNode _ _ _ released =>
      intro other node isNode alive labelled
      rw [w.putBootcNode_bootcNode]
      split_ifs with same
      · subst same
        rcases released node isNode with terminating | ⟨_, unlabelled⟩
        · exact absurd alive terminating
        · rw [unlabelled] at labelled
          cases labelled
      · exact backed other node isNode alive labelled
  | _ => exact backed

/-- A BootcNode is deleted only when the operator's cordon is lifted. -/
theorem Effect.deletes_uncordoned
    (effect : Effect c budget action w w') (cordons : CordonsRecorded w)
    {name : String} {node : Node} (present : w.api.bootcNode name ≠ none)
    (deleted : w'.api.bootcNode name = none)
    (isNode : w.api.node name = some node)
    (alive : node.deletionTimestamp = none) : w.cordoned name = false := by
  have replaced : ∀ (changed : String) (bn : BootcNode),
      (w.putBootcNode changed (some bn)).api.bootcNode name ≠ none := by
    intro changed bn
    rw [w.putBootcNode_bootcNode]
    split_ifs
    · simp
    · exact present
  cases effect with
  | deleteBootcNode owns _ _ released =>
      rw [w.putBootcNode_bootcNode] at deleted
      split_ifs at deleted with same
      · subst same
        rcases released node isNode with terminating | ⟨lifted, _⟩
        · exact absurd alive terminating
        · exact cordons.uncordoned owns.stored lifted isNode alive
      · exact absurd deleted present
  | createBootcNode _ _ _ => exact absurd deleted (replaced _ _)
  | syncSpec _ _ => exact absurd deleted (replaced _ _)
  | markObserved _ => exact absurd deleted (replaced _ _)
  | freeSlot _ _ _ => exact absurd deleted (replaced _ _)
  | clearTaint _ => exact absurd deleted (replaced _ _)
  | assignSlot _ _ _ _ => exact absurd deleted (replaced _ _)
  | approve _ _ _ => exact absurd deleted (replaced _ _)
  | _ => exact absurd deleted present

/-- The pool is still the object that the pass read. -/
def KeepsUid (c : PassContext) (w : World) : Prop :=
  ∀ pool, w.api.pool c.request = some pool → pool.uid = c.pool.uid

theorem Effect.keepsUid
    (effect : Effect c budget action w w') (keeps : KeepsUid c w) :
    KeepsUid c w' := by
  intro pool' stored'
  cases effect with
  | updatePool stored _ uid _ _ _ =>
      rw [w.putPool_pool, if_pos rfl] at stored'
      cases stored'
      exact uid.trans (keeps _ stored)
  | releasePool _ _ =>
      rw [w.putPool_pool, if_pos rfl] at stored'
      cases stored'
  | updatePoolStatus stored _ =>
      rw [w.putPool_pool, if_pos rfl] at stored'
      cases stored'
      have uid := keeps _ stored
      exact uid
  | _ => exact keeps pool' stored'

/-- The finalizer of a pool is removed only when the pool controls no
BootcNode. -/
theorem Effect.finalizer_removed
    (effect : Effect c budget action w w') (keeps : KeepsUid c w)
    {request : String} {pool : BootcNodePool}
    (stored : w.api.pool request = some pool)
    (present : finalizerPoolCleanup ∈ pool.finalizers)
    (removed : ∀ pool', w'.api.pool request = some pool' →
      finalizerPoolCleanup ∉ pool'.finalizers)
    {name : String} {bn : BootcNode}
    (isBn : w.api.bootcNode name = some bn) :
    bn.isControlledBy pool = false := by
  have unowned : request = c.request → (∀ name bn, ¬ Owns c w name bn) →
      bn.isControlledBy pool = false := by
    rintro rfl free
    by_contra controlled
    refine free name bn ⟨isBn, ?_⟩
    have sameOwner : bn.isControlledBy c.pool = bn.isControlledBy pool := by
      rw [BootcNode.isControlledBy, BootcNode.isControlledBy,
        keeps pool stored]
    simpa [sameOwner] using controlled
  cases effect with
  | @updatePool _ _ new isOld _ _ _ _ free =>
      by_cases same : request = c.request
      · refine unowned same (free (removed new ?_))
        rw [w.putPool_pool, if_pos same]
      · refine absurd present (removed pool ?_)
        rw [w.putPool_pool, if_neg same, stored]
  | releasePool _ free =>
      by_cases same : request = c.request
      · exact unowned same free
      · refine absurd present (removed pool ?_)
        rw [w.putPool_pool, if_neg same, stored]
  | @updatePoolStatus _ old status isOld _ =>
      by_cases same : request = c.request
      · subst same
        obtain rfl := Option.some.inj (isOld.symm.trans stored)
        refine absurd present (removed { old with status := status } ?_)
        rw [w.putPool_pool, if_pos rfl]
      · refine absurd present (removed pool ?_)
        rw [w.putPool_pool, if_neg same, stored]
  | _ => exact absurd present (removed pool stored)

end Effects

/-! ## Runs -/

/-- Other actors that also leave the managed label alone. -/
structure LabelBystanders (w w' : World) : Prop extends Bystanders w w' where
  managed : ∀ name node', w'.api.node name = some node' →
    node'.labels.managed.isSome = true →
      ∃ node, w.api.node name = some node ∧
        node.labels.managed.isSome = true

theorem LabelBystanders.labelsBacked
    {w w' : World} (others : LabelBystanders w w')
    (backed : LabelsBacked w) : LabelsBacked w' := by
  intro name node' isNode' alive labelled
  obtain ⟨node, isNode, wasLabelled⟩ :=
    others.managed name node' isNode' labelled
  have present := backed name node isNode
    (others.terminating name node node' isNode isNode' alive) wasLabelled
  obtain ⟨bn, isBn⟩ := Option.ne_none_iff_exists'.mp present
  obtain ⟨bn', isBn', _⟩ := others.marks name bn isBn
  simp [isBn']

/-- What holds of a single write of a `Reconcile`. -/
structure LeavesOrderly (before after : World) : Prop where
  /-- a BootcNode is deleted after the operator's cordon has been lifted -/
  uncordoned : ∀ name node, before.api.bootcNode name ≠ none →
    after.api.bootcNode name = none → before.api.node name = some node →
      node.deletionTimestamp = none → before.cordoned name = false
  /-- the finalizer of a pool goes after its last BootcNode -/
  finalizer : ∀ request pool, before.api.pool request = some pool →
    finalizerPoolCleanup ∈ pool.finalizers →
      (∀ pool', after.api.pool request = some pool' →
        finalizerPoolCleanup ∉ pool'.finalizers) →
        ∀ name bn, before.api.bootcNode name = some bn →
          bn.isControlledBy pool = false

/-- In every run that starts without slots and with every managed label
backed, labels are backed after every single write of every `Reconcile`, and
each of these writes is orderly. -/
theorem managed_nodes_backed
    (r : BootcNodePoolReconciler) {w₀ w : World} (start : LabelsBacked w₀)
    (unslotted : Unslotted w₀) {actions : List ClusterAction}
    {past : List World}
    (run : (clusterMachine r).Path (FreshlyRead LabelBystanders) (.start w₀)
      actions ⟨past, w⟩)
    {env : Env} (request : String) (faithful : env.Faithful w) :
    let after := (r.reconcile env request (.start w)).2
    LabelsBacked w ∧ (∀ moment ∈ after.moments, LabelsBacked moment) ∧
      ∀ before entry, (before, entry) ∈ transitions w after.log →
        LeavesOrderly before entry.after := by
  intro after
  have backed : LabelsBacked w := invariant_of_clusterPath LabelsBacked
    Effect.labelsBacked LabelBystanders.labelsBacked run start
  have recorded : CordonsRecorded w :=
    invariant_of_clusterPath CordonsRecorded Effect.cordonsRecorded
      (fun others => others.cordonsRecorded) run unslotted.cordonsRecorded
  refine ⟨backed, r.moments_invariant request LabelsBacked
    (fun effect => effect.labelsBacked) faithful backed, ?_⟩
  cases stored : w.api.pool request with
  | none =>
      have unchanged : after = .start w :=
        r.reconcile_of_missing request faithful stored
      intro before entry member
      simp [unchanged, PassState.start, transitions] at member
  | some pool =>
      have explained := r.explained_of_reconcile request faithful
      have sameUid : KeepsUid (r.contextOf env request w) w := by
        intro pool' stored'
        obtain rfl := Option.some.inj (stored.symm.trans stored')
        rw [contextOf_pool r request env stored]
        exact (r.settledPool_keeps env w pool).2.1.symm
      obtain ⟨around, _⟩ := explained.invariant
        (fun w' => CordonsRecorded w' ∧ KeepsUid (r.contextOf env request w) w')
        (fun effect holds =>
          ⟨effect.cordonsRecorded holds.1, effect.keepsUid holds.2⟩)
        ⟨recorded, sameUid⟩
      intro before entry member
      obtain ⟨_, _, effect⟩ := explained.effect before entry member
      obtain ⟨cordons, uid⟩ := (around before entry member).1
      exact ⟨fun name node present deleted isNode alive =>
          effect.deletes_uncordoned cordons present deleted isNode alive,
        fun request pool isPool present removed name bn isBn =>
          effect.finalizer_removed uid isPool present removed isBn⟩

def newcomer : Tables :=
  { nodes := [("n1", { plainNode with labels := ⟨none, []⟩ })]
    pools := [("workers", osPool "os@b")] }

theorem newcomer_labelsBacked : LabelsBacked newcomer.world := by
  intro name node isNode _ labelled
  have listed : name ∈ newcomer.names :=
    newcomer.within_names.node name (by simp [isNode])
  have isName : name = "n1" := by
    simpa [show newcomer.names = ["n1"] by decide] using listed
  subst isName
  cases isNode
  cases labelled

theorem newcomer_unslotted : Unslotted newcomer.world := by
  refine ⟨fun name bn isBn => ?_, fun _ => rfl⟩
  cases isBn

/-- The Node gets its BootcNode and its label, in an order that keeps the
label backed. -/
theorem managed_nodes_backed_newcomer :
    let after := (osReconciler.reconcile (.calm ["n1"] 0) "workers"
      (.start newcomer.world)).2
    (after.world.api.node "n1").map (fun node => node.labels.managed.isSome) =
        some true ∧
      ∀ moment ∈ after.moments, LabelsBacked moment := by
  refine ⟨by decide +kernel, ?_⟩
  exact (managed_nodes_backed osReconciler newcomer_labelsBacked
    newcomer_unslotted (.nil _) "workers"
    (Env.faithful_calm newcomer.within_names (by decide))).2.1

end BootcOperator
