import BootcOperator.Effects.Locality
import BootcOperator.Effects.Rollout

/-!
# The results of slot work on one node

Rules for the functions of `Controller.Rollout` that work on one node, in the
manner of `Effects.Locality`.
-/

namespace BootcOperator

open Program BootcNodePoolReconciler

section Freeing

variable {env : Env} {exc : ApiError → PassState → Prop} {s₀ : PassState}
  {name : String} {bn : BootcNode} {node : Node}

/-- A slot that is still held, by a node whose Node is not ready. -/
def HeldUnready (bn : BootcNode) (node : Option Node) : Prop :=
  bn.inRebootSlot = true →
    ∃ present, node = some present ∧
      nodeReadyStatus present ≠ .conditionTrue

theorem HeldUnready.of_free
    {bn : BootcNode} (free : bn.inRebootSlot = false) (node : Option Node) :
    HeldUnready bn node := by
  intro slotted
  rw [free] at slotted
  cases slotted

/-- The BootcNode and the Node that a visit to a completed node leaves. -/
def Freed (s₀ : PassState) (name : String) (s : PassState) : Prop :=
  ∃ bn node, Local s₀ name ⟨some bn, node, some bn⟩ s ∧ HeldUnready bn node

theorem yields_freeRebootSlot
    (stopped : Yields env exc)
    (fresh : env.Fresh) :
    unobserved.Follows (Local s₀ name ⟨some bn, some node, some bn⟩)
      (freeRebootSlot env name bn node) (fun _ => Freed s₀ name) exc := by
  refine .bind (yields_restoreNodeState stopped fresh) fun node' =>
    .assume fun _ => .mapError ?_
  refine follows_patchBootcNode (fun s calls before => before.issued calls)
    (stopped.wrap _).stops (fun s before => before.bootcNode_eq)
    (BootcNode.merge_annotations bn rfl) (fun _ _ => trivial)
    fun s before => ⟨_, some node', before.patched _ _, .of_free ?_ _⟩
  exact freedAnnotations_inRebootSlot bn.annotations

theorem yields_untaintNode
    (stopped : Yields env exc) :
    unobserved.Follows (Local s₀ name ⟨some bn, some node, some bn⟩)
      (untaintNode env name node)
      (fun _ s => ∃ node', Local s₀ name ⟨some bn, some node', some bn⟩ s)
      exc := by
  refine .ite (fun _ => ?_) fun _ => .ret fun s before => ⟨node, before⟩
  refine .bindVia (fun _ s => ∃ node',
    Local s₀ name ⟨some bn, some node', some bn⟩ s) (.mapError ?_)
    fun _ => .ret fun _ after => after
  exact follows_patchNode (fun s calls before => before.issued calls)
    (stopped.wrap _).stops (fun s before => before.node_eq)
    (fun _ _ => trivial) fun s before => ⟨_, before.putNode _ _⟩

theorem yields_removeOsNotReady
    (stopped : Yields env exc) (unslotted : bn.inRebootSlot = false) :
    unobserved.Follows (Local s₀ name ⟨some bn, some node, some bn⟩)
      (node |> removeOsNotReadyTaintAndAnnotation env name bn)
      (fun _ => Freed s₀ name) exc := by
  refine .bind (yields_untaintNode stopped) fun _ => .given fun node' => ?_
  refine .ite (fun _ => .mapError ?_) fun _ => .ret fun s before =>
    ⟨bn, some node', before, .of_free unslotted _⟩
  refine follows_patchBootcNode (fun s calls before => before.issued calls)
    (stopped.wrap _).stops (fun s before => before.bootcNode_eq)
    (BootcNode.merge_annotations bn rfl) (fun _ _ => trivial)
    fun s before => ⟨_, some node', before.patched _ _, .of_free ?_ _⟩
  rw [← unslotted]
  simp [BootcNode.inRebootSlot, Annotations.has]

/-- A visit to a completed node frees its slot, unless its Node is not
ready. -/
theorem yields_freeCompletedSlot
    {node : Option Node} (stopped : Yields env exc)
    (absent : node = none → Tolerant exc)
    (fresh : env.Fresh) :
    unobserved.Follows (Local s₀ name ⟨some bn, node, some bn⟩)
      (freeCompletedSlot env name) (fun _ => Freed s₀ name) exc := by
  refine .bindReadOf (· = some bn) (fun s before => before.owned_eq)
    fun found isFound => ?_
  subst isFound
  refine .weaken ?_ fun s before => before.1
  refine .ite (fun _ => ?_) fun unmarked => .ret fun s before =>
    ⟨bn, node, before, fun slotted => absurd (.inl slotted) unmarked⟩
  refine .bindVia (fun read s =>
    Local s₀ name ⟨some bn, node, some bn⟩ s ∧ node = some read)
    (.mapError (.conseq (follows_get fresh (stopped.wrap _).stops ?_)
      (fun _ before => before) ?_ fun _ _ after => after)) fun read =>
    .assume fun isRead => ?_
  · intro e s routine before isNone
    rw [before.node_eq] at isNone
    exact (absent isNone).wrap _ e s routine
  · intro read s after
    exact ⟨after.1, after.1.node_eq.symm.trans after.2⟩
  subst isRead
  refine .ite (fun notReady => .ret fun s before =>
    ⟨bn, some read, before, fun _ => ⟨read, rfl, notReady⟩⟩) fun _ => ?_
  refine .ite (fun _ => ?_) fun unslotted => .mapError
    (yields_removeOsNotReady (stopped.wrap _) (by simpa using unslotted))
  exact .bind (.mapError (yields_freeRebootSlot (stopped.wrap _) fresh))
    fun _ => .update (fun _ _ => rfl) fun s ⟨bn', node', isLocal, freed⟩ =>
      ⟨bn', node', ⟨isLocal.pool, isLocal.here, isLocal.elsewhere⟩, freed⟩

end Freeing

end BootcOperator
