import BootcOperator.Effects.Rollout

/-!
# What an effect does to a BootcNode

The case analysis of the effects for one BootcNode, next to the one for its
drain.
-/

namespace BootcOperator

open BootcNodePoolReconciler

/-- What one action makes of the BootcNode of a node. -/
inductive BootcNodeChange (c : PassContext) (name : String) (w : World) :
    Action → Option BootcNode → Prop
  | kept {action : Action} :
      BootcNodeChange c name w action (w.api.bootcNode name)
  | created {node : Node} :
      c.HasTarget → w.api.bootcNode name = none →
      BootcNodeChange c name w (.wrote (.createBootcNode name))
        (some (c.reconciler.newBootcNode c.pool node))
  | synced {bn : BootcNode} :
      c.HasTarget → Owns c w name bn →
      BootcNodeChange c name w (.wrote (.syncSpec name))
        (some (bn.setSpec (c.reconciler.syncedSpec c.pool bn.spec)))
  | approved {bn : BootcNode} {status : DrainStatus} :
      OwnsTargeted c w name bn → w.drains name = some status →
      status.outcome = .succeeded →
      BootcNodeChange c name w (.wrote (.approve name))
        (some (bn.setSpec { bn.spec with desiredImageState := .booted }))
  | annotated {action : Action} {bn : BootcNode}
      {annotations : Annotations BootcNodeKey} :
      Owns c w name bn →
      annotations.has .inRebootSlot = bn.inRebootSlot →
      BootcNodeChange c name w action
        (some { bn with annotations := annotations })
  | freed {bn : BootcNode} {annotations : Annotations BootcNodeKey} :
      OwnsTargeted c w name bn →
      classifyNode c.reconciler.references bn = .ok .upToDate →
      BootcNodeChange c name w (.wrote (.freeSlot name))
        (some { bn with annotations := annotations })
  | assigned {bn : BootcNode} {annotations : Annotations BootcNodeKey} :
      OwnsTargeted c w name bn →
      classifyNode c.reconciler.references bn = .ok .staged →
      annotations.has .inRebootSlot = true →
      BootcNodeChange c name w (.wrote (.assignSlot name))
        (some { bn with annotations := annotations })
  | deleted {bn : BootcNode} :
      Owns c w name bn → w.drains name = none →
      BootcNodeChange c name w (.wrote (.deleteBootcNode name)) none

section Effects

variable {c : PassContext} {budget : Option Int} {action : Action}
  {w w' : World}

theorem BootcNodeChange.putBootcNode
    {changed : String} {bn : Option BootcNode}
    (change : BootcNodeChange c changed w action bn) (name : String) :
    BootcNodeChange c name w action
      ((w.putBootcNode changed bn).api.bootcNode name) := by
  rw [w.putBootcNode_bootcNode]
  split_ifs with same
  · exact same ▸ change
  · exact .kept

theorem Effect.bootcNodeChange
    (effect : Effect c budget action w w') (name : String) :
    BootcNodeChange c name w action (w'.api.bootcNode name) := by
  cases effect with
  | createBootcNode hasTarget absent _ =>
      exact BootcNodeChange.putBootcNode (.created hasTarget absent) name
  | syncSpec hasTarget owns =>
      exact BootcNodeChange.putBootcNode (.synced hasTarget owns) name
  | deleteBootcNode owns _ undrained _ =>
      exact BootcNodeChange.putBootcNode (.deleted owns undrained) name
  | markObserved owns =>
      refine BootcNodeChange.putBootcNode (.annotated owns ?_) name
      simp [BootcNode.inRebootSlot, Annotations.has]
  | clearTaint owns =>
      refine BootcNodeChange.putBootcNode (.annotated owns ?_) name
      simp [BootcNode.inRebootSlot, Annotations.has]
  | approve owns entry succeeded =>
      exact BootcNodeChange.putBootcNode (.approved owns entry succeeded) name
  | freeSlot completed _ _ =>
      exact BootcNodeChange.putBootcNode
        (.freed completed.toOwnsTargeted completed.upToDate) name
  | assignSlot owns _ staged _ =>
      refine BootcNodeChange.putBootcNode (.assigned owns staged ?_) name
      exact slotPlan_inRebootSlot ..
  | _ => exact .kept

/-- A BootcNode behind an effect: a version with the status and the image it
had, a new one, or one that is synced to the image of the pass. -/
theorem Effect.bootcNode_cases
    {name : String} {bn' : BootcNode} (effect : Effect c budget action w w')
    (stored : w'.api.bootcNode name = some bn') :
    (∃ bn, w.api.bootcNode name = some bn ∧
      bn'.isControlledBy c.pool = bn.isControlledBy c.pool ∧
      bn'.status = bn.status ∧
      bn'.spec.desiredImage = bn.spec.desiredImage) ∨
    (c.HasTarget ∧ w.api.bootcNode name = none ∧
      ∃ node, bn' = c.reconciler.newBootcNode c.pool node) ∨
    (c.HasTarget ∧ ∃ bn, Owns c w name bn ∧
      bn' = bn.setSpec (c.reconciler.syncedSpec c.pool bn.spec)) := by
  have change := effect.bootcNodeChange name
  rw [stored] at change
  generalize isAfter : some bn' = after at change
  cases change with
  | kept => exact .inl ⟨bn', isAfter.symm, rfl, rfl, rfl⟩
  | created hasTarget absent =>
      exact .inr (.inl ⟨hasTarget, absent, _, Option.some.inj isAfter⟩)
  | synced hasTarget owns =>
      exact .inr (.inr ⟨hasTarget, _, owns, Option.some.inj isAfter⟩)
  | deleted _ _ => cases isAfter
  | approved owns _ _ | annotated owns _ | freed owns _
  | assigned owns _ _ =>
      cases isAfter
      exact .inl ⟨_, owns.stored, rfl, rfl, rfl⟩

/-- An approval is the approval of a targeted BootcNode. -/
theorem Effect.approve_spec
    {name : String} (effect : Effect c budget (.wrote (.approve name)) w w') :
    ∃ bn status, OwnsTargeted c w name bn ∧ w.drains name = some status ∧
      status.outcome = .succeeded ∧
      w'.api.bootcNode name =
        some (bn.setSpec { bn.spec with desiredImageState := .booted }) := by
  cases effect with
  | approve owns entry succeeded =>
      refine ⟨_, _, owns, entry, succeeded, ?_⟩
      rw [World.putBootcNode_bootcNode, if_pos rfl]
  | patchNodeClaim call _ =>
      rcases call with isPatch | isPatch <;> cases isPatch

theorem Effect.owned
    (effect : Effect c budget action w w') {name : String}
    (owned : ∃ bn, Owns c w name bn) (draining : w.drains name ≠ none) :
    ∃ bn, Owns c w' name bn := by
  obtain ⟨bn, stored, controlled⟩ := owned
  have change := effect.bootcNodeChange name
  generalize isAfter : w'.api.bootcNode name = after at change
  have same : ∀ {bn'}, Owns c w name bn' → bn' = bn := by
    intro bn' owns
    exact Option.some.inj (owns.stored.symm.trans stored)
  cases change with
  | kept => exact ⟨bn, isAfter.trans stored, controlled⟩
  | created _ absent => rw [stored] at absent; cases absent
  | synced _ owns => exact ⟨_, isAfter, owns.controlled⟩
  | approved owns _ _ => exact ⟨_, isAfter, owns.controlled⟩
  | annotated owns _ => exact ⟨_, isAfter, owns.controlled⟩
  | freed owns _ => exact ⟨_, isAfter, owns.controlled⟩
  | assigned owns _ _ => exact ⟨_, isAfter, owns.controlled⟩
  | deleted _ undrained => exact (draining undrained).elim

end Effects

end BootcOperator
