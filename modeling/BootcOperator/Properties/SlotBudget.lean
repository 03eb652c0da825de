import BootcOperator.Effects.Tables
import BootcOperator.Effects.Transitions
import Mathlib.Data.ENat.Lattice

/-!
# The slot budget

A `Reconcile` never lets more nodes of its pool hold a reboot slot than held
one before or than `maxUnavailable` allows, after any of its writes and
whichever of them fail.  Over runs of reconciles of any pools, interleaved with
the other actors of a cluster, a Node that the operator has cordoned has a
BootcNode with a slot.
-/

namespace BootcOperator

open BootcNodePoolReconciler

variable {w w' : World} {c : PassContext} {node : Node} {bn : BootcNode}

/-! ## Counting slots -/

/-- An effect takes a slot only within the budget, and at most one. -/
theorem Effect.slottedNodes
    {budget : Option Int} {action : Action}
    (effect : Effect c budget action w w') :
    slottedNodes c.pool w'.api ⊆ slottedNodes c.pool w.api ∨
      ∃ maxUnavail name, budget = some maxUnavail ∧
        (slottedNodes c.pool w.api).encard < (maxUnavail.toNat : ℕ∞) ∧
        slottedNodes c.pool w'.api ⊆
          insert name (slottedNodes c.pool w.api) := by
  cases effect with
  | assignSlot owns _ _ mayTake =>
      rcases mayTake with slotted | ⟨maxUnavail, isBudget, room⟩
      · refine .inl (Eq.subset ?_)
        exact slottedNodes_putBootcNode_of_same c.pool owns.stored rfl
          ((slotPlan_inRebootSlot _ _ _).trans slotted.symm)
      · exact .inr ⟨maxUnavail, _, isBudget, room,
          slottedNodes_putBootcNode_subset_insert c.pool w _ _⟩
  | createBootcNode _ _ _ =>
      refine .inl ?_
      rw [slottedNodes_putBootcNode_of_free c.pool w _
        (newBootcNode_inRebootSlot _ _ _)]
      exact Set.sdiff_subset
  | syncSpec _ owns =>
      refine .inl (Eq.subset ?_)
      exact slottedNodes_putBootcNode_of_same c.pool owns.stored rfl rfl
  | deleteBootcNode _ _ _ _ =>
      refine .inl ?_
      rw [slottedNodes_putBootcNode_none c.pool w _]
      exact Set.sdiff_subset
  | markObserved owns =>
      refine .inl (Eq.subset ?_)
      refine slottedNodes_putBootcNode_of_same c.pool owns.stored rfl ?_
      simp [BootcNode.inRebootSlot, Annotations.has]
  | approve owns _ _ =>
      refine .inl (Eq.subset ?_)
      exact slottedNodes_putBootcNode_of_same c.pool
        (w := w.putDrain _ none) owns.stored rfl rfl
  | freeSlot _ _ _ =>
      refine .inl ?_
      rw [slottedNodes_putBootcNode_of_free c.pool w]
      · exact Set.sdiff_subset
      · exact freedAnnotations_inRebootSlot _
  | clearTaint owns =>
      refine .inl (Eq.subset ?_)
      refine slottedNodes_putBootcNode_of_same c.pool owns.stored rfl ?_
      simp [BootcNode.inRebootSlot, Annotations.has]
  | _ => exact .inl subset_rfl

theorem resolveMaxUnavailable_of_paused
    {r : BootcNodePoolReconciler} {pool : BootcNodePool} {nodeCount : Nat}
    {maxUnavail : Int}
    (resolved : r.resolveMaxUnavailable pool nodeCount = .ok maxUnavail)
    (paused : isPaused pool = true) : maxUnavail = 0 := by
  rw [resolveMaxUnavailable, if_pos paused] at resolved
  exact (Except.ok.inj resolved).symm

/-- The bound on the slots of a pass that has started with `k` of them. -/
noncomputable def Seen.bound (k : ℕ∞) (seen : Seen) : ℕ∞ :=
  max k ((seen.maxUnavail.getD 0).toNat : ℕ∞)

/-- The count is within the bound, now and after every action so far. -/
structure WithinBudget (c : PassContext) (k : ℕ∞) (seen : Seen) : Prop where
  now : (slottedNodes c.pool seen.world.api).encard ≤ seen.bound k
  logged : ∀ entry ∈ seen.log,
    (slottedNodes c.pool entry.after.api).encard ≤ seen.bound k
  halted : seen.rolloutHalted = true → seen.maxUnavail = none
  resolved : ∀ maxUnavail, seen.maxUnavail = some maxUnavail →
    ∃ nodeCount,
      c.reconciler.resolveMaxUnavailable c.pool nodeCount = .ok maxUnavail

theorem WithinBudget.step
    {k : ℕ∞} {seen seen' : Seen} (within : WithinBudget c k seen)
    (step : Step c true seen seen') :
    WithinBudget c k seen' := by
  cases step with
  | halt unresolved _ =>
      exact ⟨within.now, within.logged, fun _ => unresolved, within.resolved⟩
  | @resolveMaxUnavailable maxUnavail unresolved unhalted _ result =>
      have grows : seen.bound k ≤
          Seen.bound k { seen with maxUnavail := some maxUnavail } := by
        simp [Seen.bound, unresolved]
      refine ⟨within.now.trans grows, fun entry member =>
        (within.logged entry member).trans grows, ?_, ?_⟩
      · intro halted
        simp [unhalted] at halted
      · intro resolved isResolved
        exact Option.some.inj isResolved ▸ result
  | @act action world _ effect =>
      have after : (slottedNodes c.pool world.api).encard ≤ seen.bound k := by
        rcases effect.slottedNodes with
          fewer | ⟨maxUnavail, name, isBudget, room, one⟩
        · exact (Set.encard_le_encard fewer).trans within.now
        · calc
            _ ≤ (insert name (slottedNodes c.pool seen.world.api)).encard :=
              Set.encard_le_encard one
            _ ≤ (slottedNodes c.pool seen.world.api).encard + 1 :=
              Set.encard_insert_le _ _
            _ ≤ (maxUnavail.toNat : ℕ∞) := Order.add_one_le_of_lt room
            _ ≤ seen.bound k := by simp [Seen.bound, isBudget]
      refine ⟨after, fun entry member => ?_, within.halted, within.resolved⟩
      rcases List.mem_append.mp member with earlier | last
      · exact within.logged entry earlier
      · rw [List.mem_singleton.mp last]
        exact after

theorem WithinBudget.steps
    {k : ℕ∞} {seen seen' : Seen} (within : WithinBudget c k seen)
    (steps : Relation.ReflTransGen (Step c true) seen seen') :
    WithinBudget c k seen' := by
  induction steps with
  | refl => exact within
  | tail _ step ih => exact ih.step step

/-! ## Cordons -/

/-- The operator has cordoned only nodes whose BootcNode holds a slot and
records that the cordon is to be lifted. -/
structure CordonsRecorded (w : World) : Prop where
  slotted : ∀ name node, w.cordoned name = true →
    w.api.node name = some node → node.deletionTimestamp = none →
      ∃ bn, w.api.bootcNode name = some bn ∧ bn.inRebootSlot = true ∧
        bn.annotations.known .wasCordoned = some "false"
  unschedulable : ∀ name node, w.cordoned name = true →
    w.api.node name = some node → node.unschedulable = true
  recorded : ∀ name node bn, w.api.bootcNode name = some bn →
    bn.inRebootSlot = true → w.api.node name = some node →
      node.deletionTimestamp = none → node.unschedulable = false →
        bn.annotations.known .wasCordoned = some "false"

namespace CordonsRecorded

variable {name : String}

theorem putNode
    (cordons : CordonsRecorded w) {stored : Node}
    (isNode : w.api.node name = some node)
    (terminating : stored.deletionTimestamp = node.deletionTimestamp)
    (cordoned : node.unschedulable = false → stored.unschedulable = true →
      ∃ bn, w.api.bootcNode name = some bn ∧ bn.inRebootSlot = true)
    (lifted : node.unschedulable = true → stored.unschedulable = false →
      ∀ bn, w.api.bootcNode name = some bn →
        bn.annotations.known .wasCordoned = some "false") :
    CordonsRecorded (w.putNode name stored) := by
  refine ⟨?_, ?_, ?_⟩
  · intro other current isCordoned isCurrent alive
    rw [w.putNode_cordoned name other isNode] at isCordoned
    rw [w.putNode_node name other] at isCurrent
    split_ifs at isCordoned isCurrent with same
    · subst same
      cases isCurrent
      rw [terminating] at alive
      simp only [Bool.and_eq_true, Bool.or_eq_true,
        Bool.not_eq_eq_eq_not, Bool.not_true] at isCordoned
      rcases isCordoned with ⟨after, before | schedulable⟩
      · exact cordons.slotted other node before isNode alive
      · obtain ⟨bn, isBootcNode, slot⟩ := cordoned schedulable after
        exact ⟨bn, isBootcNode, slot, cordons.recorded other node bn
          isBootcNode slot isNode alive schedulable⟩
    · exact cordons.slotted other current isCordoned isCurrent alive
  · intro other current isCordoned isCurrent
    rw [w.putNode_cordoned name other isNode] at isCordoned
    rw [w.putNode_node name other] at isCurrent
    split_ifs at isCordoned isCurrent with same
    · cases isCurrent
      exact (Bool.and_eq_true _ _ ▸ isCordoned).1
    · exact cordons.unschedulable other current isCordoned isCurrent
  · intro other current bn isBootcNode slot isCurrent alive schedulable
    rw [w.putNode_node name other] at isCurrent
    split_ifs at isCurrent with same
    · subst same
      cases isCurrent
      rw [terminating] at alive
      cases before : node.unschedulable with
      | false =>
          exact cordons.recorded other node bn isBootcNode slot isNode alive
            before
      | true => exact lifted before schedulable bn isBootcNode
    · exact cordons.recorded other current bn isBootcNode slot isCurrent
        alive schedulable

theorem putBootcNode
    (cordons : CordonsRecorded w) {stored : BootcNode}
    (isBootcNode : w.api.bootcNode name = some bn)
    (slot : stored.inRebootSlot = bn.inRebootSlot)
    (record : stored.annotations.known .wasCordoned =
      bn.annotations.known .wasCordoned) :
    CordonsRecorded (w.putBootcNode name (some stored)) := by
  refine ⟨?_, cordons.unschedulable, ?_⟩
  · intro other node isCordoned isNode alive
    obtain ⟨old, isOld, slotted, lifts⟩ :=
      cordons.slotted other node isCordoned isNode alive
    by_cases same : other = name
    · subst same
      have isBn := Option.some.inj (isOld.symm.trans isBootcNode)
      subst isBn
      exact ⟨stored, by rw [w.putBootcNode_bootcNode, if_pos rfl],
        slot.trans slotted, record.trans lifts⟩
    · exact ⟨old, by rw [w.putBootcNode_bootcNode, if_neg same, isOld],
        slotted, lifts⟩
  · intro other node current isCurrent slotted isNode alive schedulable
    rw [w.putBootcNode_bootcNode] at isCurrent
    split_ifs at isCurrent with same
    · subst same
      cases isCurrent
      exact record.trans (cordons.recorded other node bn isBootcNode
        (slot.symm.trans slotted) isNode alive schedulable)
    · exact cordons.recorded other node current isCurrent slotted isNode
        alive schedulable

/-- A BootcNode without a slot where the operator has no cordon. -/
theorem putFree
    (cordons : CordonsRecorded w) {stored : Option BootcNode}
    (free : ∀ bn, stored = some bn → bn.inRebootSlot = false)
    (uncordoned : ∀ node, w.api.node name = some node →
      node.deletionTimestamp = none → w.cordoned name = false) :
    CordonsRecorded (w.putBootcNode name stored) := by
  refine ⟨?_, cordons.unschedulable, ?_⟩
  · intro other node isCordoned isNode alive
    have different : other ≠ name := by
      rintro rfl
      have isFree := uncordoned node isNode alive
      exact absurd (isFree.symm.trans isCordoned) (by simp)
    obtain ⟨old, isOld, slotted, lifts⟩ :=
      cordons.slotted other node isCordoned isNode alive
    exact ⟨old, by rw [w.putBootcNode_bootcNode, if_neg different, isOld],
      slotted, lifts⟩
  · intro other node current isCurrent slotted isNode alive schedulable
    rw [w.putBootcNode_bootcNode] at isCurrent
    split_ifs at isCurrent with same
    · exact absurd ((free current isCurrent).symm.trans slotted) (by simp)
    · exact cordons.recorded other node current isCurrent slotted isNode
        alive schedulable

/-- A node without a slot takes one and records its cordon. -/
theorem putSlot
    (cordons : CordonsRecorded w) {stored : BootcNode}
    (isBootcNode : w.api.bootcNode name = some bn)
    (unslotted : bn.inRebootSlot = false)
    (record : ∀ node, w.api.node name = some node →
      node.unschedulable = false →
        stored.annotations.known .wasCordoned = some "false") :
    CordonsRecorded (w.putBootcNode name (some stored)) := by
  refine ⟨?_, cordons.unschedulable, ?_⟩
  · intro other node isCordoned isNode alive
    obtain ⟨old, isOld, slotted, lifts⟩ :=
      cordons.slotted other node isCordoned isNode alive
    have different : other ≠ name := by
      rintro rfl
      have isBn := Option.some.inj (isOld.symm.trans isBootcNode)
      exact absurd ((isBn ▸ slotted).symm.trans unslotted) (by simp)
    exact ⟨old, by rw [w.putBootcNode_bootcNode, if_neg different, isOld],
      slotted, lifts⟩
  · intro other node current isCurrent slotted isNode alive schedulable
    rw [w.putBootcNode_bootcNode] at isCurrent
    split_ifs at isCurrent with same
    · subst same
      cases isCurrent
      exact record node isNode schedulable
    · exact cordons.recorded other node current isCurrent slotted isNode
        alive schedulable

theorem putUnchanged
    (cordons : CordonsRecorded w) {stored : Node}
    (isNode : w.api.node name = some node)
    (terminating : stored.deletionTimestamp = node.deletionTimestamp)
    (unchanged : stored.unschedulable = node.unschedulable) :
    CordonsRecorded (w.putNode name stored) := by
  refine cordons.putNode isNode terminating ?_ ?_
  · intro schedulable cordoned
    rw [unchanged, schedulable] at cordoned
    cases cordoned
  · intro cordoned schedulable
    rw [unchanged, cordoned] at schedulable
    cases schedulable

/-- A node that is handed back without its cordon has none. -/
theorem uncordoned
    (cordons : CordonsRecorded w)
    (isBootcNode : w.api.bootcNode name = some bn)
    (lifted : Uncordoned w name bn) (isNode : w.api.node name = some node)
    (alive : node.deletionTimestamp = none) : w.cordoned name = false := by
  by_contra isCordoned
  rw [Bool.not_eq_false] at isCordoned
  obtain ⟨old, isOld, _, lifts⟩ :=
    cordons.slotted name node isCordoned isNode alive
  have isBn := Option.some.inj (isOld.symm.trans isBootcNode)
  subst isBn
  have schedulable := lifted node isNode lifts
  have unschedulable := cordons.unschedulable name node isCordoned isNode
  exact absurd (schedulable.symm.trans unschedulable) (by simp)

theorem congr
    (cordons : CordonsRecorded w) (node : w'.api.node = w.api.node)
    (bootcNode : w'.api.bootcNode = w.api.bootcNode)
    (cordoned : w'.cordoned = w.cordoned) : CordonsRecorded w' := by
  refine ⟨?_, ?_, ?_⟩
  · rw [node, bootcNode, cordoned]
    exact cordons.slotted
  · rw [node, cordoned]
    exact cordons.unschedulable
  · rw [node, bootcNode]
    exact cordons.recorded

end CordonsRecorded

/-- The cordon state is recorded when a slot is taken, and kept with it. -/
theorem slotPlan_wasCordoned
    (bn : BootcNode) (node : Node) (claim : Option NodeClaim) :
    (slotPlan bn node claim).bootcNode.known .wasCordoned =
      if bn.inRebootSlot then bn.annotations.known .wasCordoned
      else some (if node.unschedulable then "true" else "false") := by
  rw [slotPlan_bootcNode_known bn node claim (by simp) (by simp) (by simp)
    (by simp)]
  unfold slotAnnotations
  dsimp only
  split <;> simp

/-- Every effect keeps cordons recorded. -/
theorem Effect.cordonsRecorded
    {budget : Option Int} {action : Action}
    (effect : Effect c budget action w w') (cordons : CordonsRecorded w) :
    CordonsRecorded w' := by
  cases effect with
  | labelNode _ isNode => exact cordons.putUnchanged isNode rfl rfl
  | unlabelNode _ isNode => exact cordons.putUnchanged isNode rfl rfl
  | removeTaint completed _ =>
      exact cordons.putUnchanged completed.present rfl rfl
  | createBootcNode _ absent _ =>
      refine cordons.putFree (fun bn isNew => ?_) fun node isNode alive => ?_
      · rw [← Option.some.inj isNew]
        exact newBootcNode_inRebootSlot _ _ _
      · by_contra isCordoned
        rw [Bool.not_eq_false] at isCordoned
        obtain ⟨bn, isBootcNode, _⟩ :=
          cordons.slotted _ node isCordoned isNode alive
        rw [absent] at isBootcNode
        cases isBootcNode
  | syncSpec _ owns => exact cordons.putBootcNode owns.stored rfl rfl
  | markObserved owns =>
      refine cordons.putBootcNode owns.stored ?_ ?_
      · simp [BootcNode.inRebootSlot, Annotations.has]
      · simp
  | clearTaint owns =>
      refine cordons.putBootcNode owns.stored ?_ ?_
      · simp [BootcNode.inRebootSlot, Annotations.has]
      · simp
  | approve owns isDrain succeeded =>
      rename_i name bn status
      have approved : CordonsRecorded (w.putBootcNode name
          (some (bn.setSpec { bn.spec with desiredImageState := .booted }))) :=
        cordons.putBootcNode owns.stored rfl rfl
      exact approved.congr rfl rfl rfl
  | restoreNode owns isNode records _ =>
      refine cordons.putNode isNode rfl (fun schedulable cordoned => ?_)
        fun cordoned schedulable bn isBootcNode => ?_
      · simp [restoredNode, schedulable] at cordoned
      · have same := Option.some.inj (owns.stored.symm.trans isBootcNode)
        subst same
        rw [← records .wasCordoned (by simp)]
        by_contra notLifted
        simp [restoredNode, notLifted, cordoned] at schedulable
  | deleteBootcNode owns _ _ lifted =>
      refine cordons.putFree (by simp) fun node isNode alive => ?_
      rcases lifted node isNode with terminating | uncordoned
      · exact absurd alive terminating
      · exact cordons.uncordoned owns.stored uncordoned.1 isNode alive
  | freeSlot completed _ lifted =>
      refine cordons.putFree (fun bn isNew => ?_) fun node isNode alive =>
        cordons.uncordoned completed.stored lifted isNode alive
      rw [← Option.some.inj isNew]
      exact freedAnnotations_inRebootSlot _
  | assignSlot owns isNode isStaged mayTake =>
      rename_i bn node claim
      have record := slotPlan_wasCordoned bn node claim
      cases slotted : bn.inRebootSlot with
      | true =>
          refine cordons.putBootcNode owns.stored ?_ ?_
          · exact (slotPlan_inRebootSlot bn node claim).trans slotted.symm
          · exact record.trans (if_pos slotted)
      | false =>
          refine cordons.putSlot owns.stored slotted
            fun current isCurrent schedulable => ?_
          have same := Option.some.inj (isNode.symm.trans isCurrent)
          subst same
          simp only [record, slotted, schedulable]
          rfl
  | cordonNode owns slotted isNode =>
      refine cordons.putNode isNode rfl
        (fun _ _ => ⟨_, owns.stored, slotted⟩) fun _ schedulable => ?_
      cases schedulable
  | _ => exact cordons.congr rfl rfl rfl

/-! ## Runs -/

/-- No slot is held and the operator has cordoned no Node. -/
structure Unslotted (w : World) : Prop where
  free : ∀ name bn, w.api.bootcNode name = some bn → bn.inRebootSlot = false
  uncordoned : ∀ name, w.cordoned name = false

theorem Unslotted.cordonsRecorded (unslotted : Unslotted w) :
    CordonsRecorded w := by
  refine ⟨?_, ?_, ?_⟩
  · intro name node isCordoned
    simp [unslotted.uncordoned name] at isCordoned
  · intro name node isCordoned
    simp [unslotted.uncordoned name] at isCordoned
  · intro name node bn isBootcNode slotted
    simp [unslotted.free name bn isBootcNode] at slotted

/-- What other actors may do between two reconciles: they leave the two
annotations of a slot and the cordons of Nodes alone.  A Node that is created
anew during a slot is not schedulable where the one before it was not; the
history of cordons belongs to the Node object. -/
structure Bystanders (w w' : World) : Prop where
  marks : ∀ name bn, w.api.bootcNode name = some bn →
    ∃ bn', w'.api.bootcNode name = some bn' ∧
      bn'.annotations.known .inRebootSlot =
        bn.annotations.known .inRebootSlot ∧
      bn'.annotations.known .wasCordoned = bn.annotations.known .wasCordoned
  unmarked : ∀ name bn', w.api.bootcNode name = none →
    w'.api.bootcNode name = some bn' → bn'.inRebootSlot = false
  unschedulable : ∀ name node node', w.api.node name = some node →
    w'.api.node name = some node' →
      node'.unschedulable = node.unschedulable
  terminating : ∀ name node node', w.api.node name = some node →
    w'.api.node name = some node' → node'.deletionTimestamp = none →
      node.deletionTimestamp = none
  created : ∀ name bn node', w.api.node name = none →
    w'.api.node name = some node' → w.api.bootcNode name = some bn →
      bn.inRebootSlot = true → node'.unschedulable = false →
        bn.annotations.known .wasCordoned = some "false"
  cordoned : ∀ name, w'.cordoned name = true →
    w.cordoned name = true ∧ w.api.node name ≠ none

theorem Bystanders.cordonsRecorded
    (others : Bystanders w w') (cordons : CordonsRecorded w) :
    CordonsRecorded w' := by
  refine ⟨?_, ?_, ?_⟩
  · intro name node' isCordoned isNode alive
    obtain ⟨wasCordoned, existed⟩ := others.cordoned name isCordoned
    obtain ⟨node, isOld⟩ := Option.ne_none_iff_exists'.mp existed
    obtain ⟨bn, isBootcNode, slotted, lifts⟩ :=
      cordons.slotted name node wasCordoned isOld
        (others.terminating name node node' isOld isNode alive)
    obtain ⟨bn', isNew, slot, record⟩ := others.marks name bn isBootcNode
    refine ⟨bn', isNew, ?_, record.trans lifts⟩
    rwa [BootcNode.inRebootSlot, Annotations.has, slot]
  · intro name node' isCordoned isNode
    obtain ⟨wasCordoned, existed⟩ := others.cordoned name isCordoned
    obtain ⟨node, isOld⟩ := Option.ne_none_iff_exists'.mp existed
    rw [others.unschedulable name node node' isOld isNode]
    exact cordons.unschedulable name node wasCordoned isOld
  · intro name node' bn' isBootcNode slotted isNode alive schedulable
    cases isOldBn : w.api.bootcNode name with
    | none =>
        have free := others.unmarked name bn' isOldBn isBootcNode
        exact absurd (slotted.symm.trans free) (by simp)
    | some bn =>
        obtain ⟨found, isFound, slot, record⟩ := others.marks name bn isOldBn
        obtain rfl := Option.some.inj (isFound.symm.trans isBootcNode)
        rw [BootcNode.inRebootSlot, Annotations.has, slot] at slotted
        rw [record]
        cases isOld : w.api.node name with
        | none =>
            exact others.created name bn node' isOld isNode isOldBn slotted
              schedulable
        | some node =>
            refine cordons.recorded name node bn isOldBn slotted isOld
              (others.terminating name node node' isOld isNode alive) ?_
            rw [← others.unschedulable name node node' isOld isNode]
            exact schedulable

theorem slottedNodes_of_uid
    {pool pool' : BootcNodePool} (uid : pool.uid = pool'.uid)
    (api : Cluster) : slottedNodes pool api = slottedNodes pool' api := by
  unfold slottedNodes BootcNode.isControlledBy
  rw [uid]

theorem withinBudget_of_reconcile
    (r : BootcNodePoolReconciler) {env : Env} (request : String)
    (faithful : env.Faithful w) :
    WithinBudget (r.contextOf env request w)
      (slottedNodes (r.contextOf env request w).pool w.api).encard
      (r.reconcile env request (.start w)).2.seen := by
  refine WithinBudget.steps ?_ (r.steps_of_reconcile request faithful)
  refine ⟨le_max_left _ _, ?_, ?_, ?_⟩ <;>
    simp [PassState.seen, PassState.start]

/-- In a `Reconcile` that starts with `k` slotted nodes, at most
`max k maxUnavailable` nodes hold a slot at every moment, and at most `k` when
the rollout is halted or paused.  If the `Reconcile` is part of a run that
started without slots, every Node that is not terminating and that the
operator has cordoned has a BootcNode with a slot. -/
theorem slots_within_budget
    (r : BootcNodePoolReconciler) (env : Env) (request : String) (w : World)
    {pool : BootcNodePool} (faithful : env.Faithful w)
    (stored : w.api.pool request = some pool) :
    let after := (r.reconcile env request (.start w)).2
    let k := (slottedNodes pool w.api).encard
    (∀ maxUnavail, after.maxUnavail = some maxUnavail →
      ∃ nodeCount,
        r.resolveMaxUnavailable pool nodeCount = .ok maxUnavail) ∧
    (∀ moment ∈ after.moments,
      (slottedNodes pool moment.api).encard ≤
        max k ((after.maxUnavail.getD 0).toNat : ℕ∞)) ∧
    (after.rolloutHalted = true ∨ isPaused pool = true →
      ∀ moment ∈ after.moments,
        (slottedNodes pool moment.api).encard ≤ k) ∧
    ∀ w₀ actions past, Unslotted w₀ →
      (clusterMachine r).Path (FreshlyRead Bystanders) (.start w₀) actions
        ⟨past, w⟩ →
      ∀ moment ∈ after.moments, ∀ name node,
        moment.api.node name = some node →
          node.deletionTimestamp = none → moment.cordoned name = true →
            ∃ bn, moment.api.bootcNode name = some bn ∧
              bn.inRebootSlot = true := by
  intro after k
  have within := withinBudget_of_reconcile r request faithful
  obtain ⟨_, uid, spec⟩ := r.settledPool_keeps env w pool
  rw [← contextOf_pool r request env stored] at uid spec
  have sameSlots : ∀ api, slottedNodes (r.contextOf env request w).pool api =
      slottedNodes pool api := slottedNodes_of_uid uid
  have resolved : ∀ maxUnavail, after.maxUnavail = some maxUnavail →
      ∃ nodeCount,
        r.resolveMaxUnavailable pool nodeCount = .ok maxUnavail := by
    intro maxUnavail isResolved
    obtain ⟨nodeCount, result⟩ := within.resolved maxUnavail isResolved
    exact ⟨nodeCount,
      (resolveMaxUnavailable_congr spec r nodeCount).symm.trans result⟩
  have bounded : ∀ moment ∈ after.moments,
      (slottedNodes pool moment.api).encard ≤
        max k ((after.maxUnavail.getD 0).toNat : ℕ∞) := by
    intro moment member
    rw [← sameSlots]
    have isBound : Seen.bound
        (slottedNodes (r.contextOf env request w).pool w.api).encard
        after.seen = max k ((after.maxUnavail.getD 0).toNat : ℕ∞) := by
      rw [sameSlots]
      rfl
    rw [← isBound]
    rcases List.mem_append.mp member with logged | final
    · obtain ⟨entry, isEntry, rfl⟩ := List.mem_map.mp logged
      exact within.logged entry isEntry
    · rw [List.mem_singleton.mp final]
      exact within.now
  refine ⟨resolved, bounded, ?_, ?_⟩
  · intro stops moment member
    have noBudget : after.maxUnavail.getD 0 = 0 := by
      cases isResolved : after.maxUnavail with
      | none => rfl
      | some maxUnavail =>
          rcases stops with halted | paused
          · have unresolved := within.halted halted
            rw [show after.maxUnavail = none from unresolved] at isResolved
            cases isResolved
          · obtain ⟨nodeCount, result⟩ := resolved maxUnavail isResolved
            exact resolveMaxUnavailable_of_paused result paused
    simpa [noBudget] using bounded moment member
  · intro w₀ actions past unslotted run moment member name node isNode alive
      isCordoned
    have recorded : CordonsRecorded w :=
      invariant_of_clusterPath CordonsRecorded Effect.cordonsRecorded
        Bystanders.cordonsRecorded run unslotted.cordonsRecorded
    have cordons := r.moments_invariant request CordonsRecorded
      Effect.cordonsRecorded faithful recorded moment member
    obtain ⟨bn, isBootcNode, slotted, _⟩ :=
      cordons.slotted name node isCordoned isNode alive
    exact ⟨bn, isBootcNode, slotted⟩

def twoStaged : Tables :=
  { nodes := [("n1", plainNode), ("n2", plainNode)]
    bootcNodes :=
      [("n1", stagedNode "os@b" "os@a"), ("n2", stagedNode "os@b" "os@a")]
    pools := [("workers", osPool "os@b")] }

/-- With the default budget one of two nodes gets a slot. -/
theorem slots_within_budget_one_of_two :
    let after :=
      (osReconciler.reconcile (.calm ["n1", "n2"] 0) "workers"
        (.start twoStaged.world)).2
    after.maxUnavail = some 1 ∧
      (after.world.api.bootcNode "n1").map BootcNode.inRebootSlot =
        some true ∧
      (slottedNodes (osPool "os@b") after.world.api).encard ≤
        max (slottedNodes (osPool "os@b") twoStaged.world.api).encard
          ((1 : ℕ) : ℕ∞) := by
  refine ⟨by decide, by decide, ?_⟩
  have bounded := (slots_within_budget osReconciler
    (.calm ["n1", "n2"] 0) "workers" twoStaged.world
    (Env.faithful_calm twoStaged.within_names (by decide)) rfl).2.1
  refine bounded _ ?_
  simp [PassState.moments]

end BootcOperator
