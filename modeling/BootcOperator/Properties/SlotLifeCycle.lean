import BootcOperator.Properties.SlotBudget

/-!
# The life of a reboot slot

The annotations of a slot form a group: `was-cordoned` and the four
`owns-karpenter` records come and go with `in-reboot-slot`.  A slot is taken
for a staged node in a pass that is neither halted nor paused, it is left only
when the node is up to date and its Node ready, and the record of the cordon
state does not change in between.
-/

namespace BootcOperator

open BootcNodePoolReconciler

/-- The annotations that record what a slot has changed. -/
def slotRecords : List BootcNodeKey :=
  [.wasCordoned, .ownsKarpenterDoNotRepair, .ownsKarpenterDoNotDisrupt,
    .ownsKarpenterNodeClaimDoNotRepair, .ownsKarpenterNodeClaimDoNotDisrupt]

def slotKeys : List BootcNodeKey :=
  .inRebootSlot :: slotRecords

/-- The group is complete: no record without a slot, and no slot without the
record of the cordon state. -/
structure BootcNode.SlotGrouped (bn : BootcNode) : Prop where
  records : ∀ key ∈ slotRecords, bn.annotations.has key = true →
    bn.inRebootSlot = true
  cordon : bn.inRebootSlot = true → bn.annotations.has .wasCordoned = true

/-- The group is complete in every BootcNode. -/
def SlotsGrouped (w : World) : Prop :=
  ∀ name bn, w.api.bootcNode name = some bn → bn.SlotGrouped

/-- Slot and records are the same in both. -/
def SameSlot (bn bn' : BootcNode) : Prop :=
  ∀ key ∈ slotKeys, bn'.annotations.known key = bn.annotations.known key

/-- No annotation of a slot is left. -/
def Slotless (bn : BootcNode) : Prop :=
  ∀ key ∈ slotKeys, bn.annotations.has key = false

section Groups

variable {bn bn' : BootcNode}

theorem SameSlot.inRebootSlot (same : SameSlot bn bn') :
    bn'.inRebootSlot = bn.inRebootSlot := by
  rw [BootcNode.inRebootSlot, BootcNode.inRebootSlot, Annotations.has,
    Annotations.has, same .inRebootSlot (by simp [slotKeys])]

theorem SameSlot.wasCordoned (same : SameSlot bn bn') :
    bn'.annotations.known .wasCordoned = bn.annotations.known .wasCordoned :=
  same .wasCordoned (by simp [slotKeys, slotRecords])

theorem SameSlot.slotGrouped
    (same : SameSlot bn bn') (grouped : bn.SlotGrouped) :
    bn'.SlotGrouped := by
  constructor
  · intro key isRecord present
    rw [same.inRebootSlot]
    refine grouped.records key isRecord ?_
    rwa [Annotations.has, same key (by simp [slotKeys, isRecord])] at present
  · intro slotted
    rw [same.inRebootSlot] at slotted
    rw [Annotations.has, same.wasCordoned]
    exact grouped.cordon slotted

theorem Slotless.inRebootSlot (slotless : Slotless bn) :
    bn.inRebootSlot = false :=
  slotless .inRebootSlot (by simp [slotKeys])

theorem Slotless.slotGrouped (slotless : Slotless bn) : bn.SlotGrouped := by
  constructor
  · intro key isRecord present
    rw [slotless key (by simp [slotKeys, isRecord])] at present
    cases present
  · intro slotted
    rw [slotless.inRebootSlot] at slotted
    cases slotted

theorem newBootcNode_slotless
    (r : BootcNodePoolReconciler) (pool : BootcNodePool) (node : Node) :
    Slotless (r.newBootcNode pool node) := by
  intro key isKey
  simp only [slotKeys, slotRecords, List.mem_cons, List.not_mem_nil,
    or_false] at isKey
  unfold newBootcNode
  dsimp only
  split <;> rcases isKey with rfl | rfl | rfl | rfl | rfl | rfl <;>
    simp [Annotations.has, Annotations.empty]

theorem freedAnnotations_slotless (bn : BootcNode) :
    Slotless { bn with annotations := freedAnnotations bn.annotations } := by
  intro key isKey
  simp only [slotKeys, slotRecords, List.mem_cons, List.not_mem_nil,
    or_false] at isKey
  rcases isKey with rfl | rfl | rfl | rfl | rfl | rfl <;>
    simp [freedAnnotations, Annotations.has]

/-- An annotation outside of the group leaves the slot as it is. -/
theorem SameSlot.of_known
    (changed : BootcNodeKey) (outside : changed ∉ slotKeys)
    (same : ∀ key, key ≠ changed →
      bn'.annotations.known key = bn.annotations.known key) :
    SameSlot bn bn' := by
  intro key isKey
  refine same key ?_
  rintro rfl
  exact outside isKey

theorem slotPlan_slotGrouped
    (bn : BootcNode) (node : Node) (claim : Option NodeClaim)
    (grouped : bn.SlotGrouped) :
    BootcNode.SlotGrouped
      { bn with annotations := (slotPlan bn node claim).bootcNode } := by
  constructor
  · intro _ _ _
    exact slotPlan_inRebootSlot bn node claim
  · intro _
    rw [Annotations.has, slotPlan_wasCordoned]
    split
    · next slotted => exact grouped.cordon slotted
    · rfl

end Groups

/-! ## One effect -/

/-- What one write does to the slot of a BootcNode. -/
inductive SlotChange (c : PassContext) (budget : Option Int) (w : World)
    (name : String) (bn : BootcNode) : BootcNode → Prop
  | kept {bn' : BootcNode} :
      SameSlot bn bn' → SlotChange c budget w name bn bn'
  | assigned {node : Node} {claim : Option NodeClaim} :
      OwnsTargeted c w name bn → w.api.node name = some node →
      classifyNode c.reconciler.references bn = .ok .staged →
      MayTakeSlot c budget w bn →
      SlotChange c budget w name bn
        { bn with annotations := (slotPlan bn node claim).bootcNode }
  | freed {node : Node} :
      Completed c w name bn node →
      SlotChange c budget w name bn
        { bn with annotations := freedAnnotations bn.annotations }

section Effects

variable {c : PassContext} {budget : Option Int} {action : Action}
  {w w' : World} {name : String} {bn bn' : BootcNode}

theorem SlotChange.putBootcNode
    {changed : String} {old new : BootcNode}
    (isOld : w.api.bootcNode changed = some old)
    (change : SlotChange c budget w changed old new)
    (isBn : w.api.bootcNode name = some bn)
    (isBn' : (w.putBootcNode changed (some new)).api.bootcNode name =
      some bn') :
    SlotChange c budget w name bn bn' := by
  rw [w.putBootcNode_bootcNode] at isBn'
  split_ifs at isBn' with same
  · subst same
    cases isBn'
    obtain rfl := Option.some.inj (isOld.symm.trans isBn)
    exact change
  · obtain rfl := Option.some.inj (isBn.symm.trans isBn')
    exact .kept fun _ _ => rfl

theorem Effect.slotChange
    (effect : Effect c budget action w w')
    (isBn : w.api.bootcNode name = some bn)
    (isBn' : w'.api.bootcNode name = some bn') :
    SlotChange c budget w name bn bn' := by
  cases effect with
  | createBootcNode _ absent _ =>
      rw [w.putBootcNode_bootcNode] at isBn'
      split_ifs at isBn' with same
      · subst same
        rw [absent] at isBn
        cases isBn
      · obtain rfl := Option.some.inj (isBn.symm.trans isBn')
        exact .kept fun _ _ => rfl
  | @syncSpec _ _ old _ owns =>
      have same : SameSlot old
          (old.setSpec (c.reconciler.syncedSpec c.pool old.spec)) :=
        fun _ _ => rfl
      exact SlotChange.putBootcNode owns.stored (.kept same) isBn isBn'
  | deleteBootcNode _ _ _ _ =>
      rw [w.putBootcNode_bootcNode] at isBn'
      split_ifs at isBn'
      obtain rfl := Option.some.inj (isBn.symm.trans isBn')
      exact .kept fun _ _ => rfl
  | markObserved owns =>
      refine SlotChange.putBootcNode owns.stored
        (.kept (SameSlot.of_known .lastObservedState
          (by simp [slotKeys, slotRecords]) ?_)) isBn isBn'
      intro key different
      simp [different]
  | @approve _ _ old _ owns _ _ =>
      have same : SameSlot old
          (old.setSpec { old.spec with desiredImageState := .booted }) :=
        fun _ _ => rfl
      exact SlotChange.putBootcNode owns.stored (.kept same) isBn isBn'
  | freeSlot completed _ _ =>
      exact SlotChange.putBootcNode completed.stored (.freed completed) isBn
        isBn'
  | clearTaint owns =>
      refine SlotChange.putBootcNode owns.stored
        (.kept (SameSlot.of_known .ownsOsNotReadyTaint
          (by simp [slotKeys, slotRecords]) ?_)) isBn isBn'
      intro key different
      simp [different]
  | assignSlot owns isNode staged mayTake =>
      exact SlotChange.putBootcNode owns.stored
        (.assigned owns isNode staged mayTake) isBn isBn'
  | _ =>
      obtain rfl := Option.some.inj (isBn.symm.trans isBn')
      exact .kept fun _ _ => rfl

/-- A new BootcNode has none of the annotations. -/
theorem Effect.created_slotless
    (effect : Effect c budget action w w')
    (absent : w.api.bootcNode name = none)
    (isBn' : w'.api.bootcNode name = some bn') : Slotless bn' := by
  have replaced : ∀ {changed : String} {old new : BootcNode},
      w.api.bootcNode changed = some old →
        (w.putBootcNode changed (some new)).api.bootcNode name = none := by
    intro changed old new isOld
    rw [w.putBootcNode_bootcNode, if_neg]
    · exact absent
    · rintro rfl
      rw [absent] at isOld
      cases isOld
  cases effect with
  | createBootcNode _ _ _ =>
      rw [w.putBootcNode_bootcNode] at isBn'
      split_ifs at isBn'
      · cases isBn'
        exact newBootcNode_slotless _ _ _
      · rw [absent] at isBn'
        cases isBn'
  | syncSpec _ owns => cases (replaced owns.stored).symm.trans isBn'
  | deleteBootcNode _ _ _ _ =>
      rw [w.putBootcNode_bootcNode, absent, ite_self] at isBn'
      cases isBn'
  | markObserved owns => cases (replaced owns.stored).symm.trans isBn'
  | approve owns _ _ => cases (replaced owns.stored).symm.trans isBn'
  | freeSlot completed _ _ =>
      cases (replaced completed.stored).symm.trans isBn'
  | clearTaint owns => cases (replaced owns.stored).symm.trans isBn'
  | assignSlot owns _ _ _ => cases (replaced owns.stored).symm.trans isBn'
  | _ => cases absent.symm.trans isBn'

theorem SlotChange.slotGrouped
    (change : SlotChange c budget w name bn bn')
    (grouped : bn.SlotGrouped) : bn'.SlotGrouped := by
  cases change with
  | kept same => exact same.slotGrouped grouped
  | assigned _ _ _ _ => exact slotPlan_slotGrouped bn _ _ grouped
  | freed _ => exact (freedAnnotations_slotless bn).slotGrouped

theorem Effect.slotsGrouped
    (effect : Effect c budget action w w') (grouped : SlotsGrouped w) :
    SlotsGrouped w' := by
  intro name bn' isBn'
  cases isBn : w.api.bootcNode name with
  | none => exact (effect.created_slotless isBn isBn').slotGrouped
  | some bn =>
      exact (effect.slotChange isBn isBn').slotGrouped (grouped name bn isBn)

/-- As long as the slot is held, the record of the cordon state is fixed. -/
theorem SlotChange.wasCordoned
    (change : SlotChange c budget w name bn bn')
    (before : bn.inRebootSlot = true) (after : bn'.inRebootSlot = true) :
    bn'.annotations.known .wasCordoned =
      bn.annotations.known .wasCordoned := by
  cases change with
  | kept same => exact same.wasCordoned
  | assigned _ _ _ _ =>
      dsimp only
      rw [slotPlan_wasCordoned, if_pos before]
  | freed _ =>
      rw [(freedAnnotations_slotless bn).inRebootSlot] at after
      cases after

/-- A slot is taken for a staged node, within a known budget. -/
theorem SlotChange.gained
    (change : SlotChange c budget w name bn bn')
    (before : bn.inRebootSlot = false) (after : bn'.inRebootSlot = true) :
    ∃ node maxUnavail, OwnsTargeted c w name bn ∧
      w.api.node name = some node ∧
      classifyNode c.reconciler.references bn = .ok .staged ∧
      budget = some maxUnavail ∧ 0 < maxUnavail ∧
      bn'.annotations.known .wasCordoned =
        some (if node.unschedulable then "true" else "false") := by
  cases change with
  | kept same =>
      rw [same.inRebootSlot, before] at after
      cases after
  | @assigned node claim owns isNode staged mayTake =>
      rcases mayTake with slotted | ⟨maxUnavail, isBudget, room⟩
      · rw [before] at slotted
        cases slotted
      · refine ⟨node, maxUnavail, owns, isNode, staged, isBudget, ?_, ?_⟩
        · have positive : (0 : ℕ∞) < (maxUnavail.toNat : ℕ∞) :=
            lt_of_le_of_lt bot_le room
          have isPositive : 0 < maxUnavail.toNat := by exact_mod_cast positive
          omega
        · dsimp only
          rw [slotPlan_wasCordoned, before]
          rfl
  | freed _ =>
      rw [(freedAnnotations_slotless bn).inRebootSlot] at after
      cases after

/-- A slot is left when the update of the node is complete. -/
theorem SlotChange.lost
    (change : SlotChange c budget w name bn bn')
    (before : bn.inRebootSlot = true) (after : bn'.inRebootSlot = false) :
    ∃ node, Completed c w name bn node := by
  cases change with
  | kept same =>
      rw [same.inRebootSlot, before] at after
      cases after
  | assigned _ _ _ _ =>
      rw [BootcNode.inRebootSlot, slotPlan_inRebootSlot] at after
      cases after
  | freed completed => exact ⟨_, completed⟩

end Effects

theorem not_degraded_of_staged
    {lib : ReferenceLibrary} {bn : BootcNode}
    (classified : classifyNode lib bn = .ok .staged) :
    isStatusConditionTrue bn.status.conditions nodeDegraded = false := by
  by_contra degraded
  rw [Bool.not_eq_false] at degraded
  rw [classifyNode, if_pos degraded] at classified
  cases classified

/-! ## Runs -/

/-- Other actors that leave the annotations of slots alone. -/
structure SlotBystanders (w w' : World) : Prop where
  kept : ∀ name bn bn', w.api.bootcNode name = some bn →
    w'.api.bootcNode name = some bn' → SameSlot bn bn'
  created : ∀ name bn', w.api.bootcNode name = none →
    w'.api.bootcNode name = some bn' → Slotless bn'

theorem SlotBystanders.slotsGrouped
    {w w' : World} (others : SlotBystanders w w')
    (grouped : SlotsGrouped w) : SlotsGrouped w' := by
  intro name bn' isBn'
  cases isBn : w.api.bootcNode name with
  | none => exact (others.created name bn' isBn isBn').slotGrouped
  | some bn =>
      exact (others.kept name bn bn' isBn isBn').slotGrouped
        (grouped name bn isBn)

/-- The node is in a slot whose cordon record is `record`. -/
def HoldsSlot (name : String) (record : Option String) (w : World) : Prop :=
  ∃ bn, w.api.bootcNode name = some bn ∧ bn.inRebootSlot = true ∧
    bn.annotations.known .wasCordoned = record

/-- The node is in a slot at each of these moments. -/
def KeepsSlot (name : String) (moments : List World) : Prop :=
  ∀ moment ∈ moments,
    ∃ bn, moment.api.bootcNode name = some bn ∧ bn.inRebootSlot = true

/-- A node that holds a slot throughout a part of a pass keeps the record. -/
theorem record_kept_by_reconcile
    (r : BootcNodePoolReconciler) {env : Env} (request : String)
    {s : ClusterRun} (faithful : env.Faithful s.now) {count : Nat}
    {name : String} {record : Option String}
    (holds : HoldsSlot name record s.now)
    (slotted : KeepsSlot name
      ((s.written r env request count).map Entry.after)) :
    (∀ entry ∈ s.written r env request count,
      HoldsSlot name record entry.after) ∧
    HoldsSlot name record
      (worldAfter s.now (s.written r env request count)) := by
  have explained := r.explained_of_reconcile request faithful
  have keeps : ∀ before entry, (before, entry) ∈
      transitions s.now (s.written r env request count) →
      HoldsSlot name record before → HoldsSlot name record entry.after := by
    rintro before entry member ⟨bn, isBn, held, isRecord⟩
    obtain ⟨_, _, effect⟩ := explained.effect before entry
      (mem_transitions_of_take member)
    obtain ⟨bn', isBn', stillHeld⟩ := slotted entry.after
      (List.mem_map_of_mem (mem_of_transition member))
    have fixed := (effect.slotChange isBn isBn').wasCordoned held stillHeld
    exact ⟨bn', isBn', stillHeld, fixed.trans isRecord⟩
  obtain ⟨around, final⟩ := invariant_of_transitions _ keeps holds
  refine ⟨fun entry member => ?_, final⟩
  obtain ⟨before, isTransition⟩ := exists_transition s.now member
  exact (around before entry isTransition).2

/-- A node that holds a slot throughout a run keeps the record. -/
theorem record_kept
    {r : BootcNodePoolReconciler} {s s' : ClusterRun}
    {actions : List ClusterAction} {name : String} {record : Option String}
    (run : (clusterMachine r).Path (FreshlyRead SlotBystanders) s actions s')
    (start : (∀ moment ∈ s.past, HoldsSlot name record moment) ∧
      HoldsSlot name record s.now)
    (slotted : KeepsSlot name s'.past) :
    ∀ moment ∈ s'.past, HoldsSlot name record moment := by
  refine (run.invariant (fun s => KeepsSlot name s.past →
    (∀ moment ∈ s.past, HoldsSlot name record moment) ∧
      HoldsSlot name record s.now) ?_ (fun _ => start) slotted).1
  intro s action s' kept meets stepped slotted
  cases action with
  | reconcile env request count =>
      cases stepped
      obtain ⟨earlier, current⟩ := kept fun moment member =>
        slotted moment (List.mem_append_left _ member)
      obtain ⟨during, final⟩ := record_kept_by_reconcile r request meets
        current fun moment member =>
          slotted moment (List.mem_append_right _ member)
      refine ⟨fun moment member => ?_, final⟩
      rcases List.mem_append.mp member with before | logged
      · exact earlier moment before
      · obtain ⟨entry, isEntry, rfl⟩ := List.mem_map.mp logged
        exact during entry isEntry
  | others world =>
      cases stepped
      obtain ⟨earlier, bn, isBn, _, isRecord⟩ := kept fun moment member =>
        slotted moment (List.mem_append_left _ member)
      obtain ⟨bn', isBn', stillHeld⟩ := slotted world (by simp)
      have same := meets.kept name bn bn' isBn isBn'
      have now : HoldsSlot name record world :=
        ⟨bn', isBn', stillHeld, same.wasCordoned.trans isRecord⟩
      refine ⟨fun moment member => ?_, now⟩
      rcases List.mem_append.mp member with before | last
      · exact earlier moment before
      · rw [List.mem_singleton.mp last]
        exact now

/-- How slots may change in a single write of a `Reconcile` of `request` that
begins in `w` and ends in `final`. -/
structure SlotRules (r : BootcNodePoolReconciler) (request : String)
    (w : World) (final : PassState) (before after : World) : Prop where
  /-- a slot is taken for a node that the pass classifies as staged, and not
  while the rollout is halted or paused -/
  gained : ∀ name bn', after.api.bootcNode name = some bn' →
    bn'.inRebootSlot = true →
    (∀ bn, before.api.bootcNode name = some bn → bn.inRebootSlot = false) →
      ∃ pool bn node, w.api.pool request = some pool ∧
        isPaused pool = false ∧ final.rolloutHalted = false ∧
        before.api.bootcNode name = some bn ∧
        bn.isControlledBy pool = true ∧
        classifyNode r.references bn = .ok .staged ∧
        isStatusConditionTrue bn.status.conditions nodeDegraded = false ∧
        reportsDesired r.references bn = false ∧
        before.api.node name = some node ∧
        bn'.annotations.known .wasCordoned =
          some (if node.unschedulable then "true" else "false")
  /-- a slot is left when the pass classifies the node as up to date and its
  Node is ready -/
  lost : ∀ name bn bn', before.api.bootcNode name = some bn →
    bn.inRebootSlot = true → after.api.bootcNode name = some bn' →
    bn'.inRebootSlot = false →
      ∃ pool node, w.api.pool request = some pool ∧
        bn.isControlledBy pool = true ∧
        classifyNode r.references bn = .ok .upToDate ∧
        before.api.node name = some node ∧
        nodeReadyStatus node = .conditionTrue

/-- The budget under which a slot is taken belongs to a pass that is neither
halted nor paused. -/
theorem WithinBudget.advancing
    {c : PassContext} {k : ℕ∞} {seen : Seen} (within : WithinBudget c k seen)
    {maxUnavail : Int} (known : seen.maxUnavail = some maxUnavail)
    (positive : 0 < maxUnavail) :
    isPaused c.pool = false ∧ seen.rolloutHalted = false := by
  constructor
  · by_contra paused
    rw [Bool.not_eq_false] at paused
    obtain ⟨nodeCount, resolved⟩ := within.resolved maxUnavail known
    have isZero := resolveMaxUnavailable_of_paused resolved paused
    omega
  · by_contra halted
    rw [Bool.not_eq_false] at halted
    rw [within.halted halted] at known
    cases known

theorem slotRules_of_effect
    (r : BootcNodePoolReconciler) {env : Env} (request : String) {w : World}
    {pool : BootcNodePool} (faithful : env.Faithful w)
    (stored : w.api.pool request = some pool)
    {before : World} {entry : Entry}
    (member : (before, entry) ∈
      transitions w (r.reconcile env request (.start w)).2.log) :
    SlotRules r request w (r.reconcile env request (.start w)).2 before
      entry.after := by
  have within := withinBudget_of_reconcile r request faithful
  obtain ⟨budget, known, effect⟩ :=
    (r.explained_of_reconcile request faithful).effect before entry member
  have isPool := contextOf_pool r request env stored
  have keeps := r.settledPool_keeps env w pool
  have controls : ∀ {name bn},
      Owns (r.contextOf env request w) before name bn →
        bn.isControlledBy pool = true := by
    intro name bn owns
    rw [BootcNode.isControlledBy, ← keeps.2.1, ← isPool]
    exact owns.controlled
  constructor
  · intro name bn' isBn' slotted unslotted
    cases isBn : before.api.bootcNode name with
    | none =>
        have slotless := effect.created_slotless isBn isBn'
        rw [slotless.inRebootSlot] at slotted
        cases slotted
    | some bn =>
        obtain ⟨node, maxUnavail, owns, isNode, staged, isBudget, positive,
            record⟩ :=
          (effect.slotChange isBn isBn').gained (unslotted bn isBn) slotted
        have isKnown : (r.reconcile env request (.start w)).2.maxUnavail =
            some maxUnavail := by
          rcases known with unknown | isCurrent
          · rw [isBudget] at unknown
            cases unknown
          · exact isCurrent.symm.trans isBudget
        obtain ⟨unpaused, unhalted⟩ := within.advancing isKnown positive
        refine ⟨pool, bn, node, stored, ?_, unhalted, rfl,
          controls owns.toOwns, staged, not_degraded_of_staged staged,
          reportsDesired_of_staged staged, isNode, record⟩
        rw [isPool] at unpaused
        rw [← unpaused, isPaused, isPaused, keeps.2.2]
  · intro name bn bn' isBn slotted isBn' unslotted
    obtain ⟨node, completed⟩ :=
      (effect.slotChange isBn isBn').lost slotted unslotted
    exact ⟨pool, node, stored, controls completed.toOwns, completed.upToDate,
      completed.present, completed.isReady⟩

/-- In every run, at every moment the annotations of every slot form a complete
group; every single write of every `Reconcile` takes and leaves slots by the
rules; and the record of the cordon state is fixed as long as a slot is
held. -/
theorem slot_life_cycle
    (r : BootcNodePoolReconciler) {w₀ w : World}
    {actions : List ClusterAction} {past : List World}
    (start : SlotsGrouped w₀)
    (run : (clusterMachine r).Path (FreshlyRead SlotBystanders) (.start w₀)
      actions ⟨past, w⟩) :
    SlotsGrouped w ∧
    (∀ env request, env.Faithful w →
      let final := (r.reconcile env request (.start w)).2
      (∀ moment ∈ final.moments, SlotsGrouped moment) ∧
      ∀ before entry, (before, entry) ∈ transitions w final.log →
        SlotRules r request w final before entry.after) ∧
    ∀ later s, (clusterMachine r).Path (FreshlyRead SlotBystanders) (.start w)
        later s → ∀ name bn,
      w.api.bootcNode name = some bn → bn.inRebootSlot = true →
      KeepsSlot name s.past →
        ∀ moment ∈ s.past, ∃ bn', moment.api.bootcNode name = some bn' ∧
          bn'.annotations.known .wasCordoned =
            bn.annotations.known .wasCordoned := by
  have grouped : SlotsGrouped w := invariant_of_clusterPath SlotsGrouped
    Effect.slotsGrouped SlotBystanders.slotsGrouped run start
  refine ⟨grouped, fun env request faithful => ⟨?_, ?_⟩, ?_⟩
  · exact r.moments_invariant request SlotsGrouped
      (fun effect => effect.slotsGrouped) faithful grouped
  · intro before entry member
    cases stored : w.api.pool request with
    | none =>
        rw [r.reconcile_of_missing request faithful stored] at member
        simp [PassState.start, transitions] at member
    | some pool => exact slotRules_of_effect r request faithful stored member
  · intro later s laterRun name bn isBn slotted held moment member
    have holds : HoldsSlot name (bn.annotations.known .wasCordoned) w :=
      ⟨bn, isBn, slotted, rfl⟩
    obtain ⟨bn', isBn', _, fixed⟩ := record_kept laterRun
      ⟨by simp [ClusterRun.start], holds⟩ held moment member
    exact ⟨bn', isBn', fixed⟩

theorem twoStaged_slotsGrouped : SlotsGrouped twoStaged.world := by
  intro name bn isBn
  have listed : name ∈ twoStaged.names :=
    twoStaged.within_names.bootcNode name (by simp [isBn])
  have isName : name = "n1" ∨ name = "n2" := by
    simpa [show twoStaged.names = ["n1", "n2"] by decide] using listed
  have slotless : Slotless (stagedNode "os@b" "os@a") := by
    unfold Slotless
    decide
  rcases isName with rfl | rfl
  · cases isBn
    exact slotless.slotGrouped
  · cases isBn
    exact slotless.slotGrouped

/-- The first of two staged nodes gets a slot with the record of its cordon
state, and the group is complete after every write. -/
theorem slot_life_cycle_one_of_two :
    let after :=
      (osReconciler.reconcile (.calm ["n1", "n2"] 0) "workers"
        (.start twoStaged.world)).2
    (after.world.api.bootcNode "n1").map
        (fun bn => (bn.inRebootSlot, bn.annotations.known .wasCordoned)) =
      some (true, some "false") ∧
    ∀ moment ∈ after.moments, SlotsGrouped moment := by
  refine ⟨by decide +kernel, ?_⟩
  obtain ⟨_, passes, _⟩ :=
    slot_life_cycle osReconciler twoStaged_slotsGrouped (.nil _)
  exact (passes _ "workers"
    (Env.faithful_calm twoStaged.within_names (by decide))).1

end BootcOperator
