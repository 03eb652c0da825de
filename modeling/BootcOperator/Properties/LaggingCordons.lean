import BootcOperator.Properties.LaggingSlots

/-!
# The record of cordons under informer lag

`was-cordoned` is to tell the cordon state a Node had before the operator
cordoned it for a slot.  It does while every BootcNode list shows the slots of
the API server and a node that takes a slot is read with the cordon it has:
then the record is made once, from the right state.  A list from before the
slot makes a pass record the operator's own cordon.
-/

namespace BootcOperator

open BootcNodePoolReconciler

variable {name : String} {w : World} {node : Node} {bn : BootcNode}

/-! ## What an effect does to a slot and its cordon -/

/-- The action cordons or restores the Node, or frees the slot of the node. -/
def Action.handles (name : String) : Action → Bool
  | .wrote (.cordonNode handled) | .wrote (.restoreNode handled)
  | .wrote (.freeSlot handled) => handled = name
  | _ => false

theorem Action.cordons_of_handles
    {action : Action} (other : action.handles name = false) :
    action.cordons name = false := by
  unfold Action.cordons
  split
  · exact other
  · rfl

theorem Action.handles_of_handlesSlot
    {action : Action} (other : action.handlesSlot = false) (name : String) :
    action.handles name = false := by
  unfold Action.handles
  split
  · cases other
  · cases other
  · cases other
  · rfl

/-- What happens in an effect to the slot of a node and to the cordon of its
Node. -/
inductive CordonChange (c : LagContext) (name : String) (w : World) :
    Action → World → Prop
  | kept {action : Action} {w' : World} :
      action.handles name = false →
      (w'.api.bootcNode name).map BootcNode.slotRecord =
        (w.api.bootcNode name).map BootcNode.slotRecord →
      w'.unschedulable name = w.unschedulable name →
      CordonChange c name w action w'
  | restored {w' : World} {node : Node} {owner : Annotations BootcNodeKey} :
      w.api.node name = some node →
      (∀ bn, w.api.bootcNode name = some bn → bn.inRebootSlot = true →
        owner.known .wasCordoned = bn.annotations.known .wasCordoned) →
      w'.api.bootcNode name = w.api.bootcNode name →
      w'.unschedulable name = some (restoredNode owner node).unschedulable →
      CordonChange c name w (.wrote (.restoreNode name)) w'
  | cordoned {w' : World} {node : Node} {bn : BootcNode} :
      w.api.node name = some node → w.api.bootcNode name = some bn →
      bn.inRebootSlot = true →
      w'.api.bootcNode name = w.api.bootcNode name →
      CordonChange c name w (.wrote (.cordonNode name)) w'
  | left {action : Action} {w' : World} :
      w'.holdsSlot name = false →
      (action = .wrote (.freeSlot name) → ∀ bn,
        w.api.bootcNode name = some bn → Uncordoned w name bn) →
      action ≠ .wrote (.restoreNode name) →
      CordonChange c name w action w'
  | assigned {w' : World} {new : BootcNode} {unschedulable : Bool} :
      w.holdsSlot name = false → w'.api.bootcNode name = some new →
      new.slotRecord = (true, some (cordonText unschedulable)) →
      (c.ShowsCordons → ∀ node, w.api.node name = some node →
        node.unschedulable = unschedulable) →
      w'.api.node name = w.api.node name →
      CordonChange c name w (.wrote (.assignSlot name)) w'

section Effects

variable {c : LagContext} {budget : Option Int} {action : Action} {w' : World}

theorem CordonChange.putBootcNode
    {changed : String} {bn : Option BootcNode}
    (bootcNode : w'.api.bootcNode = (w.putBootcNode changed bn).api.bootcNode)
    (node : w'.api.node = w.api.node)
    (other : ∀ name, name ≠ changed → action.handles name = false)
    (change : CordonChange c changed w action w') (name : String) :
    CordonChange c name w action w' := by
  by_cases same : name = changed
  · exact same ▸ change
  · refine .kept (other name same) ?_ ?_
    · rw [bootcNode, w.putBootcNode_bootcNode, if_neg same]
    · simp only [World.unschedulable, node]

theorem CordonChange.putNode
    {changed : String}
    (other : ∀ name, name ≠ changed → action.handles name = false)
    (change : CordonChange c changed w action (w.putNode changed node))
    (name : String) :
    CordonChange c name w action (w.putNode changed node) := by
  by_cases same : name = changed
  · exact same ▸ change
  · refine .kept (other name same) rfl ?_
    rw [unschedulable_putNode, if_neg same]

theorem LagEffect.cordonChange
    (records : c.ShowsRecords)
    (effect : LagEffect c budget action w w') (name : String) :
    CordonChange c name w action w' := by
  cases effect with
  | aside other bootcNode node =>
      refine .kept (Action.handles_of_handlesSlot other name) ?_ ?_
      · rw [bootcNode]
      · simp only [World.unschedulable, node]
  | patchNode other stored kept =>
      refine CordonChange.putNode
        (fun name _ => Action.handles_of_handlesSlot other name)
        (.kept (Action.handles_of_handlesSlot other _) rfl ?_) name
      rw [unschedulable_putNode, if_pos rfl]
      simp [World.unschedulable, stored, Node.store, kept]
  | restoreNode stored record =>
      refine CordonChange.putNode (fun other different => ?_)
        (.restored stored (record records) rfl ?_) name
      · simpa [Action.handles] using fun same => different same.symm
      rw [unschedulable_putNode, if_pos rfl]
      simp [Node.store]
  | cordonNode stored isBn slotted =>
      refine CordonChange.putNode (fun other different => ?_)
        (.cordoned stored isBn slotted rfl) name
      simpa [Action.handles] using fun same => different same.symm
  | createBootcNode absent free =>
      refine CordonChange.putBootcNode rfl rfl (fun _ _ => rfl)
        (.left ?_ (by simp) (by simp)) name
      simp [World.holdsSlot, World.putBootcNode, free]
  | patchBootcNode other stored owners record bootcNode node =>
      refine CordonChange.putBootcNode bootcNode node
        (fun name _ => Action.handles_of_handlesSlot other name)
        (.kept (Action.handles_of_handlesSlot other _) ?_ ?_) name
      · rw [bootcNode, w.putBootcNode_bootcNode, if_pos rfl, stored]
        simp [record]
      · simp only [World.unschedulable, node]
  | freeSlot stored owners free uncordoned =>
      refine CordonChange.putBootcNode rfl rfl (fun other different => ?_)
        (.left ?_ (fun _ bn isBn => ?_) (by simp)) name
      · simpa [Action.handles] using fun same => different same.symm
      · simp [World.holdsSlot, World.putBootcNode, free]
      · obtain rfl := Option.some.inj (stored.symm.trans isBn)
        exact uncordoned records
  | deleteBootcNode =>
      refine CordonChange.putBootcNode rfl rfl (fun _ _ => rfl)
        (.left ?_ (by simp) (by simp)) name
      simp [World.holdsSlot, World.putBootcNode]
  | assignSlot stored controlled free _ _ owners taken record shows =>
      refine CordonChange.putBootcNode rfl rfl (fun _ _ => rfl)
        (.assigned ?_ ?_ (Prod.ext taken (record records)) shows rfl) name
      · simp [World.holdsSlot, stored, free]
      · rw [w.putBootcNode_bootcNode, if_pos rfl]

end Effects

/-! ## The invariant -/

/-- `was-cordoned` tells the state before the operator's first cordon of the
slot, or the present one while there was none. -/
structure PriorsKnown (moment : Moment) : Prop where
  unslotted : ∀ name, moment.world.holdsSlot name = false →
    moment.priors name = none
  cordoned : ∀ name bn prior, moment.world.api.bootcNode name = some bn →
    bn.inRebootSlot = true → moment.priors name = some prior →
    bn.annotations.known .wasCordoned = some (cordonText prior)
  uncordoned : ∀ name bn node, moment.world.api.bootcNode name = some bn →
    bn.inRebootSlot = true → moment.priors name = none →
    moment.world.api.node name = some node →
    bn.annotations.known .wasCordoned = some (cordonText node.unschedulable)

/-- The record that a slot was taken with. -/
theorem exists_of_slotRecord
    {w' : World} (same : (w'.api.bootcNode name).map BootcNode.slotRecord =
      (w.api.bootcNode name).map BootcNode.slotRecord)
    (stored : w'.api.bootcNode name = some bn) :
    ∃ old, w.api.bootcNode name = some old ∧
      old.inRebootSlot = bn.inRebootSlot ∧
      old.annotations.known .wasCordoned =
        bn.annotations.known .wasCordoned := by
  rw [stored, Option.map_some] at same
  obtain ⟨old, isOld, record⟩ := Option.map_eq_some_iff.mp same.symm
  exact ⟨old, isOld, congrArg Prod.fst record, congrArg Prod.snd record⟩

theorem holdsSlot_of_stored
    (stored : w.api.bootcNode name = some bn)
    (slotted : bn.inRebootSlot = true) : w.holdsSlot name = true := by
  simp [World.holdsSlot, stored, slotted]

theorem unschedulable_of_stored (stored : w.api.node name = some node) :
    w.unschedulable name = some node.unschedulable := by
  simp [World.unschedulable, stored]

theorem cordonText_eq_false {unschedulable : Bool} :
    cordonText unschedulable = "false" ↔ unschedulable = false := by
  cases unschedulable <;> decide

section Invariant

variable {c : LagContext} {before : Moment} {entry : Entry}

theorem Moment.next_priors
    (moment : Moment) (entry : Entry)
    (slotted : entry.after.holdsSlot name = true)
    (other : entry.action.cordons name = false) :
    (moment.next entry).priors name = moment.priors name := by
  simp [Moment.next, slotted, other]

/-- What a restored Node was before: the restoration lifts the operator's own
cordon and no other. -/
theorem PriorsKnown.restores
    (known : PriorsKnown before) {owner : Annotations BootcNodeKey}
    (stored : before.world.api.node name = some node)
    (isBn : before.world.api.bootcNode name = some bn)
    (slotted : bn.inRebootSlot = true)
    (record : owner.known .wasCordoned = bn.annotations.known .wasCordoned) :
    (restoredNode owner node).unschedulable =
      if before.priors name = some false then false
      else node.unschedulable := by
  simp only [restoredNode, record]
  cases isPrior : before.priors name with
  | some prior =>
      rw [known.cordoned name bn prior isBn slotted isPrior]
      simp [cordonText_eq_false]
  | none =>
      rw [known.uncordoned name bn node isBn slotted isPrior stored]
      simp only [Option.some.injEq, cordonText_eq_false, reduceCtorEq,
        if_false]
      split_ifs with schedulable
      · exact schedulable.symm
      · rfl

theorem PriorsKnown.next
    {budget : Option Int} (known : PriorsKnown before)
    (records : c.ShowsRecords) (shows : c.ShowsCordons)
    (effect : LagEffect c budget entry.action before.world entry.after) :
    PriorsKnown (before.next entry) := by
  have slotless : ∀ name, entry.after.holdsSlot name = false →
      (before.next entry).priors name = none := by
    intro name free
    simp [Moment.next, free]
  refine ⟨slotless, ?_, ?_⟩
  · intro name bn prior stored slotted isPrior
    change entry.after.api.bootcNode name = some bn at stored
    have holds := holdsSlot_of_stored stored slotted
    have change := effect.cordonChange records name
    generalize isAction : entry.action = action at change
    cases change with
    | kept other same _ =>
        rw [before.next_priors entry holds
          (isAction ▸ Action.cordons_of_handles other)] at isPrior
        obtain ⟨old, isOld, slot, record⟩ := exists_of_slotRecord same stored
        rw [← record]
        exact known.cordoned name old prior isOld (slot.trans slotted) isPrior
    | restored _ _ same _ =>
        rw [before.next_priors entry holds (isAction ▸ rfl)] at isPrior
        exact known.cordoned name bn prior (same.symm.trans stored) slotted
          isPrior
    | cordoned isNode isBn _ same =>
        have isOld := same.symm.trans stored
        simp only [Moment.next, holds, isAction, Action.cordons] at isPrior
        cases isBefore : before.priors name with
        | some first =>
            rw [isBefore] at isPrior
            simp only [Bool.true_eq_false, if_false, decide_true,
              reduceCtorEq, and_false, Option.some.injEq] at isPrior
            exact isPrior ▸
              known.cordoned name bn first isOld slotted isBefore
        | none =>
            rw [isBefore, unschedulable_of_stored isNode] at isPrior
            simp only [Bool.true_eq_false, if_false, decide_true, and_self,
              if_true, Option.some.injEq] at isPrior
            exact isPrior ▸
              known.uncordoned name bn _ isOld slotted isBefore isNode
    | left free _ _ =>
        rw [free] at holds
        cases holds
    | assigned free _ _ _ _ =>
        rw [before.next_priors entry holds (isAction ▸ rfl),
          known.unslotted name free] at isPrior
        cases isPrior
  · intro name bn node stored slotted isPrior isNode
    change entry.after.api.bootcNode name = some bn at stored
    change entry.after.api.node name = some node at isNode
    have holds := holdsSlot_of_stored stored slotted
    have change := effect.cordonChange records name
    generalize isAction : entry.action = action at change
    cases change with
    | kept other same unschedulable =>
        rw [before.next_priors entry holds
          (isAction ▸ Action.cordons_of_handles other)] at isPrior
        obtain ⟨old, isOld, slot, record⟩ := exists_of_slotRecord same stored
        rw [unschedulable_of_stored isNode] at unschedulable
        obtain ⟨oldNode, isOldNode, cordon⟩ :=
          Option.map_eq_some_iff.mp unschedulable.symm
        rw [← record, ← cordon]
        exact known.uncordoned name old oldNode isOld (slot.trans slotted)
          isPrior isOldNode
    | @restored _ oldNode owner isOldNode record same unschedulable =>
        rw [before.next_priors entry holds (isAction ▸ rfl)] at isPrior
        have isOld := same.symm.trans stored
        rw [unschedulable_of_stored isNode, Option.some.injEq,
          known.restores isOldNode isOld slotted
            (record bn isOld slotted), isPrior] at unschedulable
        rw [unschedulable]
        exact known.uncordoned name bn oldNode isOld slotted isPrior isOldNode
    | cordoned isOldNode isBn _ same =>
        simp only [Moment.next, holds, isAction, Action.cordons] at isPrior
        cases isBefore : before.priors name with
        | some first => simp [isBefore] at isPrior
        | none => simp [isBefore, unschedulable_of_stored isOldNode] at isPrior
    | left free _ _ =>
        rw [free] at holds
        cases holds
    | @assigned _ new unschedulable _ isNew record shown sameNode =>
        obtain rfl := Option.some.inj (isNew.symm.trans stored)
        rw [shown shows node (sameNode.symm.trans isNode)]
        exact congrArg Prod.snd record

end Invariant

/-! ## Runs -/

/-- In a `Reconcile`, the BootcNode list shows the owners, the slots and their
records as the API server holds them, and the Node of a node that may take a
slot is read with the cordon it has.  Nobody else changes the cordon of a Node
between the moment its slot is taken and the operator's first cordon. -/
def ShowsPriors (r : BootcNodePoolReconciler) (s : LagRun) : LagAction → Prop
  | .reconcile env request _ _ =>
      (s.context r env request).ShowsSlots ∧
        (s.context r env request).ShowsRecords ∧
        (s.context r env request).ShowsCordons
  | .others w =>
      ∀ name node, s.now.world.holdsSlot name = true →
        s.now.priors name = none → w.api.node name = some node →
          s.now.world.unschedulable name = some node.unschedulable

/-- The record of every slot is the cordon state before the operator's first
cordon of it. -/
def RecordsPriors (moment : Moment) : Prop :=
  ∀ name bn prior, moment.world.api.bootcNode name = some bn →
    bn.inRebootSlot = true → moment.priors name = some prior →
      bn.annotations.known .wasCordoned = some (cordonText prior)

/-- A Node whose BootcNode holds a slot is restored to the state before the
operator's first cordon, and a slot is freed only when the cordon of the
operator is lifted. -/
structure RestoresPriors (before : Moment) (entry : Entry) : Prop where
  restored : ∀ name, entry.action = .wrote (.restoreNode name) →
    before.world.holdsSlot name = true →
    entry.after.unschedulable name =
      if before.priors name = some false then some false
      else before.world.unschedulable name
  freed : ∀ name, entry.action = .wrote (.freeSlot name) →
    before.priors name = some false →
    before.world.unschedulable name ≠ some true

theorem listsSlots_of_showsPriors
    {r : BootcNodePoolReconciler} {s : LagRun} {action : LagAction}
    (shows : ShowsPriors r s action) : ListsSlots r s action := by
  cases action with
  | reconcile env request _ _ => exact shows.1
  | others _ => trivial

theorem exists_of_holdsSlot (holds : w.holdsSlot name = true) :
    ∃ bn, w.api.bootcNode name = some bn ∧ bn.inRebootSlot = true := by
  unfold World.holdsSlot at holds
  cases stored : w.api.bootcNode name with
  | none => simp [stored] at holds
  | some bn => exact ⟨bn, rfl, by simpa [stored] using holds⟩

section Runs

variable {r : BootcNodePoolReconciler} {s s' : LagRun} {action : LagAction}

theorem PriorsKnown.restoresPriors
    {c : LagContext} {budget : Option Int} {before : Moment} {entry : Entry}
    (known : PriorsKnown before) (records : c.ShowsRecords)
    (effect : LagEffect c budget entry.action before.world entry.after) :
    RestoresPriors before entry := by
  constructor
  · intro name isRestore holds
    obtain ⟨bn, isBn, slotted⟩ := exists_of_holdsSlot holds
    have change := effect.cordonChange records name
    rw [isRestore] at change
    generalize isAction : Action.wrote (.restoreNode name) = action at change
    cases change with
    | kept other _ _ => simp [← isAction, Action.handles] at other
    | restored stored record _ unschedulable =>
        rw [unschedulable, known.restores stored isBn slotted
          (record bn isBn slotted), unschedulable_of_stored stored]
        split_ifs <;> rfl
    | cordoned _ _ _ _ => cases isAction
    | left _ _ other => exact absurd isAction.symm other
    | assigned _ _ _ _ _ => cases isAction
  · intro name isFree isPrior
    have holds : before.world.holdsSlot name = true := by
      by_contra free
      rw [known.unslotted name (by simpa using free)] at isPrior
      cases isPrior
    obtain ⟨bn, isBn, slotted⟩ := exists_of_holdsSlot holds
    have lifts := known.cordoned name bn false isBn slotted isPrior
    have change := effect.cordonChange records name
    rw [isFree] at change
    generalize isAction : Action.wrote (.freeSlot name) = action at change
    cases change with
    | kept other _ _ => simp [← isAction, Action.handles] at other
    | restored _ _ _ _ => cases isAction
    | cordoned _ _ _ _ => cases isAction
    | left _ uncordoned _ =>
        have isUncordoned := uncordoned isAction.symm bn isBn
        intro cordoned
        obtain ⟨node, stored, isCordoned⟩ :=
          Option.map_eq_some_iff.mp cordoned
        have lifted := isUncordoned node stored lifts
        rw [isCordoned] at lifted
        cases lifted
    | assigned _ _ _ _ _ => cases isAction

/-- The other actors keep what the record tells. -/
theorem Concurrent.priorsKnown
    (concurrent : Concurrent s w) (shows : ShowsPriors r s (.others w))
    (known : PriorsKnown s.now) :
    PriorsKnown (s.others w).now := by
  unfold LagRun.others
  refine ⟨fun name free => by simp [free], ?_, ?_⟩
  · intro name bn prior stored slotted isPrior
    simp only [holdsSlot_of_stored stored slotted, if_true] at isPrior
    obtain ⟨old, isOld, _, record⟩ := concurrent.bootcNode name bn stored
    have slot : old.inRebootSlot = true :=
      (congrArg Prod.fst record).symm.trans slotted
    have sameRecord : bn.annotations.known .wasCordoned =
        old.annotations.known .wasCordoned := congrArg Prod.snd record
    rw [sameRecord]
    exact known.cordoned name old prior isOld slot isPrior
  · intro name bn node stored slotted isPrior isNode
    simp only [holdsSlot_of_stored stored slotted, if_true] at isPrior
    obtain ⟨old, isOld, _, record⟩ := concurrent.bootcNode name bn stored
    have slot : old.inRebootSlot = true :=
      (congrArg Prod.fst record).symm.trans slotted
    have sameRecord : bn.annotations.known .wasCordoned =
        old.annotations.known .wasCordoned := congrArg Prod.snd record
    have unchanged := shows name node (holdsSlot_of_stored isOld slot)
      isPrior isNode
    obtain ⟨oldNode, isOldNode, cordon⟩ :=
      Option.map_eq_some_iff.mp unchanged
    rw [sameRecord, ← cordon]
    exact known.uncordoned name old oldNode isOld slot isPrior isOldNode

/-- The invariant holds at every moment a read may come from. -/
structure PriorsRecorded (s : LagRun) : Prop where
  versioned : s.Versioned
  known : ∀ moment ∈ s.moments, PriorsKnown moment

theorem PriorsRecorded.now (recorded : PriorsRecorded s) :
    PriorsKnown s.now :=
  recorded.known s.now (by simp [LagRun.moments])

theorem PriorsRecorded.step
    (recorded : PriorsRecorded s) (stepped : LagStepped r s action s')
    (shows : ShowsPriors r s action) : PriorsRecorded s' := by
  refine ⟨stepped.versioned recorded.versioned, ?_⟩
  cases stepped with
  | @reconcile _ _ _ _ log _ effects =>
      obtain ⟨during, final⟩ := Moment.invariant_of_trace PriorsKnown
        (fun before entry member known => by
          obtain ⟨_, _, effect⟩ := effects before entry member
          exact known.next shows.2.1 shows.2.2 effect) recorded.now
      intro moment member
      simp only [LagRun.moments, List.append_assoc, List.mem_append,
        List.mem_map, List.mem_singleton] at member
      rcases member with earlier | ⟨⟨before, entry⟩, isStep, rfl⟩ | rfl
      · exact recorded.known moment (by simp [LagRun.moments, earlier])
      · exact during before entry isStep
      · exact final
  | others concurrent =>
      intro moment member
      rcases List.mem_append.mp member with earlier | isNow
      · exact recorded.known moment earlier
      · rw [List.mem_singleton.mp isNow]
        exact concurrent.priorsKnown shows recorded.now

/-- In a run that starts without slots and whose reads show the slots and, at
the assignment of one, the cordon, `was-cordoned` is at every moment of a slot
the cordon state before the operator's first cordon of that slot; so a pass
lifts exactly the cordons of the operator, and before it frees the slot. -/
theorem cordon_record_under_lag
    (r : BootcNodePoolReconciler) {w : World} {actions : List LagAction}
    {s : LagRun} (unslotted : ∀ name, w.holdsSlot name = false)
    (path : (lagMachine r).Path
      (fun s action => WatchCaches s action ∧ ShowsPriors r s action)
      (.start w) actions s) :
    (∀ moment ∈ s.moments, RecordsPriors moment) ∧
      ∀ env request bootcNodeCache nodeCache,
        WatchCaches s (.reconcile env request bootcNodeCache nodeCache) →
        ShowsPriors r s (.reconcile env request bootcNodeCache nodeCache) →
        ∀ before entry,
          (before, entry) ∈ s.now.trace
            (r.reconcile env request (.start s.now.world)).2.log →
          RestoresPriors before entry := by
  have start : PriorsRecorded (.start w) := by
    refine ⟨LagRun.versioned_start w, fun moment member => ?_⟩
    obtain rfl : moment = ⟨w, fun _ => none⟩ := List.mem_singleton.mp member
    refine ⟨fun _ _ => rfl, ?_, ?_⟩
    · intro _ _ _ _ _ isPrior
      cases isPrior
    · intro name bn _ stored slotted
      have holds := holdsSlot_of_stored stored slotted
      rw [unslotted name] at holds
      cases holds
  have recorded : PriorsRecorded s := by
    refine path.invariant PriorsRecorded ?_ start
    intro s action s' holds meets stepped
    exact holds.step (lagStepped_of_step holds.versioned meets.1
      (listsSlots_of_showsPriors meets.2) stepped) meets.2
  refine ⟨fun moment member => (recorded.known moment member).cordoned, ?_⟩
  intro env request bootcNodeCache nodeCache cached shows before entry member
  have explained := s.explained r request recorded.versioned cached shows.1
  have effects : ∀ before entry, (before, entry) ∈ s.now.trace
      (r.reconcile env request (.start s.now.world)).2.log →
      ∃ budget, LagEffect (s.context r env request) budget entry.action
        before.world entry.after := by
    intro before entry isStep
    obtain ⟨budget, _, effect⟩ := explained.effect before.world entry
      (Moment.transition_of_trace isStep)
    exact ⟨budget, effect⟩
  have known := (Moment.invariant_of_trace PriorsKnown
    (fun before entry isStep known => by
      obtain ⟨_, effect⟩ := effects before entry isStep
      exact known.next shows.2.1 shows.2.2 effect)
    recorded.now).1 before entry member
  obtain ⟨_, effect⟩ := effects before entry member
  exact known.restoresPriors shows.2.1 effect

end Runs

theorem unslotted_of_within
    {names : List String} (within : w.Within names)
    (free : ∀ name ∈ names, w.holdsSlot name = false) :
    ∀ name, w.holdsSlot name = false := by
  intro name
  by_contra holds
  obtain ⟨bn, stored, _⟩ := exists_of_holdsSlot (by simpa using holds)
  exact holds (free name (within.bootcNode name (by simp [stored])))

theorem freshRun_wrote :
    (osReconciler.reconcile
      (.listing ["n1", "n2"] twoStaged.world.api.bootcNode) "workers"
      (.start twoStaged.world)).2.log ≠ [] := by
  have wrote : (osReconciler.reconcile
      (.listing ["n1", "n2"] twoStaged.world.api.bootcNode) "workers"
      (.start twoStaged.world)).2.log.isEmpty = false := by
    decide +kernel
  exact List.isEmpty_eq_false_iff.mp wrote

/-- The slot of a pass with fresh reads is recorded with the state before its
cordon. -/
theorem cordon_record_under_lag_fresh :
    freshRun.now.priors "n1" = some false ∧
      ∀ bn, freshRun.now.world.api.bootcNode "n1" = some bn →
        bn.inRebootSlot = true →
          bn.annotations.known .wasCordoned = some "false" := by
  have path : (lagMachine osReconciler).Path
      (fun s action => WatchCaches s action ∧
        ShowsPriors osReconciler s action)
      (.start twoStaged.world)
      [.reconcile (.listing ["n1", "n2"] twoStaged.world.api.bootcNode)
        "workers" 0 0] freshRun := by
    refine .cons ⟨freshRun_cached, fun _ => rfl, fun _ => rfl, ?_⟩
      (lagMachine_reconcile _ _ _ _ (by decide)) (.nil _)
    intro name cluster node server _ _ shown stored
    change ((Env.listing ["n1", "n2"] twoStaged.world.api.bootcNode).view
      (.getCandidate name) cluster).node name = some node at shown
    rw [Env.listing_node] at shown
    obtain rfl := Option.some.inj (shown.symm.trans stored)
    rfl
  have isPrior : freshRun.now.priors "n1" = some false := by decide +kernel
  refine ⟨isPrior, fun bn stored slotted => ?_⟩
  exact (cordon_record_under_lag osReconciler (unslotted_of_within
    twoStaged_within (by decide)) path).1 freshRun.now
    (by simp [LagRun.moments]) "n1" bn false stored slotted isPrior

/-! ## A list from before the slot -/

/-- A second `Reconcile` whose list does not show the slot of the first. -/
def rerecordedRun : LagRun :=
  freshRun.reconciled osReconciler
    (.listing ["n1", "n2"] twoStaged.world.api.bootcNode) "workers" 0 0

/-- The node holds its slot all the time, but the second pass records the
cordon of the first: the record says "true" where the Node was schedulable
before the operator cordoned it. -/
theorem lagging_list_rerecords_cordon :
    (∀ name, twoStaged.world.holdsSlot name = false) ∧
      ∃ actions s bn,
        (lagMachine osReconciler).Path WatchCaches (.start twoStaged.world)
          actions s ∧
        s.now.world.api.bootcNode "n1" = some bn ∧
        bn.inRebootSlot = true ∧ s.now.priors "n1" = some false ∧
        bn.annotations.known .wasCordoned = some "true" := by
  have marks : (rerecordedRun.now.world.api.bootcNode "n1").map
      BootcNode.slotRecord = some (true, some "true") := by
    decide +kernel
  obtain ⟨bn, stored, record⟩ := Option.map_eq_some_iff.mp marks
  refine ⟨unslotted_of_within twoStaged_within (by decide),
    [.reconcile (.listing ["n1", "n2"] twoStaged.world.api.bootcNode)
        "workers" 0 0,
      .reconcile (.listing ["n1", "n2"] twoStaged.world.api.bootcNode)
        "workers" 0 0], rerecordedRun, bn,
    .cons freshRun_cached (lagMachine_reconcile _ _ _ _ (by decide))
      (.cons ?_ (lagMachine_reconcile _ freshRun _ _ (by decide)) (.nil _)),
    stored, congrArg Prod.fst record, by decide +kernel,
    congrArg Prod.snd record⟩
  refine cached_listing ⟨_, getElem?_moments_reconciled rfl freshRun_wrote,
    rfl⟩ fun name present => ?_
  exact present.elim (twoStaged_within.bootcNode name)
    (node_of_reconciled (LagRun.versioned_start _) freshRun_cached
      (fun _ => rfl) twoStaged_within.node name)

end BootcOperator
