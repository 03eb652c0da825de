import BootcOperator.Effects.Rollout
import BootcOperator.Lag.Membership

/-!
# The rollout with lagging reads

The rules of `driveRollout` for a pass whose reads lag.  The slots in memory
are those of the API server, so `occupiedSlots` does not count too few, and a
node without a slot is assigned one only while there is room.
-/

namespace BootcOperator

open Program

namespace BootcNodePoolReconciler

section Drains

variable {c : LagContext} {freed : Set String} {name : String}

theorem aside_recordNodeEvent (type : EventType) (reason action : String)
    (eventNote : EventNote) :
    Aside c (recordNodeEvent name type reason action eventNote) :=
  Moves.bind (Moves.read _) fun _ => aside_note rfl

theorem lag_markObserved {bn : BootcNode} {observation : String} :
    (lagRegime c).Follows
      (fun s => Lags c ∅ freed s ∧ s.owned name = some bn)
      (markObserved c.env name bn observation)
      (fun _ => Lags c ∅ freed) AnyError := by
  have kept (key : BootcNodeKey) (other : key ≠ .lastObservedState) :
      (bn.annotations.set .lastObservedState observation).known key =
        bn.annotations.known key := by
    simp [other]
  have patched : (lagRegime c).Follows
      (fun s => Lags c ∅ freed s ∧ s.owned name = some bn)
      (Pass.patchBootcNode c.env (.markObserved name) name bn
        { bn with
          annotations := bn.annotations.set .lastObservedState observation })
      (fun _ => Lags c ∅ freed) (fun _ => Lags c ∅ freed) :=
    lag_patchBootcNode ((Lags.steady c ∅ freed).and (.owned _))
      (fun _ _ _ before => before.1) rfl (kept _ (by simp))
      (kept _ (by simp)) fun s server before stored =>
        before.1.merged before.2 stored (kept _ (by simp))
          (kept _ (by simp)) _
  refine .bind (.attempt patched) fun result => .ret fun s after => ?_
  cases result <;> exact after

theorem lag_recordNodeEvents :
    (lagRegime c).Follows (Lags c ∅ freed) (recordNodeEvents c.env)
      (fun _ => Lags c ∅ freed) AnyError := by
  refine .forEach_keeps fun name _ => .bindRead fun found => ?_
  cases found with
  | none => exact .ret fun _ before => before.1
  | some bn =>
      refine .ite (fun _ => .ret fun _ before => before.1) fun _ => ?_
      split
      · exact .bind ((aside_recordNodeEvent _ _ _ _).follows
          ((Lags.steady c ∅ freed).and (.owned _)) fun _ _ _ => trivial)
          fun _ => lag_markObserved
      · exact lag_markObserved

theorem aside_forgetDrain (name : String) : Aside c (forgetDrain name) :=
  Moves.update fun _ => .perform rfl rfl rfl

theorem lag_approveReboot {bn : BootcNode} :
    (lagRegime c).Follows
      (fun s => Lags c ∅ freed s ∧ s.owned name = some bn)
      (approveReboot c.env name bn) (fun _ => Lags c ∅ freed)
      AnyError := by
  have steady : Steady fun s =>
      Lags c ∅ freed s ∧ s.owned name = some bn :=
    (Lags.steady c ∅ freed).and (.owned _)
  have forgotten (e : ApiError) (pre : PassState → Prop) :
      (lagRegime c).Follows pre
        (do forgetDrain name; Program.fail e : Pass Unit)
        (fun _ => Lags c ∅ freed) AnyError :=
    .bindVia (fun _ _ => True) (.weaken
      ((aside_forgetDrain name).follows (fun _ _ _ _ => trivial)
        fun _ _ _ => trivial) fun _ _ => trivial)
      fun _ => .fail fun _ _ => trivial
  refine .bindVia (fun _ s => Lags c ∅ freed s ∧ s.owned name = some bn)
    (Aside.follows (Moves.attempt (aside_sendWrite _)) steady
      fun _ _ _ => trivial)
    fun result => ?_
  cases result with
  | error e => exact forgotten e _
  | ok _ =>
      refine .bindRead fun found => ?_
      cases found with
      | none => exact forgotten _ _
      | some server =>
          let approved := { bn with
            spec := { bn.spec with desiredImageState := .booted } }
          refine .step (fun s before => ?_) fun s before => ?_
          · exact .act (.patchBootcNode rfl before.2
              (BootcNode.merge_ownerReferences bn approved server)
              (BootcNode.merge_slotRecord rfl rfl server) rfl rfl)
          · have same (key : BootcNodeKey) :
                approved.annotations.known key = bn.annotations.known key :=
              rfl
            have merged := before.1.1.merged before.1.2 before.2
              (same .inRebootSlot) (same .wasCordoned) (.approve name)
            refine Lags.steady c ∅ freed _ _ ?_ merged
            exact ⟨⟨⟨rfl, rfl, rfl, rfl⟩, rfl, rfl, rfl, rfl⟩, rfl⟩

theorem lag_collectDrainResults :
    (lagRegime c).Follows (Lags c ∅ freed) (collectDrainResults c.env)
      (fun _ => Lags c ∅ freed) AnyError := by
  have forget (name : String) : (lagRegime c).Follows (Lags c ∅ freed)
      (forgetDrain name) (fun _ => Lags c ∅ freed) AnyError :=
    (aside_forgetDrain name).follows (Lags.steady c ∅ freed)
      fun _ _ _ => trivial
  refine .forEach_keeps fun name _ => .bindReadAny fun entry => ?_
  cases entry with
  | none => exact .ret fun _ before => before
  | some status =>
      simp only
      cases status.outcome with
      | running => exact .ret fun _ before => before
      | failed err =>
          refine .bindReadAny fun owned => .ite (fun _ => ?_)
            fun _ => forget name
          have report : Aside c (reportFailedDrain name err) :=
            Moves.bind (Moves.read _) fun _ =>
              Moves.update fun _ => .perform rfl rfl rfl
          exact report.follows (Lags.steady c ∅ freed) fun _ _ _ => trivial
      | succeeded =>
          refine .bindRead fun owned => ?_
          cases owned with
          | none => exact (forget name).weaken fun _ before => before.1
          | some bn => exact .mapError lag_approveReboot

end Drains

/-! ## Counting slots -/

/-- At most `n` nodes of the pool hold a slot; the nodes whose slot may be
freed are not those that may get one. -/
structure Tally (c : LagContext) (freed : Set String) (n : Nat)
    (s : PassState) : Prop where
  atMost : (slottedNodes c.pool s.world.api).encard ≤ n
  done : ∀ name ∈ s.rs.upToDate, name ∈ freed
  apart : ∀ name ∈ s.rs.staged, name ∉ freed

/-- `occupiedSlots` bounds the slots that are taken. -/
def Counted (c : LagContext) (freed : Set String) (s : PassState) : Prop :=
  ∃ n : Nat, s.rs.occupiedSlots = n ∧ Tally c freed n s

section Counting

variable {c : LagContext} {freed : Set String} {n : Nat} {s : PassState}
  {name : String}

theorem Tally.recorded (c : LagContext) (freed : Set String) (n : Nat) :
    Recorded (Tally c freed n) := by
  intro s s' records tally
  refine ⟨?_, records.upToDate ▸ tally.done, records.staged ▸ tally.apart⟩
  rw [slottedNodes_congr records.bootcNode]
  exact tally.atMost

theorem Counted.recorded (c : LagContext) (freed : Set String) :
    Recorded (Counted c freed) := by
  rintro s s' records ⟨n, isCount, tally⟩
  exact ⟨n, records.occupiedSlots.trans isCount,
    Tally.recorded c freed n s s' records tally⟩

theorem Tally.mono {n' : Nat} (tally : Tally c freed n s) (more : n ≤ n') :
    Tally c freed n' s :=
  ⟨tally.atMost.trans (by exact_mod_cast more), tally.done, tally.apart⟩

theorem Tally.patched
    (tally : Tally c freed n s) {server stored : BootcNode} (call : Call)
    (isServer : s.world.api.bootcNode name = some server)
    (owners : stored.ownerReferences = server.ownerReferences)
    (slot : stored.inRebootSlot = server.inRebootSlot) :
    Tally c freed n (s.patched call name stored) := by
  refine ⟨?_, tally.done, tally.apart⟩
  have same : slottedNodes c.pool (s.patched call name stored).world.api =
      slottedNodes c.pool s.world.api :=
    slottedNodes_putBootcNode_of_same c.pool isServer
      (isControlledBy_congr owners c.pool) slot
  rw [same]
  exact tally.atMost

theorem Tally.taken
    (tally : Tally c freed n s) (call : Call) (stored : BootcNode) :
    Tally c freed (n + 1) (s.patched call name stored) := by
  refine ⟨?_, tally.done, tally.apart⟩
  refine (Set.encard_le_encard
    (slottedNodes_putBootcNode_subset_insert c.pool s.world name _)).trans ?_
  refine (Set.encard_insert_le _ _).trans ?_
  rw [Nat.cast_add, Nat.cast_one]
  exact add_le_add_left tally.atMost 1

theorem Tally.released
    (tally : Tally c freed n s) (call : Call) {stored : BootcNode}
    (slotted : name ∈ slottedNodes c.pool s.world.api)
    (free : stored.inRebootSlot = false) :
    ∃ k, n = k + 1 ∧ Tally c freed k (s.patched call name stored) := by
  obtain ⟨k, isSucc, fewer⟩ := encard_sdiff_singleton_le slotted tally.atMost
  refine ⟨k, isSucc, ?_, tally.done, tally.apart⟩
  have freedSet : slottedNodes c.pool (s.patched call name stored).world.api =
      slottedNodes c.pool s.world.api \ {name} :=
    slottedNodes_putBootcNode_of_free c.pool s.world name free
  rw [freedSet]
  exact fewer

/-- The classification counts every slot. -/
theorem lag_classifyNodes :
    (lagRegime c).Follows (Lags c ∅ ∅) (c.reconciler.classifyNodes c.env)
      (fun _ s => ∃ freed, Lags c ∅ freed s ∧ Counted c freed s)
      AnyError := by
  refine .update (fun _ _ => rfl) fun s lags => ?_
  let rs := buildRolloutState c.reconciler.references s.owned
    (c.env.order .classification)
  let timed := applyRebootTimeouts s.owned (resolveRebootTimeout s.pool)
    c.env.now rs
  have sorted : Sorted c.reconciler.references s.owned
      (c.env.order .classification) timed :=
    (sorted_buildRolloutState _ _ _).applyRebootTimeouts _ _
  have buckets : timed.upToDate = rs.upToDate ∧ timed.staged = rs.staged := by
    unfold timed BootcOperator.applyRebootTimeouts
    split <;> exact ⟨rfl, rfl⟩
  refine ⟨{name | name ∈ timed.upToDate}, ?_, _, sorted.occupied, ?_, ?_, ?_⟩
  · refine (lags.free : Lags c ∅ _ s).of_sameMemory ⟨?_, ?_, rfl, rfl⟩
      lags.versions fun _ _ _ _ _ _ => rfl
    · dsimp only
      split
      · exact ((BootcNodePool.SameTarget.refl s.pool).setPoolDegraded
          _ _ _).uid
      · rfl
    · dsimp only
      split
      · exact ((BootcNodePool.SameTarget.refl s.pool).setPoolDegraded
          _ _ _).spec
      · rfl
  · refine encard_le_of_counted fun name slotted => ?_
    have present := lags.slots name (by simp) slotted
    obtain ⟨bn, owned⟩ := Option.ne_none_iff_exists'.mp present
    have slot := (lags.known name bn (by simp) owned).inRebootSlot.mp slotted
    exact ⟨lags.reached name present, by simp [slottedWith, owned, slot]⟩
  · exact fun name member => member
  · intro name staged upToDate
    change name ∈ timed.staged at staged
    change name ∈ timed.upToDate at upToDate
    rw [buckets.2] at staged
    rw [buckets.1] at upToDate
    exact not_mem_upToDate_of_mem_staged staged upToDate

end Counting

section Freeing

variable {c : LagContext} {freed : Set String} {name : String}
  {bn : BootcNode} {node : Node}

theorem merge_freedAnnotations
    (slotted : bn.inRebootSlot = true) (server : BootcNode) :
    (bn.merge { bn with annotations := freedAnnotations bn.annotations }
      server).inRebootSlot = false := by
  unfold BootcNode.inRebootSlot Annotations.has at *
  rw [BootcNode.merge_known]
  obtain ⟨text, isText⟩ := Option.isSome_iff_exists.mp slotted
  simp [freedAnnotations, mergeField, isText]

theorem lag_freeRebootSlot
    (done : name ∈ freed) (slotted : bn.inRebootSlot = true) :
    (lagRegime c).Follows
      (fun s => ((Lags c ∅ freed s ∧ Counted c freed s) ∧
        s.owned name = some bn) ∧ Genuine name node s)
      (freeRebootSlot c.env name bn node)
      (fun _ s => Lags c ∅ freed s ∧ Counted c freed
        { s with
          rs := { s.rs with occupiedSlots := s.rs.occupiedSlots - 1 } })
      AnyError := by
  have recorded : Recorded fun s =>
      (Counted c freed s ∧ s.owned name = some bn) ∧ Held c name bn s :=
    ((Counted.recorded c freed).and (.owned name _)).and
      (Held.recorded c name bn)
  refine .bindVia
    (fun _ s => (Lags c ∅ freed s ∧
      (Counted c freed s ∧ s.owned name = some bn) ∧ Held c name bn s) ∧
        Lifted name bn.annotations s)
    (.conseq (lag_restoreNodeState recorded (.inr done) ?_)
      (fun s before => ⟨⟨before.1.1.1, ⟨before.1.1.2, before.1.2⟩,
        before.1.1.1.held before.1.2⟩, before.2⟩)
      (fun _ _ after => ⟨after.1.1, after.2⟩) fun _ _ after => after)
    fun _ => .mapError ?_
  · intro shows s server before stored _
    exact ((before.2 server stored).cordon shows).symm
  · refine follows_patchBootcNode_merged
      (((Lags.steady c ∅ freed).and recorded.steady).and
        (Lifted.steady bn.annotations)).ignoresIssued
      (fun _ _ _ _ _ => trivial) (fun _ _ _ _ _ => trivial) ?_ ?_
    · intro s server before stored
      have same := before.1.2.2 server stored
      refine .act (.freeSlot stored
        (BootcNode.merge_ownerReferences bn _ server)
        (merge_freedAnnotations slotted server) ?_)
      intro shows node isNode lifts
      exact before.2 node isNode ((same.cordon shows).symm.trans lifts)
    · rintro s server ⟨⟨lags, ⟨⟨n, isCount, tally⟩, owned⟩, held⟩, _⟩ stored
      have isSlotted := (lags.known name bn (by simp) owned).inRebootSlot.mpr
        slotted
      obtain ⟨k, isSucc, fewer⟩ := tally.released (.freeSlot name) isSlotted
        (merge_freedAnnotations slotted server)
      refine ⟨lags.patched owned stored rfl fun _ notDone =>
        absurd done notDone, k, ?_, fewer.atMost, fewer.done, fewer.apart⟩
      change s.rs.occupiedSlots - 1 = k
      omega

theorem lag_removeOsNotReady :
    (lagRegime c).Follows
      (fun s => ((Lags c ∅ freed s ∧ Counted c freed s) ∧
        s.owned name = some bn) ∧ Genuine name node s)
      (node |> removeOsNotReadyTaintAndAnnotation c.env name bn)
      (fun _ s => Lags c ∅ freed s ∧ Counted c freed s) AnyError := by
  have recorded : Recorded fun s =>
      Counted c freed s ∧ s.owned name = some bn :=
    (Counted.recorded c freed).and (.owned name _)
  have steady := (Lags.steady c ∅ freed).and recorded.steady
  have kept (key : BootcNodeKey) (other : key ≠ .ownsOsNotReadyTaint) :
      (bn.annotations.delete .ownsOsNotReadyTaint).known key =
        bn.annotations.known key := by
    simp [other]
  refine .bindVia (fun _ s => Lags c ∅ freed s ∧ Counted c freed s ∧
    s.owned name = some bn) ?_ fun _ => ?_
  · refine .ite (fun _ => ?_) fun _ => .ret fun _ before =>
      ⟨before.1.1.1, before.1.1.2, before.1.2⟩
    refine .bind (.mapError (.weaken (lag_patchNode AnyError.tolerant steady
      (Lags.ignoresLabels recorded) rfl rfl) fun s before =>
        ⟨⟨before.1.1.1, before.1.1.2, before.1.2⟩, before.2⟩)) fun _ =>
      .ret fun _ after => after.1
  · refine .ite (fun _ => .mapError ?_) fun _ => .ret fun _ before =>
      ⟨before.1, before.2.1⟩
    refine lag_patchBootcNode steady (fun _ _ _ _ => trivial) rfl
      (kept _ (by simp)) (kept _ (by simp)) ?_
    rintro s server ⟨lags, ⟨n, isCount, tally⟩, owned⟩ stored
    have record : (bn.merge { bn with
        annotations := bn.annotations.delete .ownsOsNotReadyTaint }
        server).slotRecord = server.slotRecord :=
      BootcNode.merge_slotRecord (kept _ (by simp)) (kept _ (by simp)) server
    exact ⟨lags.merged owned stored (kept _ (by simp)) (kept _ (by simp)) _,
      n, isCount, tally.patched _ stored rfl (congrArg Prod.fst record)⟩

theorem lag_freeCompletedSlot
    (serves : c.ServesNodes) (done : name ∈ freed) :
    (lagRegime c).Follows
      (fun s => Lags c ∅ freed s ∧ Counted c freed s)
      (freeCompletedSlot c.env name)
      (fun _ s => Lags c ∅ freed s ∧ Counted c freed s) AnyError := by
  refine .bindRead fun found => ?_
  cases found with
  | none => exact .ret fun _ before => before.1
  | some bn =>
      refine .ite (fun _ => ?_) fun _ => .ret fun _ before => before.1
      refine .bindVia
        (fun node s => ((Lags c ∅ freed s ∧ Counted c freed s) ∧
          s.owned name = some bn) ∧ Genuine name node s)
        (.mapError (.conseq (follows_get_view (fun _ _ _ _ _ => trivial)
          fun _ _ _ _ _ => trivial)
          (fun _ before => before)
          (fun node s after => ⟨after.1, Lags.genuine
            after.1.1.1.versions serves (by simp) after.2⟩)
          fun _ _ after => after)) fun node => ?_
      refine .ite (fun _ => .ret fun _ before => before.1.1) fun _ => ?_
      refine .ite (fun slotted => ?_) fun _ => .mapError lag_removeOsNotReady
      exact .bind (.mapError (lag_freeRebootSlot done slotted)) fun _ =>
        .update (fun _ _ => rfl) fun s after =>
          ⟨after.1.setRs _, after.2⟩

theorem lag_freeCompletedSlots (serves : c.ServesNodes) :
    (lagRegime c).Follows
      (fun s => Lags c ∅ freed s ∧ Counted c freed s)
      (freeCompletedSlots c.env)
      (fun _ s => Lags c ∅ freed s ∧ Counted c freed s) AnyError := by
  refine .bindReadOf (fun rs => ∀ name ∈ rs.upToDate, name ∈ freed)
    (fun s before => ?_) fun rs done => ?_
  · obtain ⟨n, _, tally⟩ := before.2
    exact tally.done
  · exact .weaken (.forEach_keeps fun name member =>
      lag_freeCompletedSlot serves (done name member))
      fun _ before => before.1

end Freeing

section Plan

variable {bn : BootcNode} (node : Node) (claim : Option NodeClaim)

theorem slotPlan_wasCordoned :
    (slotPlan bn node claim).bootcNode.known .wasCordoned =
      if bn.inRebootSlot then bn.annotations.known .wasCordoned
      else some (cordonText node.unschedulable) := by
  rw [slotPlan_bootcNode_known bn node claim (by simp) (by simp) (by simp)
    (by simp)]
  unfold slotAnnotations
  dsimp only
  split_ifs <;> simp [cordonText, *]

theorem merge_slotPlan_inRebootSlot
    {server : BootcNode} (slot : server.inRebootSlot = bn.inRebootSlot) :
    (bn.merge { bn with annotations := (slotPlan bn node claim).bootcNode }
      server).inRebootSlot = true := by
  have planned := slotPlan_inRebootSlot bn node claim
  unfold BootcNode.inRebootSlot Annotations.has at *
  rw [BootcNode.merge_known]
  unfold mergeField
  dsimp only
  split_ifs with same
  · rw [slot, same]
    exact planned
  · exact planned

theorem merge_slotPlan_wasCordoned
    (server : BootcNode)
    (cordon : bn.inRebootSlot = false →
      server.annotations.known .wasCordoned =
        bn.annotations.known .wasCordoned) :
    (bn.merge { bn with annotations := (slotPlan bn node claim).bootcNode }
      server).annotations.known .wasCordoned =
        if bn.inRebootSlot then server.annotations.known .wasCordoned
        else some (cordonText node.unschedulable) := by
  rw [BootcNode.merge_known]
  dsimp only
  rw [slotPlan_wasCordoned]
  unfold mergeField
  by_cases slotted : bn.inRebootSlot = true
  · simp [slotted]
  · rw [if_neg slotted]
    split_ifs with same
    · rw [cordon (by simpa using slotted), same]
    · rfl

end Plan

/-- The Node of a node without a slot was read with the cordon state it
has. -/
def Shown (c : LagContext) (name : String) (bn : BootcNode) (node : Node)
    (s : PassState) : Prop :=
  bn.inRebootSlot = false → c.ShowsCordons →
    ∀ server, s.world.api.node name = some server →
      server.unschedulable = node.unschedulable

/-- What the assignment of a slot relies on. -/
structure LagAssigns (c : LagContext) (m : Int) (name : String)
    (base next : PassState → Prop) : Prop where
  recorded : Recorded base
  recordedNext : Recorded next
  resolved : ∀ s, base s → s.maxUnavail = some m
  room : ∀ s bn, base s → s.owned name = some bn →
    bn.inRebootSlot = false →
    (slottedNodes c.pool s.world.api).encard < (m.toNat : ℕ∞)
  kept : ∀ s bn, base s → s.owned name = some bn →
    bn.inRebootSlot = true → next s
  taken : ∀ s bn server stored, base s → s.owned name = some bn →
    s.world.api.bootcNode name = some server →
    server.inRebootSlot = bn.inRebootSlot →
    stored.ownerReferences = server.ownerReferences →
    stored.inRebootSlot = true →
    next (s.patched (.assignSlot name) name stored)

section Assigning

variable {c : LagContext} {freed : Set String} {m : Int} {name : String}
  {bn : BootcNode} {node : Node} {base next : PassState → Prop}

theorem Shown.steady : Steady (Shown c name bn node) :=
  fun _ _ calm shown free shows server stored =>
    shown free shows server (calm.node ▸ stored)

theorem HoldsSlot.recorded (name : String) : Recorded (HoldsSlot name) := by
  rintro s s' records ⟨bn, owned, slotted⟩
  exact ⟨bn, (congrFun records.owned name).trans owned, slotted⟩

theorem shown_of_lags
    {s : PassState} (lags : Lags c ∅ freed s) (apart : name ∉ freed)
    (owned : s.owned name = some bn)
    (isShown : (c.env.view (.getCandidate name) s.world.api).node name =
      some node) : Shown c name bn node s := by
  intro free shows server stored
  have untouched := lags.untouched name bn (by simp) owned free apart
  exact (shows name s.world.api node server untouched.unslotted
    untouched.unschedulable isShown stored).symm

theorem aside_claimToFence (prefetched : Option (String × NodeClaim)) :
    Aside c (claimToFence c.env name node prefetched) := by
  refine Moves.ite ?_ (Moves.ret _)
  cases prefetched with
  | some claim => exact Moves.ret _
  | none =>
      refine Moves.bind (aside_getKarpenterNodeClaim _ node).mapError
        fun result => ?_
      cases result with
      | absent => exact Moves.fail _
      | crdMissing => exact Moves.ret _
      | noRef => exact Moves.ret _
      | found claimName claim => exact Moves.ret _

theorem aside_fenceClaim (claim : Option (String × NodeClaim))
    (planned : Option (Annotations KarpenterKey)) :
    Aside c (fenceClaim c.env name claim planned) := by
  unfold fenceClaim
  split
  · exact Moves.ite (aside_patchNodeClaim rfl _ _ _).mapError (Moves.ret _)
  · exact Moves.ret _

variable (assigns : LagAssigns c m name base next)

include assigns in
/-- A slot is recorded once, with the cordon state of the Node that was
read. -/
theorem lag_annotateSlot {claim : Option NodeClaim} :
    (lagRegime c).Follows
      (fun s => (((Lags c ∅ freed s ∧ base s) ∧ s.owned name = some bn) ∧
        Genuine name node s) ∧ Shown c name bn node s)
      (annotateSlot c.env name bn (slotPlan bn node claim).bootcNode)
      (fun _ s => ((Lags c ∅ freed s ∧ next s) ∧ HoldsSlot name s) ∧
        Genuine name node s) AnyError := by
  have steady : Steady fun s =>
      (((Lags c ∅ freed s ∧ base s) ∧ s.owned name = some bn) ∧
        Genuine name node s) ∧ Shown c name bn node s :=
    ((((Lags.steady c ∅ freed).and assigns.recorded.steady).and
      (.owned _)).and (Genuine.steady node)).and Shown.steady
  refine .ite (fun _ => .mapError ?_) fun unchanged => ?_
  · refine follows_patchBootcNode_merged steady.ignoresIssued
      (fun _ _ _ _ _ => trivial) (fun _ _ _ _ _ => trivial) ?_ ?_
    · rintro s server ⟨⟨⟨⟨lags, holds⟩, owned⟩, _⟩, shown⟩ stored
      have same := lags.held owned server stored
      have slot := same.slot
      have taken := merge_slotPlan_inRebootSlot node claim slot
      cases isSlotted : bn.inRebootSlot with
      | true =>
          have cordon := merge_slotPlan_wasCordoned node claim server
            fun free => absurd (isSlotted.symm.trans free) (by decide)
          rw [isSlotted, if_pos rfl] at cordon
          rw [isSlotted] at slot
          exact .act (.patchBootcNode rfl stored
            (BootcNode.merge_ownerReferences bn _ server)
            (Prod.ext (taken.trans slot.symm) cordon) rfl rfl)
      | false =>
          rw [isSlotted] at slot
          have cordon (shows : c.ShowsRecords) :=
            merge_slotPlan_wasCordoned node claim server
              fun _ => same.cordon shows
          simp only [isSlotted, Bool.false_eq_true, if_false] at cordon
          obtain ⟨found, isFound, controlled, _⟩ :=
            lags.known name bn (by simp) owned
          obtain rfl := Option.some.inj (stored.symm.trans isFound)
          exact .act (.assignSlot stored controlled slot
            (assigns.resolved s holds)
            (assigns.room s bn holds owned isSlotted)
            (BootcNode.merge_ownerReferences bn _ server)
            taken cordon (shown isSlotted))
    · rintro s server ⟨⟨⟨⟨lags, holds⟩, owned⟩, genuine⟩, _⟩ stored
      have slot := (lags.held owned server stored).slot
      have taken := merge_slotPlan_inRebootSlot node claim slot
      refine ⟨⟨⟨lags.patched owned stored rfl fun free _ => ?_, ?_⟩, ?_⟩, ?_⟩
      · rw [taken] at free
        cases free
      · exact assigns.taken s bn server _ holds owned stored slot rfl taken
      · exact ⟨_, s.patched_owned_self _ _ _, taken⟩
      · exact genuine
  · have slotted : bn.inRebootSlot = true := by
      unfold BootcNode.inRebootSlot
      rw [not_not.mp unchanged]
      exact slotPlan_inRebootSlot bn node claim
    exact .ret fun s before =>
      ⟨⟨⟨before.1.1.1.1, assigns.kept s bn before.1.1.1.2 before.1.1.2
        slotted⟩, bn, before.1.1.2, slotted⟩, before.1.2⟩

include assigns in
theorem lag_cordonNode {planned : Annotations KarpenterKey} :
    (lagRegime c).Follows
      (fun s => ((Lags c ∅ freed s ∧ next s) ∧ HoldsSlot name s) ∧
        Genuine name node s)
      (cordonNode c.env name node planned)
      (fun _ s => Lags c ∅ freed s ∧ next s) AnyError := by
  have steady : Steady fun s =>
      ((Lags c ∅ freed s ∧ next s) ∧ HoldsSlot name s) ∧
        Genuine name node s :=
    (((Lags.steady c ∅ freed).and assigns.recordedNext.steady).and
      (HoldsSlot.recorded name).steady).and (Genuine.steady node)
  refine .ite (fun _ => ?_) fun _ => .ret fun _ before => before.1.1
  refine .bindVia (fun _ s => Lags c ∅ freed s ∧ next s) (.mapError ?_)
    fun _ => .ret fun _ after => after
  refine follows_patchNode_locked steady.ignoresIssued
    (fun _ _ _ _ _ => trivial) (fun _ _ _ _ _ => trivial)
    (fun s server before stored unlocked =>
      before.2.locked stored unlocked) ?_ ?_
  · rintro s ⟨⟨⟨lags, _⟩, bn, owned, slotted⟩, _⟩ stored
    obtain ⟨server, isServer, _, same⟩ := lags.known name bn (by simp) owned
    exact .act (.cordonNode stored isServer (same.slot.trans slotted))
  · rintro s ⟨⟨⟨lags, holds⟩, bn, owned, slotted⟩, _⟩ stored
    exact ⟨lags.putNode stored _ (.inr (.inr (.inr ⟨bn, owned, slotted⟩))) _,
      assigns.recordedNext s _ (sameRecords_putNode s _ _) holds⟩

include assigns in
theorem lag_assignRebootSlot
    {prefetched : Option (String × NodeClaim)} :
    (lagRegime c).Follows
      (fun s => (((Lags c ∅ freed s ∧ base s) ∧ s.owned name = some bn) ∧
        Genuine name node s) ∧ Shown c name bn node s)
      (assignRebootSlot c.env name bn node prefetched)
      (fun _ s => Lags c ∅ freed s ∧ next s) AnyError := by
  refine .bind ((aside_claimToFence prefetched).follows
    (((((Lags.steady c ∅ freed).and assigns.recorded.steady).and
      (.owned _)).and (Genuine.steady node)).and Shown.steady)
    fun _ _ _ => trivial) fun claim => ?_
  refine .bind (lag_annotateSlot assigns) fun _ => ?_
  refine .bind ((aside_fenceClaim claim _).follows
    ((((Lags.steady c ∅ freed).and assigns.recordedNext.steady).and
      (HoldsSlot.recorded name).steady).and (Genuine.steady node))
    fun _ _ _ => trivial) fun _ => ?_
  exact lag_cordonNode assigns

theorem calm_requeued (s : PassState) (d : Duration) :
    Calm s { s with rs := s.rs.setRequeueAfter d } :=
  ⟨⟨⟨rfl, rfl, rfl, rfl⟩, rfl, rfl, rfl, rfl⟩, rfl⟩

theorem aside_requeueForKarpenter : Aside c requeueForKarpenter :=
  Moves.update fun s => .silent (calm_requeued s _) rfl

include assigns in
theorem lag_processCandidate
    (serves : c.ServesNodes) (apart : name ∉ freed) :
    (lagRegime c).Follows (fun s => Lags c ∅ freed s ∧ base s)
      (processCandidate c.env name)
      (fun isSlotted s => Lags c ∅ freed s ∧
        if isSlotted then next s else base s) AnyError := by
  have steady := (Lags.steady c ∅ freed).and assigns.recorded.steady
  have steadyNext := (Lags.steady c ∅ freed).and assigns.recordedNext.steady
  refine .bindRead fun found => ?_
  cases found with
  | none => exact .ret fun _ before => by simpa using before.1
  | some bn =>
      refine .bindVia
        (fun node s => (((Lags c ∅ freed s ∧ base s) ∧
          s.owned name = some bn) ∧ Genuine name node s) ∧
            Shown c name bn node s)
        (.mapError (.conseq (follows_get_view (fun _ _ _ _ _ => trivial)
          fun _ _ _ _ _ => trivial)
          (fun _ before => before) (fun node s after => ?_)
          fun _ _ after => after)) fun node => ?_
      · exact ⟨⟨after.1, Lags.genuine after.1.1.1.versions serves (by simp)
          after.2⟩, shown_of_lags after.1.1.1 apart after.1.2 after.2⟩
      refine .bind (.mapError
        ((aside_isKarpenterDisruptionActive _ node).follows
          (((steady.and (.owned _)).and (Genuine.steady node)).and
            Shown.steady) fun _ _ _ => trivial)) fun disruption => ?_
      refine .ite (fun _ => ?_) fun _ => ?_
      · refine .bindVia (fun _ s => Lags c ∅ freed s ∧ base s)
          (.weaken (aside_requeueForKarpenter.follows steady
            fun _ _ _ => trivial) fun _ before => before.1.1.1) fun _ => ?_
        exact .ret fun _ after => by simpa using after
      · refine .bind (.mapError (lag_assignRebootSlot assigns)) fun _ => ?_
        have slotted : (lagRegime c).Follows
            (fun s => Lags c ∅ freed s ∧ next s) (pure true : Pass Bool)
            (fun isSlotted s => Lags c ∅ freed s ∧
              if isSlotted then next s else base s) AnyError :=
          .ret fun _ after => by simpa using after
        refine .ite (fun _ => ?_) fun _ => slotted
        exact .bind (aside_requeueForKarpenter.follows steadyNext
          fun _ _ _ => trivial) fun _ => slotted

end Assigning

section Advancing

variable {c : LagContext} {freed : Set String} {m : Int} {n : Nat}
  {name : String}

structure Budgeted (c : LagContext) (freed : Set String) (m : Int) (n : Nat)
    (s : PassState) : Prop extends Tally c freed n s where
  resolved : s.maxUnavail = some m

theorem Budgeted.recorded : Recorded (Budgeted c freed m n) :=
  fun s s' records budgeted =>
    ⟨Tally.recorded c freed n s s' records budgeted.toTally,
      records.maxUnavail.trans budgeted.resolved⟩

/-- A slot for a node without one is one more. -/
theorem Budgeted.assigns_unslotted (room : (n : Int) < m) :
    LagAssigns c m name (Budgeted c freed m n)
      (Budgeted c freed m (n + 1)) where
  recorded := Budgeted.recorded
  recordedNext := Budgeted.recorded
  resolved _ base := base.resolved
  room s bn base _ _ := by
    refine lt_of_le_of_lt base.atMost ?_
    exact_mod_cast Int.lt_toNat.mpr room
  kept _ _ base _ _ := ⟨base.toTally.mono (Nat.le_succ n), base.resolved⟩
  taken s _ _ stored base _ _ _ _ _ :=
    ⟨base.toTally.taken _ stored, base.resolved⟩

/-- A node that holds a slot may be handled again. -/
theorem Budgeted.assigns_slotted
    {slotted : List String} (isSlotted : name ∈ slotted) :
    LagAssigns c m name
      (fun s => Budgeted c freed m n s ∧
        ∀ other ∈ slotted, slottedWith s.owned (fun _ => true) other = true)
      (fun s => Budgeted c freed m n s ∧
        ∀ other ∈ slotted, slottedWith s.owned (fun _ => true) other = true)
    where
  recorded s s' records base :=
    ⟨Budgeted.recorded s s' records base.1, records.owned ▸ base.2⟩
  recordedNext s s' records base :=
    ⟨Budgeted.recorded s s' records base.1, records.owned ▸ base.2⟩
  resolved _ base := base.1.resolved
  room s bn base owned free := by
    have holds := base.2 name isSlotted
    simp [slottedWith, owned, free] at holds
  kept _ _ base _ _ := base
  taken s bn server stored base owned isServer sameSlot owners slot := by
    have holds := base.2 name isSlotted
    simp only [slottedWith, owned, Bool.and_true] at holds
    refine ⟨⟨base.1.toTally.patched _ isServer owners
      (slot.trans (sameSlot.trans holds).symm), base.1.resolved⟩,
      fun other isOther => ?_⟩
    by_cases same : other = name
    · subst same
      simpa [slottedWith] using slot
    · have kept := base.2 other isOther
      unfold slottedWith at *
      rwa [s.patched_owned_of_ne _ _ same]

theorem lag_assignUnslotted
    (serves : c.ServesNodes) {occupied : Nat} {names : List String}
    (apart : ∀ name ∈ names, name ∉ freed) (assigned : Nat) :
    (lagRegime c).Follows
      (fun s => Lags c ∅ freed s ∧
        Budgeted c freed m (occupied + assigned) s)
      (assignUnslotted c.env (max 0 (m - occupied)) assigned names)
      (fun _ _ => True) AnyError := by
  induction names generalizing assigned with
  | nil => exact .ret fun _ _ => trivial
  | cons name rest ih =>
      have restApart : ∀ name ∈ rest, name ∉ freed :=
        fun other member => apart other (by simp [member])
      refine .ite (fun _ => .ret fun _ _ => trivial) fun available => ?_
      have room : ((occupied + assigned : Nat) : Int) < m := by omega
      refine .bind (lag_processCandidate (Budgeted.assigns_unslotted room)
        serves (apart name (by simp))) fun isSlotted => ?_
      cases isSlotted with
      | false =>
          exact .weaken (ih restApart assigned)
            fun _ before => by simpa using before
      | true =>
          exact .weaken (ih restApart (assigned + 1))
            fun _ before => by simpa [add_assoc] using before

theorem lag_assignSlotted
    (serves : c.ServesNodes) {slotted : List String}
    (apart : ∀ name ∈ slotted, name ∉ freed) :
    (lagRegime c).Follows
      (fun s => Lags c ∅ freed s ∧ Budgeted c freed m n s ∧
        ∀ other ∈ slotted, slottedWith s.owned (fun _ => true) other = true)
      (forEach slotted fun name => do
        let _ ← processCandidate c.env name
        pure ())
      (fun _ s => Lags c ∅ freed s ∧ Budgeted c freed m n s)
      AnyError := by
  refine .conseq (.forEach_keeps fun name member => ?_)
    (fun _ before => before) (fun _ _ after => ⟨after.1, after.2.1⟩)
    fun _ _ after => after
  refine .bind (lag_processCandidate (Budgeted.assigns_slotted member)
    serves (apart name member)) fun isSlotted => .ret fun _ after => ?_
  cases isSlotted <;> simpa using after

theorem aside_ensureDrain (name : String) :
    Aside c (ensureDrain c.env name) := by
  refine Moves.bind (Moves.read _) fun entry => ?_
  cases entry with
  | some _ => exact Moves.ret _
  | none => exact Moves.update fun _ => .perform rfl rfl rfl

theorem aside_drainStaged (name : String) :
    Aside c (drainStaged c.env name) := by
  refine Moves.bind (Moves.read _) fun found => ?_
  cases found with
  | none => exact Moves.ret _
  | some bn =>
      refine Moves.ite (Moves.ret _) ?_
      refine Moves.bind (aside_get _ _ _ _).mapError fun node => ?_
      refine Moves.bind (aside_isKarpenterDisruptionActive _ node).mapError
        fun disruption => ?_
      exact Moves.ite aside_requeueForKarpenter (aside_ensureDrain name)

theorem aside_requeueForFencedNodes : Aside c requeueForFencedNodes := by
  refine Moves.update fun s => ?_
  split
  · exact .silent (calm_requeued s _) rfl
  · exact .silent (.refl s) rfl

end Advancing

section Drive

variable {c : LagContext} {freed : Set String}

theorem lag_advanceRollout (serves : c.ServesNodes) :
    (lagRegime c).Follows
      (fun s => Lags c ∅ freed s ∧ Counted c freed s)
      (c.reconciler.advanceRollout c.env) (fun _ _ => True) AnyError := by
  refine .bindReadOf (·.spec = c.pool.spec)
    (fun s before => before.1.spec) fun pool spec => ?_
  refine .weaken (.bindReadOf
    (fun rs => ∃ n : Nat, rs.occupiedSlots = n)
    (fun s before => before.2.imp fun _ counted => counted.1)
    fun rs counted => ?_) fun _ before => before.1
  obtain ⟨n, isCount⟩ := counted
  refine .bindVia
    (fun m s => (Lags c ∅ freed s ∧ Counted c freed s) ∧ s.rs = rs ∧
      ∃ nodeCount, c.reconciler.resolveMaxUnavailable c.pool nodeCount =
        .ok m)
    (.ofExcept (fun m resolved s before => ⟨before.1, before.2, ?_⟩)
      fun _ _ _ _ => trivial) fun m => ?_
  · exact ⟨_, (resolveMaxUnavailable_congr spec _ _).symm.trans resolved⟩
  refine .bindVia
    (fun _ s => Lags c ∅ freed s ∧ Budgeted c freed m n s ∧ s.rs = rs)
    (.step (fun s before => .resolveMaxUnavailable before.2.2)
      fun s before => ?_) fun _ => ?_
  · obtain ⟨⟨lags, k, isCount', tally⟩, isRs, _⟩ := before
    have sameCount : k = n := by
      rw [isRs, isCount] at isCount'
      exact_mod_cast isCount'.symm
    subst sameCount
    refine ⟨?_, ⟨⟨tally.atMost, tally.done, tally.apart⟩, rfl⟩, isRs⟩
    exact lags.of_sameMemory ⟨rfl, rfl, rfl, rfl⟩ lags.versions
      fun _ _ _ _ _ _ => rfl
  refine .know (∀ name ∈ rs.staged, name ∉ freed)
    (fun s before => before.2.2 ▸ before.2.1.apart) fun apart => ?_
  refine .bindRead fun owned => ?_
  refine .bind (.weaken (lag_assignSlotted serves ?_) fun s before =>
    ⟨before.1.1, before.1.2.1, ?_⟩) fun _ => ?_
  · exact fun name member =>
      apart name (List.mem_filter.mp (mem_sortNames.mp member)).1
  · intro name member
    rw [before.2]
    exact (List.mem_filter.mp (mem_sortNames.mp member)).2
  rw [isCount]
  refine .bind (lag_assignUnslotted serves ?_ 0) fun _ => ?_
  · exact fun name member =>
      apart name (List.mem_filter.mp (mem_sortNames.mp member)).1
  have rest : Aside c (do
      requeueForFencedNodes
      forEach rs.staged (drainStaged c.env) : Pass Unit) :=
    Moves.bind aside_requeueForFencedNodes fun _ =>
      Moves.forEach fun name => aside_drainStaged name
  exact rest.follows (fun _ _ _ _ => trivial) fun _ _ _ => trivial

theorem lag_driveRollout (serves : c.ServesNodes) :
    (lagRegime c).Follows (Lags c ∅ ∅) (c.reconciler.driveRollout c.env)
      (fun _ _ => True) AnyError := by
  refine .bind (.mapError lag_collectDrainResults) fun _ => ?_
  refine .bind lag_classifyNodes fun _ => .given fun freed => ?_
  refine .bind (.mapError (lag_freeCompletedSlots serves)) fun _ => ?_
  refine .bindReadAny fun unhealthy => ?_
  exact .ite (fun _ => .step (fun _ _ => .halt) fun _ _ => trivial)
    fun _ => lag_advanceRollout serves

end Drive

end BootcNodePoolReconciler

end BootcOperator
