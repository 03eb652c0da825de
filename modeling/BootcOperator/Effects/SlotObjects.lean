import BootcOperator.Effects.Leases
import BootcOperator.Effects.Locality
import BootcOperator.Lag.Effect

/-!
# The objects of a reboot slot

A slot is assigned by up to three writes (BootcNode, NodeClaim, Node) and
given back by up to three (Node, NodeClaim, BootcNode).  `SlotRecorded` says what
the records on the BootcNode tell about the other two objects between any two
of these writes, and `Restorable` what a release needs of it.
-/

namespace BootcOperator

open Program BootcNodePoolReconciler

variable {claimName : String} {claim : NodeClaim} {node : Node}

/-! ## The objects of a slot -/

/-- What a slot changes besides its BootcNode: the Node and the NodeClaim it
refers to, with the name of that. -/
structure SlotTarget where
  node : Node
  claim : Option (String × NodeClaim)

/-- The API server holds the Node, which is not terminating, and its NodeClaim
if it refers to one. -/
structure World.Shows (w : World) (name : String) (target : SlotTarget) :
    Prop where
  node : w.api.node name = some target.node
  claim : (lookupNodeClaim target.node w.api).claim = target.claim
  owned : isNodeOwnedByKarpenterNodeClaim target.node = target.claim.isSome
  alive : target.node.deletionTimestamp = none

theorem lookupNodeClaim_claim {api : Cluster} :
    (lookupNodeClaim node api).claim = some (claimName, claim) ↔
      ∃ ref, node.ownerReferences.find? OwnerReference.isNodeClaim =
          some ref ∧ api.nodeClaimCRD = true ∧ ref.name = claimName ∧
        api.nodeClaim claimName = some claim := by
  unfold lookupNodeClaim
  cases found : node.ownerReferences.find? OwnerReference.isNodeClaim with
  | none => simp [KarpenterNodeClaimResult.claim]
  | some ref =>
      cases installed : api.nodeClaimCRD with
      | false => simp [KarpenterNodeClaimResult.claim]
      | true =>
          cases stored : api.nodeClaim ref.name with
          | none =>
              simp only [stored, KarpenterNodeClaimResult.claim]
              simp only [reduceCtorEq, not_true_eq_false, if_false,
                false_iff, not_exists, not_and]
              intro other isOther _ isName present
              cases isOther
              rw [isName, present] at stored
              cases stored
          | some held =>
              simp only [not_true_eq_false, if_false, stored,
                KarpenterNodeClaimResult.claim, Option.some.injEq,
                Prod.mk.injEq]
              constructor
              · rintro ⟨isName, isClaim⟩
                exact ⟨ref, rfl, trivial, isName, by rw [← isName, stored,
                  isClaim]⟩
              · rintro ⟨_, rfl, _, isName, present⟩
                rw [isName, present, Option.some.injEq] at stored
                exact ⟨isName, stored.symm⟩

namespace World.Shows

variable {w : World} {name : String} {target : SlotTarget}

theorem nodeClaim_eq
    (shows_ : w.Shows name target)
    (isClaim : target.claim = some (claimName, claim)) :
    w.api.nodeClaim claimName = some claim := by
  obtain ⟨_, _, _, _, stored⟩ :=
    lookupNodeClaim_claim.mp (shows_.claim.trans isClaim)
  exact stored

theorem putBootcNode
    (shows_ : w.Shows name target) (bn : Option BootcNode) :
    (w.putBootcNode name bn).Shows name target :=
  ⟨shows_.node, shows_.claim, shows_.owned, shows_.alive⟩

theorem putDrain
    (shows_ : w.Shows name target) (drain : Option DrainStatus) :
    (w.putDrain name drain).Shows name target :=
  ⟨shows_.node, shows_.claim, shows_.owned, shows_.alive⟩

theorem putNode
    (shows_ : w.Shows name target)
    (references : node.ownerReferences = target.node.ownerReferences)
    (alive : node.deletionTimestamp = target.node.deletionTimestamp) :
    (w.putNode name node).Shows name { target with node := node } where
  node := by rw [World.putNode_node, if_pos rfl]
  claim := by
    refine Eq.trans ?_ shows_.claim
    unfold lookupNodeClaim
    rw [references]
    rfl
  owned := by
    refine Eq.trans ?_ shows_.owned
    unfold isNodeOwnedByKarpenterNodeClaim
    rw [references]
  alive := alive.trans shows_.alive

theorem putNodeClaim
    (shows_ : w.Shows name target)
    (isClaim : target.claim = some (claimName, claim)) (claim' : NodeClaim) :
    (w.putNodeClaim claimName claim').Shows name
      { target with claim := some (claimName, claim') } where
  node := shows_.node
  claim := by
    obtain ⟨ref, isRef, installed, isName, _⟩ :=
      lookupNodeClaim_claim.mp (shows_.claim.trans isClaim)
    exact lookupNodeClaim_claim.mpr
      ⟨ref, isRef, installed, isName, by simp [World.putNodeClaim]⟩
  owned := by rw [shows_.owned, isClaim]; rfl
  alive := shows_.alive

end World.Shows

/-! ## The states of an episode -/

/-- The BootcNode holds no slot and records nothing for one. -/
structure BootcNode.HoldsNothing (bn : BootcNode) : Prop where
  slot : bn.inRebootSlot = false
  record : bn.annotations.has .wasCordoned = false
  node : nodeMarks.Unmarked bn.annotations
  claim : claimMarks.Unmarked bn.annotations

/-- The BootcNode holds the slot, and records for each part of the Node and
the NodeClaim what it was. -/
structure SlotRecorded (origin : SlotTarget) (bn : BootcNode)
    (target : SlotTarget) : Prop where
  slot : bn.inRebootSlot = true
  record : bn.annotations.known .wasCordoned =
    some (cordonText origin.node.unschedulable)
  cordon : origin.node.unschedulable = true →
    target.node.unschedulable = true
  fenced : origin.claim.isSome = true →
    Leases nodeMarks bn.annotations origin.node.annotations
      target.node.annotations
  unfenced : origin.claim.isSome = false →
    nodeMarks.Unmarked bn.annotations ∧
      target.node.annotations = origin.node.annotations
  claim : ∀ claimName claim, target.claim = some (claimName, claim) →
    ∃ original, origin.claim = some (claimName, original) ∧
      Leases claimMarks bn.annotations original.annotations
        claim.annotations
  owned : target.claim.isSome = origin.claim.isSome

/-- What a completed release leaves. -/
structure Returned (origin target : SlotTarget) : Prop where
  cordon : target.node.unschedulable = origin.node.unschedulable
  node : target.node.annotations =
    if origin.claim.isSome then origin.node.annotations.afterFence
    else origin.node.annotations
  claim : ∀ claimName claim, target.claim = some (claimName, claim) →
    ∃ original, origin.claim = some (claimName, original) ∧
      claim.annotations = original.annotations.afterFence
  owned : target.claim.isSome = origin.claim.isSome

/-- A release by the records leads back. -/
structure Restorable (origin : SlotTarget)
    (owner : Annotations BootcNodeKey) (target : SlotTarget) : Prop where
  cordon : (if owner.known .wasCordoned = some "false" then false
      else target.node.unschedulable) = origin.node.unschedulable
  node : nodeMarks.release owner target.node.annotations =
    if origin.claim.isSome then origin.node.annotations.afterFence
    else origin.node.annotations
  claim : ∀ claimName claim, target.claim = some (claimName, claim) →
    ∃ original, origin.claim = some (claimName, original) ∧
      claimMarks.release owner claim.annotations =
        original.annotations.afterFence
  owned : target.claim.isSome = origin.claim.isSome

section States

variable {origin target : SlotTarget} {bn : BootcNode}
  {owner : Annotations BootcNodeKey}

theorem SlotRecorded.restorable (recorded : SlotRecorded origin bn target) :
    Restorable origin bn.annotations target where
  cordon := by
    rw [recorded.record]
    cases cordoned : origin.node.unschedulable with
    | false => rfl
    | true => exact recorded.cordon cordoned
  node := by
    split_ifs with isOwned
    · exact (recorded.fenced isOwned).release_eq
    · obtain ⟨unmarked, same⟩ := recorded.unfenced (by simpa using isOwned)
      rw [release_of_unmarked unmarked, same]
  claim claimName claim isClaim := by
    obtain ⟨original, isOriginal, leases⟩ :=
      recorded.claim claimName claim isClaim
    exact ⟨original, isOriginal, leases.release_eq⟩
  owned := recorded.owned

/-- Without records there is nothing left to release. -/
theorem Returned.restorable
    (returned : Returned origin target) (clear : bn.HoldsNothing) :
    Restorable origin bn.annotations target where
  cordon := by
    have absent : bn.annotations.known .wasCordoned = none := by
      simpa [Annotations.has] using clear.record
    rw [absent, if_neg (by simp)]
    exact returned.cordon
  node := by
    rw [release_of_unmarked clear.node]
    exact returned.node
  claim claimName claim isClaim := by
    obtain ⟨original, isOriginal, same⟩ :=
      returned.claim claimName claim isClaim
    exact ⟨original, isOriginal, by
      rw [release_of_unmarked clear.claim, same]⟩
  owned := returned.owned

/-- The record for the startup taint does not matter. -/
theorem Restorable.congr_owner
    {owner' : Annotations BootcNodeKey}
    (restorable : Restorable origin owner target)
    (same : ∀ key, key ≠ .ownsOsNotReadyTaint →
      owner'.known key = owner.known key) :
    Restorable origin owner' target where
  cordon := by
    rw [same .wasCordoned (by decide)]
    exact restorable.cordon
  node := by
    refine Eq.trans (release_congr fun key => ?_) restorable.node
    refine congrArg Option.isSome (same _ ?_)
    cases key <;> decide
  claim claimName claim isClaim := by
    obtain ⟨original, isOriginal, released⟩ :=
      restorable.claim claimName claim isClaim
    refine ⟨original, isOriginal,
      Eq.trans (release_congr fun key => ?_) released⟩
    refine congrArg Option.isSome (same _ ?_)
    cases key <;> decide
  owned := restorable.owned

end States

section Plan

variable {origin target : SlotTarget} {bn : BootcNode}

/-- The objects before a slot is assigned, for the first time or again. -/
def Slottable (origin : SlotTarget) (bn : BootcNode) (target : SlotTarget) :
    Prop :=
  (bn.HoldsNothing ∧ target = origin) ∨ SlotRecorded origin bn target

theorem slotAnnotations_known
    {key : BootcNodeKey} (notSlot : key ≠ .inRebootSlot)
    (notRecord : key ≠ .wasCordoned) (node : Node) :
    (slotAnnotations bn node).known key = bn.annotations.known key := by
  unfold slotAnnotations
  dsimp only
  split_ifs <;> simp [notSlot, notRecord]

/-- The record of the cordon state is made once. -/
theorem slotAnnotations_record (slottable : Slottable origin bn target) :
    (slotAnnotations bn target.node).known .wasCordoned =
      some (cordonText origin.node.unschedulable) := by
  unfold slotAnnotations
  rcases slottable with ⟨clear, isOrigin⟩ | recorded
  · simp [clear.slot, isOrigin, cordonText]
  · simp [recorded.slot, recorded.record]

theorem slotAnnotations_marks (node : Node) (key : KarpenterKey) :
    (slotAnnotations bn node).has (nodeMarks.key key) =
      bn.annotations.has (nodeMarks.key key) := by
  refine congrArg Option.isSome (slotAnnotations_known ?_ ?_ node) <;>
    cases key <;> decide

theorem slotAnnotations_claimMarks (node : Node) (key : KarpenterKey) :
    (slotAnnotations bn node).has (claimMarks.key key) =
      bn.annotations.has (claimMarks.key key) := by
  refine congrArg Option.isSome (slotAnnotations_known ?_ ?_ node) <;>
    cases key <;> decide

theorem Slottable.owned
    (slottable : Slottable origin bn target) :
    target.claim.isSome = origin.claim.isSome := by
  rcases slottable with ⟨_, isOrigin⟩ | recorded
  · rw [isOrigin]
  · exact recorded.owned

theorem Slottable.cordon
    (slottable : Slottable origin bn target)
    (cordoned : origin.node.unschedulable = true) :
    target.node.unschedulable = true := by
  rcases slottable with ⟨_, isOrigin⟩ | recorded
  · rw [isOrigin, cordoned]
  · exact recorded.cordon cordoned

theorem Slottable.fenceable_node
    (slottable : Slottable origin bn target)
    (isOwned : origin.claim.isSome = true) :
    Leases.Fenceable nodeMarks (slotAnnotations bn target.node)
      origin.node.annotations target.node.annotations := by
  rcases slottable with ⟨clear, isOrigin⟩ | recorded
  · refine .inl ⟨fun key => ?_, by rw [isOrigin]⟩
    rw [slotAnnotations_marks]
    exact clear.node key
  · exact .inr ((recorded.fenced isOwned).congr_owner
      (slotAnnotations_marks _))

theorem Slottable.fenceable_claim
    (slottable : Slottable origin bn target) {owner : Annotations BootcNodeKey}
    (same : ∀ key, owner.has (claimMarks.key key) =
      bn.annotations.has (claimMarks.key key))
    (isClaim : target.claim = some (claimName, claim)) :
    ∃ original, origin.claim = some (claimName, original) ∧
      Leases.Fenceable claimMarks owner original.annotations
        claim.annotations := by
  rcases slottable with ⟨clear, isOrigin⟩ | recorded
  · refine ⟨claim, by rw [← isOrigin, isClaim], .inl ⟨fun key => ?_, rfl⟩⟩
    rw [same]
    exact clear.claim key
  · obtain ⟨original, isOriginal, leases⟩ :=
      recorded.claim claimName claim isClaim
    exact ⟨original, isOriginal, .inr (leases.congr_owner same)⟩

theorem slotPlan_of_owned
    (isOwned : isNodeOwnedByKarpenterNodeClaim node = true) (claim : NodeClaim) :
    slotPlan bn node (some claim) =
      { bootcNode :=
          (fence claimMarks.repair claimMarks.disrupt
            ((fence nodeMarks.repair nodeMarks.disrupt
              (slotAnnotations bn node, node.annotations)).1,
              claim.annotations)).1
        node :=
          (fence nodeMarks.repair nodeMarks.disrupt
            (slotAnnotations bn node, node.annotations)).2
        claim :=
          some (fence claimMarks.repair claimMarks.disrupt
            ((fence nodeMarks.repair nodeMarks.disrupt
              (slotAnnotations bn node, node.annotations)).1,
              claim.annotations)).2 } := by
  unfold slotPlan
  rw [if_pos isOwned]
  rfl

theorem slotPlan_of_unowned
    (isUnowned : isNodeOwnedByKarpenterNodeClaim node = false)
    (claim : Option NodeClaim) :
    slotPlan bn node claim =
      ⟨slotAnnotations bn node, node.annotations, none⟩ := by
  unfold slotPlan
  rw [isUnowned]
  rfl

theorem slotPlan_record
    (slottable : Slottable origin bn target) (claim : Option NodeClaim) :
    (slotPlan bn target.node claim).bootcNode.known .wasCordoned =
      some (cordonText origin.node.unschedulable) := by
  rw [slotPlan_bootcNode_known _ _ _ (by decide) (by decide) (by decide)
    (by decide)]
  exact slotAnnotations_record slottable

/-- A Node outside of Karpenter is only cordoned. -/
theorem slotPlan_unfenced
    (slottable : Slottable origin bn target)
    (unowned : origin.claim.isSome = false) :
    nodeMarks.Unmarked (slotAnnotations bn target.node) ∧
      target.node.annotations = origin.node.annotations := by
  rcases slottable with ⟨clear, isOrigin⟩ | recorded
  · refine ⟨fun key => ?_, by rw [isOrigin]⟩
    exact (slotAnnotations_marks _ key).trans (clear.node key)
  · obtain ⟨unmarked, isOriginal⟩ := recorded.unfenced unowned
    refine ⟨fun key => ?_, isOriginal⟩
    exact (slotAnnotations_marks _ key).trans (unmarked key)

/-- The Node of a planned slot, before its annotations are set and after. -/
theorem slotPlan_fenced
    (slottable : Slottable origin bn target)
    (isOwned : isNodeOwnedByKarpenterNodeClaim target.node = true)
    (fenced : origin.claim.isSome = true) (claim : NodeClaim) :
    Leases nodeMarks (slotPlan bn target.node (some claim)).bootcNode
        origin.node.annotations target.node.annotations ∧
      Leases nodeMarks (slotPlan bn target.node (some claim)).bootcNode
        origin.node.annotations
        (slotPlan bn target.node (some claim)).node := by
  have fenceable := slottable.fenceable_node fenced
  rw [slotPlan_of_owned isOwned]
  -- the marks of the NodeClaim are other annotations
  have kept : ∀ key,
      (fence claimMarks.repair claimMarks.disrupt
        ((fence nodeMarks.repair nodeMarks.disrupt
          (slotAnnotations bn target.node, target.node.annotations)).1,
          claim.annotations)).1.has (nodeMarks.key key) =
      (fence nodeMarks.repair nodeMarks.disrupt
        (slotAnnotations bn target.node,
          target.node.annotations)).1.has (nodeMarks.key key) := by
    intro key
    refine congrArg Option.isSome (fence_known ?_ ?_ _ _) <;>
      cases key <;> decide
  exact ⟨(Leases.of_fence_marks fenceable).congr_owner kept,
    (Leases.of_fence fenceable).congr_owner kept⟩

/-- The NodeClaim of a planned slot. -/
theorem slotPlan_fencedClaim
    (slottable : Slottable origin bn target)
    (isOwned : isNodeOwnedByKarpenterNodeClaim target.node = true)
    (isClaim : target.claim = some (claimName, claim)) :
    ∃ original, origin.claim = some (claimName, original) ∧
      Leases claimMarks (slotPlan bn target.node (some claim)).bootcNode
        original.annotations claim.annotations ∧
      ∀ annotations,
        (slotPlan bn target.node (some claim)).claim = some annotations →
        Leases claimMarks (slotPlan bn target.node (some claim)).bootcNode
          original.annotations annotations := by
  rw [slotPlan_of_owned isOwned]
  have kept : ∀ key,
      (fence nodeMarks.repair nodeMarks.disrupt
        (slotAnnotations bn target.node,
          target.node.annotations)).1.has (claimMarks.key key) =
      bn.annotations.has (claimMarks.key key) := by
    intro key
    refine Eq.trans (congrArg Option.isSome (fence_known ?_ ?_ _ _))
      (slotAnnotations_claimMarks target.node key) <;>
      cases key <;> decide
  obtain ⟨original, isOriginal, fenceable⟩ :=
    slottable.fenceable_claim kept isClaim
  refine ⟨original, isOriginal, .of_fence_marks fenceable, ?_⟩
  intro annotations isPlanned
  cases isPlanned
  exact .of_fence fenceable

/-- What is planned keeps the records right, whichever of the two later writes
are still missing. -/
theorem SlotRecorded.of_plan
    (slottable : Slottable origin bn target)
    (isOwned : isNodeOwnedByKarpenterNodeClaim target.node =
      target.claim.isSome)
    {plan : SlotPlan}
    (isPlan : slotPlan bn target.node (target.claim.map Prod.snd) = plan)
    {next : SlotTarget}
    (node :
      (next.node.annotations = target.node.annotations ∧
        next.node.unschedulable = target.node.unschedulable) ∨
      (next.node.annotations = plan.node ∧ next.node.unschedulable = true))
    (claim : ∀ claimName claim', next.claim = some (claimName, claim') →
      ∃ claim, target.claim = some (claimName, claim) ∧
        (claim'.annotations = claim.annotations ∨
          plan.claim = some claim'.annotations))
    (claimed : next.claim.isSome = target.claim.isSome) :
    SlotRecorded origin { bn with annotations := plan.bootcNode } next := by
  have cordon : origin.node.unschedulable = true →
      next.node.unschedulable = true := by
    intro cordoned
    rcases node with ⟨_, same⟩ | ⟨_, isCordoned⟩
    · exact same.trans (slottable.cordon cordoned)
    · exact isCordoned
  have owned := claimed.trans slottable.owned
  subst isPlan
  refine ⟨slotPlan_inRebootSlot _ _ _, slotPlan_record slottable _, cordon,
    ?_, ?_, ?_, owned⟩
  · intro fenced
    obtain ⟨⟨claimName, held⟩, isHeld⟩ := Option.isSome_iff_exists.mp
      (slottable.owned.trans fenced)
    rw [isHeld] at isOwned node ⊢
    obtain ⟨unset, isSet⟩ := slotPlan_fenced slottable isOwned fenced held
    rcases node with ⟨same, _⟩ | ⟨same, _⟩
    · exact same ▸ unset
    · exact same ▸ isSet
  · intro unfenced
    have isUnowned := isOwned.trans (slottable.owned.trans unfenced)
    obtain ⟨unmarked, original⟩ := slotPlan_unfenced slottable unfenced
    rw [slotPlan_of_unowned isUnowned] at node ⊢
    refine ⟨unmarked, ?_⟩
    rcases node with ⟨same, _⟩ | ⟨same, _⟩ <;> exact same.trans original
  · intro claimName claim' isClaim
    obtain ⟨held, isHeld, annotations⟩ := claim claimName claim' isClaim
    rw [isHeld] at isOwned annotations ⊢
    obtain ⟨original, isOriginal, unset, isSet⟩ :=
      slotPlan_fencedClaim slottable isOwned isHeld
    refine ⟨original, isOriginal, ?_⟩
    rcases annotations with same | isPlanned
    · exact same ▸ unset
    · exact isSet _ isPlanned

end Plan

section Assigning

variable {env : Env} {name : String} {origin target : SlotTarget}
  {bn : BootcNode}

variable {plan : SlotPlan}

/-- The stored BootcNode, Node and NodeClaim. -/
def HoldsObjects (name : String) (bn : BootcNode) (target : SlotTarget)
    (s : PassState) : Prop :=
  s.world.api.bootcNode name = some bn ∧ s.world.Shows name target

theorem HoldsObjects.ignoresIssued :
    IgnoresIssued (HoldsObjects name bn target) :=
  fun _ _ holds => ⟨holds.1, holds.2.node, holds.2.claim, holds.2.owned,
    holds.2.alive⟩

theorem HoldsObjects.patched
    {s : PassState} (holds : HoldsObjects name bn target s) (call : Call)
    (bn' : BootcNode) :
    HoldsObjects name bn' target (s.patched call name bn') :=
  ⟨by simp [PassState.patched, PassState.perform, PassState.setOwned,
      World.putBootcNode], holds.2.putBootcNode _⟩

/-- The lookup of the NodeClaim finds the one that is held. -/
theorem attempts_getKarpenterNodeClaim
    {pre : PassState → Prop} {exc : ApiError → PassState → Prop}
    {call : Call} (holds : ∀ s, pre s → HoldsObjects name bn target s)
    (fresh : env.Fresh)
    (stopped : Stops pre exc) :
    unobserved.Follows pre (getKarpenterNodeClaim env call target.node)
      (fun result s => pre s ∧ result.claim = target.claim) exc := by
  unfold getKarpenterNodeClaim
  refine .ite (fun _ => ?_) fun isUnowned => .ret fun s before => ?_
  · refine .conseq (follows_query fresh fun _ => stopped)
      (fun _ before => before) (fun result s after => ⟨after.1, ?_⟩)
      fun _ _ after => after
    rw [after.2]
    exact (holds s after.1).2.claim
  · have isNone : target.claim.isSome = false := by
      rw [← (holds s before).2.owned]
      simpa using isUnowned
    rw [Option.isSome_eq_false_iff, Option.isNone_iff_eq_none] at isNone
    exact ⟨before, isNone.symm⟩

/-- The outcome of an attempt: the slot is held, or nothing was written. -/
def Attempted (name : String) (origin : SlotTarget) (bn : BootcNode)
    (s : PassState) : Prop :=
  (∃ bn' target, HoldsObjects name bn' target s ∧
      SlotRecorded origin bn' target) ∨
    (HoldsObjects name bn origin s ∧ bn.HoldsNothing ∧ s.log = [])

theorem attempted_of_slottable
    (slottable : Slottable origin bn target) {s : PassState}
    (holds : HoldsObjects name bn target s) (unlogged : s.log = []) :
    Attempted name origin bn s := by
  rcases slottable with ⟨clear, isOrigin⟩ | recorded
  · exact .inr ⟨isOrigin ▸ holds, clear, unlogged⟩
  · exact .inl ⟨bn, target, holds, recorded⟩

theorem attempts_claimToFence
    (slottable : Slottable origin bn target)
    (fresh : env.Fresh)
    {prefetched : Option (String × NodeClaim)}
    (isPrefetched : prefetched = none ∨ prefetched = target.claim) :
    unobserved.Follows
      (fun s => HoldsObjects name bn target s ∧ s.log = [])
      (claimToFence env name target.node prefetched)
      (fun claim s => (HoldsObjects name bn target s ∧ s.log = []) ∧
        claim = target.claim)
      (fun _ => Attempted name origin bn) := by
  have looked : unobserved.Follows
      (fun s => HoldsObjects name bn target s ∧ s.log = [])
      (getKarpenterNodeClaim env (.getAssignedClaim name) target.node)
      (fun result s => (HoldsObjects name bn target s ∧ s.log = []) ∧
        result.claim = target.claim)
      (fun _ => Attempted name origin bn) :=
    attempts_getKarpenterNodeClaim (fun s before => before.1) fresh
      fun e s _ before => attempted_of_slottable slottable before.1 before.2
  unfold claimToFence
  refine .ite (fun isOwned => ?_) fun isUnowned => ?_
  · cases prefetched with
    | some claim =>
        refine .ret fun s before => ⟨before, ?_⟩
        exact isPrefetched.resolve_left (by simp)
    | none =>
        refine .bind (.mapError looked) fun result => ?_
        refine .know (target.claim.isSome = true)
          (fun s before => before.1.1.2.owned.symm.trans isOwned)
          fun isSome => ?_
        cases result with
        | found claimName claim => exact .ret fun s before => before
        | absent | crdMissing | noRef =>
            refine .know False (fun s before => ?_) False.elim
            have isNone : none = target.claim := before.2
            rw [← isNone] at isSome
            cases isSome
  · refine .ret fun s before => ⟨before, ?_⟩
    have isNone : target.claim.isSome = false := by
      rw [← before.1.2.owned]
      simpa using isUnowned
    rw [Option.isSome_eq_false_iff, Option.isNone_iff_eq_none] at isNone
    exact isNone.symm

theorem attempts_annotateSlot
    (slottable : Slottable origin bn target)
    (sameOther : plan.bootcNode.other = bn.annotations.other) :
    unobserved.Follows
      (fun s => HoldsObjects name bn target s ∧ s.log = [])
      (annotateSlot env name bn plan.bootcNode)
      (fun _ => HoldsObjects name { bn with annotations := plan.bootcNode } target)
      (fun _ => Attempted name origin bn) := by
  unfold annotateSlot
  refine .ite (fun _ => .mapError ?_) fun same => .ret fun s before => ?_
  · exact follows_patchBootcNode
      (fun s calls before =>
        ⟨HoldsObjects.ignoresIssued s calls before.1, before.2⟩)
      (fun _ e s _ before =>
        attempted_of_slottable slottable before.1 before.2)
      (fun s before => before.1.1) (BootcNode.merge_annotations bn sameOther)
      (fun _ _ => trivial) fun s before => before.1.patched _ _
  · rw [← not_not.mp same]
    exact before.1

def plannedClaim (plan : SlotPlan) :
    Option (String × NodeClaim) → Option (String × NodeClaim)
  | some (claimName, claim) =>
      match plan.claim with
      | some annotations =>
          some (claimName, { claim with annotations := annotations })
      | none => some (claimName, claim)
  | none => none

theorem plannedClaim_cases
    {claim : Option (String × NodeClaim)} {claim' : NodeClaim}
    (isPlanned : plannedClaim plan claim = some (claimName, claim')) :
    ∃ before, claim = some (claimName, before) ∧
      (claim'.annotations = before.annotations ∨
        plan.claim = some claim'.annotations) := by
  rcases claim with _ | ⟨heldName, held⟩
  · cases isPlanned
  · unfold plannedClaim at isPlanned
    cases planned : plan.claim with
    | none =>
        simp only [planned, Option.some.injEq, Prod.mk.injEq] at isPlanned
        obtain ⟨rfl, rfl⟩ := isPlanned
        exact ⟨held, rfl, .inl rfl⟩
    | some annotations =>
        simp only [planned, Option.some.injEq, Prod.mk.injEq] at isPlanned
        obtain ⟨rfl, rfl⟩ := isPlanned
        exact ⟨held, rfl, .inr rfl⟩

theorem plannedClaim_isSome
    (plan : SlotPlan) (claim : Option (String × NodeClaim)) :
    (plannedClaim plan claim).isSome = claim.isSome := by
  rcases claim with _ | ⟨claimName, claim⟩
  · rfl
  · unfold plannedClaim
    cases plan.claim <;> rfl

theorem attempts_fenceClaim
    {first : BootcNode} (recorded : SlotRecorded origin bn target)
    (sameOther : ∀ claimName claim annotations,
      target.claim = some (claimName, claim) →
      plan.claim = some annotations →
      annotations.other = claim.annotations.other) :
    unobserved.Follows (HoldsObjects name bn target)
      (fenceClaim env name target.claim plan.claim)
      (fun _ => HoldsObjects name bn
        { target with claim := plannedClaim plan target.claim })
      (fun _ => Attempted name origin first) := by
  rcases isClaim : target.claim with _ | ⟨claimName, claim⟩
  · refine .ret fun s before => ?_
    have same : { target with claim := plannedClaim plan none } =
        target := by
      rw [plannedClaim, ← isClaim]
    rw [same]
    exact before
  · cases planned : plan.claim with
    | none =>
        refine .ret fun s before => ?_
        have same : { target with
            claim := plannedClaim plan (some (claimName, claim)) } =
            target := by
          simp only [plannedClaim, planned, ← isClaim]
        rw [same]
        exact before
    | some annotations =>
        have isPlanned : plannedClaim plan (some (claimName, claim)) =
            some (claimName, { claim with annotations := annotations }) := by
          simp only [plannedClaim, planned]
        rw [isPlanned]
        refine .ite (fun _ => .mapError ?_) fun same =>
          .ret fun s before => ?_
        · exact follows_patchNodeClaim HoldsObjects.ignoresIssued
            (fun _ e s _ before => .inl ⟨bn, target, before, recorded⟩)
            (fun s before => before.2.nodeClaim_eq isClaim)
            (NodeClaim.merge_annotations claim
              (sameOther _ _ _ isClaim planned))
            (fun _ _ => trivial) fun s before =>
              ⟨before.1, before.2.putNodeClaim isClaim _⟩
        · rw [← not_not.mp same, ← isClaim]
          exact before

theorem attempts_cordonNode
    {first : BootcNode} (recorded : SlotRecorded origin bn target)
    (cordoned : ∀ node : Node, node.annotations = plan.node →
      node.unschedulable = true →
      SlotRecorded origin bn { target with node := node }) :
    unobserved.Follows (HoldsObjects name bn target)
      (cordonNode env name target.node plan.node)
      (fun _ => Attempted name origin first)
      (fun _ => Attempted name origin first) := by
  unfold cordonNode
  refine .ite (fun _ => ?_) fun _ =>
    .ret fun s before => .inl ⟨bn, target, before, recorded⟩
  refine .bindVia (fun _ => Attempted name origin first) (.mapError ?_)
    fun _ => .ret fun _ after => after
  exact follows_patchNode HoldsObjects.ignoresIssued
    (fun _ e s _ before => .inl ⟨bn, target, before, recorded⟩)
    (fun s before => before.2.node) (fun _ _ => trivial)
    fun s before => .inl ⟨bn, _, ⟨before.1, before.2.putNode rfl rfl⟩,
      cordoned _ rfl rfl⟩

theorem attempts_assignRebootSlot
    (slottable : Slottable origin bn target)
    (fresh : env.Fresh)
    {prefetched : Option (String × NodeClaim)}
    (isPrefetched : prefetched = none ∨ prefetched = target.claim) :
    unobserved.Follows
      (fun s => HoldsObjects name bn target s ∧ s.log = [])
      (assignRebootSlot env name bn target.node prefetched)
      (fun _ => Attempted name origin bn)
      (fun _ => Attempted name origin bn) := by
  refine .know (isNodeOwnedByKarpenterNodeClaim target.node =
    target.claim.isSome) (fun s before => before.1.2.owned) fun isOwned => ?_
  refine .bind (attempts_claimToFence slottable fresh isPrefetched)
    fun claim => .assume fun isClaim => ?_
  subst isClaim
  generalize isPlan : slotPlan bn target.node
    (target.claim.map Prod.snd) = plan
  have sameOther : plan.bootcNode.other = bn.annotations.other := by
    rw [← isPlan]
    exact slotPlan_bootcNode_other ..
  refine .bind (attempts_annotateSlot slottable sameOther) fun _ => ?_
  refine .bind (attempts_fenceClaim
    (.of_plan slottable isOwned isPlan (.inl ⟨rfl, rfl⟩)
      (fun _ claim isClaim => ⟨claim, isClaim, .inl rfl⟩) rfl) ?_)
    fun _ => ?_
  · intro claimName claim annotations isClaim planned
    rw [← isPlan, isClaim] at planned
    exact slotPlan_claim_other _ _ _ planned
  · have claimed := plannedClaim_isSome plan target.claim
    have fenced : SlotRecorded origin { bn with annotations := plan.bootcNode }
        { target with claim := plannedClaim plan target.claim } :=
      .of_plan slottable isOwned isPlan (.inl ⟨rfl, rfl⟩)
        (fun _ _ => plannedClaim_cases) claimed
    refine attempts_cordonNode fenced fun node isNode isCordoned => ?_
    exact .of_plan slottable isOwned isPlan (.inr ⟨isNode, isCordoned⟩)
      (fun _ _ => plannedClaim_cases) claimed

end Assigning

section Releasing

variable {env : Env} {name : String} {origin target : SlotTarget}
  {bn : BootcNode} {owner : Annotations BootcNodeKey}

variable {exc : ApiError → PassState → Prop}

/-- The slot can be given back from here. -/
def Releasable (name : String) (origin : SlotTarget) (s : PassState) :
    Prop :=
  ∃ bn target, HoldsObjects name bn target s ∧
    Restorable origin bn.annotations target

theorem restoredClaim_of_unchanged
    (unchanged : restoreClaimChanges owner claim = false) :
    restoredClaim owner claim = claim := by
  unfold restoreClaimChanges at unchanged
  rw [Bool.or_eq_false_iff] at unchanged
  unfold restoredClaim removeOwnedAnnotation
  simp [unchanged.1, unchanged.2]

theorem claimMarks_unmarked
    (unmarked : ¬ (owner.has .ownsKarpenterNodeClaimDoNotRepair = true ∨
      owner.has .ownsKarpenterNodeClaimDoNotDisrupt = true)) :
    claimMarks.Unmarked owner := by
  rw [not_or] at unmarked
  intro key
  cases key with
  | doNotRepair => exact Bool.eq_false_iff.mpr unmarked.1
  | doNotDisrupt => exact Bool.eq_false_iff.mpr unmarked.2

/-- The Node is given back, the NodeClaim perhaps not yet. -/
structure NodeRestored (origin : SlotTarget)
    (owner : Annotations BootcNodeKey) (target : SlotTarget) : Prop
    extends Restorable origin owner target where
  nodeCordon : target.node.unschedulable = origin.node.unschedulable
  nodeAnnotations : target.node.annotations =
    if origin.claim.isSome then origin.node.annotations.afterFence
    else origin.node.annotations

theorem Restorable.restoredNode
    (restorable : Restorable origin owner target)
    (restored : node.unversioned =
      (restoredNode owner target.node).unversioned) :
    NodeRestored origin owner { target with node := node } := by
  have cordon : node.unschedulable = origin.node.unschedulable :=
    (congrArg Node.unschedulable restored).trans restorable.cordon
  have annotations : node.annotations =
      nodeMarks.release owner target.node.annotations :=
    congrArg Node.annotations restored
  refine ⟨⟨?_, ?_, restorable.claim, restorable.owned⟩, cordon,
    annotations.trans restorable.node⟩
  · have uncordoned := restorable.cordon
    dsimp only
    split_ifs with isRecorded
    · rw [if_pos isRecorded] at uncordoned
      exact uncordoned
    · exact cordon
  · dsimp only
    rw [annotations, release_release]
    exact restorable.node

theorem NodeRestored.returned
    (restored : NodeRestored origin owner target)
    (released : ∀ claimName claim,
      target.claim = some (claimName, claim) →
      claimMarks.release owner claim.annotations = claim.annotations) :
    Returned origin target where
  cordon := restored.nodeCordon
  node := restored.nodeAnnotations
  claim claimName claim isClaim := by
    obtain ⟨original, isOriginal, same⟩ :=
      restored.claim claimName claim isClaim
    exact ⟨original, isOriginal, by
      rw [← same, released claimName claim isClaim]⟩
  owned := restored.owned

theorem NodeRestored.restoredClaim
    (restored : NodeRestored origin owner target)
    (isClaim : target.claim = some (claimName, claim)) :
    NodeRestored origin owner
      { target with
        claim := some (claimName,
          BootcNodePoolReconciler.restoredClaim owner claim) } where
  cordon := restored.cordon
  node := restored.node
  claim other claim' isOther := by
    cases isOther
    obtain ⟨original, isOriginal, same⟩ :=
      restored.claim claimName claim isClaim
    exact ⟨original, isOriginal, release_release.trans same⟩
  owned := by
    rw [← restored.owned, isClaim]
    rfl
  nodeCordon := restored.nodeCordon
  nodeAnnotations := restored.nodeAnnotations

/-- Both are given back, and the record is not yet removed. -/
def Restored (name : String) (origin : SlotTarget) (bn : BootcNode)
    (owner : Annotations BootcNodeKey) (node : Node) (s : PassState) :
    Prop :=
  ∃ target, HoldsObjects name bn target s ∧ target.node = node ∧
    Returned origin target ∧ NodeRestored origin owner target

theorem releases_restoreNodeClaimState
    (restored : NodeRestored origin owner target) (fresh : env.Fresh)
    (stopped : ∀ text, Stops (HoldsObjects name bn target) fun e =>
      exc (e.wrap text)) :
    unobserved.Follows (HoldsObjects name bn target)
      (restoreNodeClaimState env name owner target.node)
      (fun _ => Restored name origin bn owner target.node) exc := by
  unfold restoreNodeClaimState
  refine .ite (fun _ => ?_) fun unmarked => .ret fun s before => ?_
  · refine .bind (.mapError (attempts_getKarpenterNodeClaim (fun _ holds => holds)
      fresh (stopped _))) fun result => ?_
    generalize result.claim = found
    refine .know (found = target.claim) (fun s before => before.2)
      fun isFound => ?_
    subst isFound
    rcases isClaim : target.claim with _ | ⟨claimName, claim⟩
    · exact .ret fun s before => ⟨target, before.1, rfl,
        restored.returned (by simp [isClaim]), restored⟩
    · refine .ite (fun _ => .mapError ?_) fun unchanged =>
        .ret fun s before => ?_
      · refine follows_patchNodeClaim
          (fun s calls before =>
            ⟨HoldsObjects.ignoresIssued s calls before.1, before.2⟩)
          (fun _ e s routine before => stopped _ e s routine before.1)
          (fun s before => before.1.2.nodeClaim_eq isClaim)
          (NodeClaim.merge_annotations claim (release_other claimMarks ..))
          (fun _ _ => trivial) fun s before => ?_
        have next := restored.restoredClaim isClaim
        refine ⟨_, ⟨before.1.1, before.1.2.putNodeClaim isClaim _⟩, rfl,
          next.returned ?_, next⟩
        intro other claim' isOther
        cases isOther
        exact release_release
      · refine ⟨target, before.1, rfl, restored.returned ?_, restored⟩
        intro other claim' isOther
        rw [isClaim] at isOther
        cases isOther
        exact congrArg NodeClaim.annotations
          (restoredClaim_of_unchanged (by simpa using unchanged))
  · exact ⟨target, before, rfl, restored.returned fun _ _ _ =>
      release_of_unmarked (claimMarks_unmarked unmarked), restored⟩

theorem releases_restoreNodeState
    (restorable : Restorable origin owner target) (fresh : env.Fresh)
    (stopped : ∀ target', Restorable origin owner target' →
      ∀ e s, HoldsObjects name bn target' s → exc e s) :
    unobserved.Follows (HoldsObjects name bn target)
      (restoreNodeState env name owner target.node)
      (Restored name origin bn owner) exc := by
  refine .bindVia (fun node s =>
    HoldsObjects name bn { target with node := node } s ∧
      node.unversioned = (restoredNode owner target.node).unversioned)
    (.ite (fun _ => .mapError ?_) fun unchanged => ?_) fun node => ?_
  · exact follows_patchNode HoldsObjects.ignoresIssued
      (fun _ e s _ before => stopped target restorable _ s before)
      (fun s before => before.2.node) (fun _ _ => trivial)
      fun s before => ⟨⟨before.1, before.2.putNode rfl rfl⟩, rfl⟩
  · refine .ret fun s before => ⟨before, ?_⟩
    rw [restoredNode_of_unchanged (by simpa using unchanged)]
  · refine .assume fun isRestored => ?_
    have restored := restorable.restoredNode isRestored
    refine .bind (.mapError (releases_restoreNodeClaimState restored fresh
      fun _ e s _ before => stopped _ restored.toRestorable _ s before))
      fun _ => ?_
    exact .ret fun s after => after

theorem holdsNothing_freed (bn : BootcNode) :
    BootcNode.HoldsNothing
      { bn with annotations := freedAnnotations bn.annotations } where
  slot := by
    simp [BootcNode.inRebootSlot, freedAnnotations, Annotations.has]
  record := by simp [freedAnnotations, Annotations.has]
  node key := by
    cases key <;>
      simp [nodeMarks, FenceMarks.key, freedAnnotations, Annotations.has]
  claim key := by
    cases key <;>
      simp [claimMarks, FenceMarks.key, freedAnnotations, Annotations.has]

theorem releases_freeRebootSlot
    (restorable : Restorable origin bn.annotations target)
    (fresh : env.Fresh) :
    unobserved.Follows (HoldsObjects name bn target)
      (freeRebootSlot env name bn target.node)
      (fun _ s => ∃ bn' target', HoldsObjects name bn' target' s ∧
        Returned origin target' ∧ bn'.HoldsNothing)
      (fun _ => Releasable name origin) := by
  refine .bind (releases_restoreNodeState restorable fresh
    fun target' still e s before => ⟨bn, target', before, still⟩)
    fun node => .given fun target' => .mapError ?_
  refine follows_patchBootcNode
    (fun s calls before =>
      ⟨HoldsObjects.ignoresIssued s calls before.1, before.2⟩)
    (fun _ e s _ before =>
      ⟨bn, target', before.1, before.2.2.2.toRestorable⟩)
    (fun s before => before.1.1) (BootcNode.merge_annotations bn rfl)
    (fun _ _ => trivial) fun s before => ?_
  exact ⟨_, target', before.1.patched _ _, before.2.2.1,
    holdsNothing_freed bn⟩

theorem Returned.relabel
    (returned : Returned origin target)
    (relabelled : node.unversioned = target.node.unlabelled.unversioned) :
    Returned origin { target with node := node } where
  cordon := (congrArg Node.unschedulable relabelled).trans returned.cordon
  node := (congrArg Node.annotations relabelled).trans returned.node
  claim := returned.claim
  owned := returned.owned

theorem Restorable.relabel
    (restorable : Restorable origin owner target)
    (relabelled : node.unversioned = target.node.unlabelled.unversioned) :
    Restorable origin owner { target with node := node } where
  cordon := by
    have same : node.unschedulable = target.node.unschedulable :=
      (congrArg Node.unschedulable relabelled :)
    dsimp only
    rw [same]
    exact restorable.cordon
  node := by
    have same : node.annotations = target.node.annotations :=
      (congrArg Node.annotations relabelled :)
    dsimp only
    rw [same]
    exact restorable.node
  claim := restorable.claim
  owned := restorable.owned

theorem releases_unlabelNode
    {call : Call} (stopped : ∀ e s, HoldsObjects name bn target s → exc e s) :
    unobserved.Follows (HoldsObjects name bn target)
      (ensureManagedLabel env call name target.node false)
      (fun node s => HoldsObjects name bn { target with node := node } s ∧
        node.unversioned = target.node.unlabelled.unversioned) exc := by
  unfold ensureManagedLabel
  refine .ite (fun same => .ret fun s before => ⟨before, ?_⟩) fun _ => ?_
  · rw [Node.unlabelled_of_none (by simpa using same)]
  · exact follows_patchNode HoldsObjects.ignoresIssued
      (fun _ e s _ before => stopped e s before)
      (fun s before => before.2.node) (fun _ _ => trivial)
      fun s before => ⟨⟨before.1, before.2.putNode rfl rfl⟩, rfl⟩

theorem releases_removeBootcNode
    (restorable : Restorable origin bn.annotations target)
    (fresh : env.Fresh) :
    unobserved.Follows (HoldsObjects name bn target) (removeBootcNode env name bn)
      (fun _ s => s.world.api.bootcNode name = none ∧
        ∃ target', s.world.Shows name target' ∧ Returned origin target')
      (fun _ => Releasable name origin) := by
  have cancelled : unobserved.Follows (HoldsObjects name bn target)
      (cancelDrain name) (fun _ => HoldsObjects name bn target)
      (fun _ => Releasable name origin) := by
    refine .bindRead fun drain => ?_
    cases drain with
    | none => exact .ret fun _ before => before.1
    | some _ =>
        exact .step (fun _ _ => trivial) fun s before =>
          ⟨before.1.1, before.1.2.putDrain none⟩
  refine .bind cancelled fun _ => ?_
  refine .bind (.mapError (follows_query fresh fun _ e s _ before =>
    ⟨bn, target, before, restorable⟩)) fun found => ?_
  refine .know (found = some target.node)
    (fun s before => before.2.trans before.1.2.node) fun isFound => ?_
  subst isFound
  dsimp only
  refine .ite (fun _ => ?_) fun terminating => ?_
  · refine .bindVia (fun _ s => ∃ target', HoldsObjects name bn target' s ∧
      Returned origin target' ∧ Restorable origin bn.annotations target')
      ?_ fun _ => .given fun target' => .mapError ?_
    · have deleted : Restorable origin
          (bn.annotations.delete .ownsOsNotReadyTaint) target :=
        restorable.congr_owner fun key other => by simp [other]
      have back : ∀ {target'}, Restorable origin
          (bn.annotations.delete .ownsOsNotReadyTaint) target' →
          Restorable origin bn.annotations target' := fun still =>
        still.congr_owner fun key other => by simp [other]
      refine .bind (.mapError (.weaken (releases_restoreNodeState deleted
        fresh fun target' still e s before =>
          ⟨bn, target', before, back still⟩) fun s before => before.1))
        fun node => .given fun target' => ?_
      refine .know (target'.node = node ∧ Returned origin target' ∧
        Restorable origin bn.annotations target')
        (fun s before => ⟨before.2.1, before.2.2.1,
          back before.2.2.2.toRestorable⟩) ?_
      rintro ⟨rfl, returned, still⟩
      refine .bind (.mapError (.weaken (releases_unlabelNode
        fun e s before => ⟨bn, target', before, still⟩)
        fun s before => before.1)) fun node => .ret fun s after => ?_
      exact ⟨_, after.1, returned.relabel after.2, still.relabel after.2⟩
    · exact follows_deleteBootcNode
        (fun s calls before =>
          ⟨HoldsObjects.ignoresIssued s calls before.1, before.2⟩)
        (fun _ e s _ before => ⟨bn, target', before.1, before.2.2⟩)
        (fun _ _ => trivial) fun s before =>
          ⟨by simp [PassState.perform, World.putBootcNode],
            target', before.1.2.putBootcNode none, before.2.1⟩
  · exact .know False
      (fun s before => terminating before.1.2.alive) False.elim

end Releasing

end BootcOperator
