import BootcOperator.Effects.Outcomes
import BootcOperator.Effects.Rollout

/-!
# Candidates for a reboot slot

Which staged nodes may take a slot, and what the steps of a rollout that
return have done to the node they are about.  Whether a node is eligible
depends on facts that no step of a rollout changes.
-/

namespace BootcOperator

open Program BootcNodePoolReconciler

variable {api api' : Cluster}

/-! ## Eligible nodes -/

/-- No disruption by Karpenter shows on the claim. -/
def NodeClaim.isUndisturbed (claim : NodeClaim) : Bool :=
  claim.deletionTimestamp.isNone &&
    match claim.conditions with
    | .ok conditions =>
        !(conditionIsTrue conditions conditionRebooting ||
          conditionIsTrue conditions conditionDisruptionReason ||
          conditionIsTrue conditions conditionInstanceTerminating)
    | .error _ => true

/-- A NodeClaim that a Node refers to exists and is undisturbed, unless
Karpenter is not installed. -/
def KarpenterNodeClaimResult.permits : KarpenterNodeClaimResult → Bool
  | .noRef | .crdMissing => true
  | .found _ claim => claim.isUndisturbed
  | .absent => false

/-- The Node is neither being deleted nor disrupted by Karpenter, and nor is
its NodeClaim. -/
def Node.isEligible (node : Node) (api : Cluster) : Bool :=
  node.deletionTimestamp.isNone &&
    !node.taints.any Taint.isKarpenterDisruption &&
    (lookupNodeClaim node api).permits

/-- So is the stored Node of the name. -/
def Cluster.isEligible (api : Cluster) (name : String) : Bool :=
  match api.node name with
  | some node => node.isEligible api
  | none => false

/-- The first NodeClaim among the Node's owners is this one. -/
def Node.RefersTo (node : Node) (claimName : String) : Prop :=
  ∃ ref, node.ownerReferences.find? OwnerReference.isNodeClaim = some ref ∧
    ref.name = claimName

/-! ## What eligibility depends on -/

/-- What `isKarpenterDisruptionActive` reads of a Node. -/
def Node.disruption (node : Node) :
    Option Time × List Taint × List OwnerReference :=
  (node.deletionTimestamp, node.taints, node.ownerReferences)

/-- What `isKarpenterDisruptionActive` reads of a NodeClaim. -/
def NodeClaim.disruption (claim : NodeClaim) :
    Option Time × Except String (List NodeClaimCondition) :=
  (claim.deletionTimestamp, claim.conditions)

/-- No NodeClaim differs in its disruption. -/
structure Cluster.SameClaims (api api' : Cluster) : Prop where
  installed : api'.nodeClaimCRD = api.nodeClaimCRD
  claims : ∀ name, (api'.nodeClaim name).map NodeClaim.disruption =
    (api.nodeClaim name).map NodeClaim.disruption

theorem NodeClaim.isUndisturbed_congr
    {claim claim' : NodeClaim}
    (same : claim'.disruption = claim.disruption) :
    claim'.isUndisturbed = claim.isUndisturbed := by
  have deletion : claim'.deletionTimestamp = claim.deletionTimestamp :=
    congrArg Prod.fst same
  have conditions : claim'.conditions = claim.conditions :=
    congrArg Prod.snd same
  rw [isUndisturbed, isUndisturbed, deletion, conditions]

theorem Node.isEligible_congr
    {node node' : Node} (same : node'.disruption = node.disruption)
    (sameClaims : api.SameClaims api') :
    node'.isEligible api' = node.isEligible api := by
  have deletion : node'.deletionTimestamp = node.deletionTimestamp :=
    congrArg Prod.fst same
  have taints : node'.taints = node.taints :=
    congrArg (Prod.fst ∘ Prod.snd) same
  have references : node'.ownerReferences = node.ownerReferences :=
    congrArg (Prod.snd ∘ Prod.snd) same
  unfold Node.isEligible lookupNodeClaim
  rw [deletion, taints, references, sameClaims.installed]
  congr 1
  cases node.ownerReferences.find? OwnerReference.isNodeClaim with
  | none => rfl
  | some ref =>
      have sameClaim := sameClaims.claims ref.name
      by_cases missing : ¬ api.nodeClaimCRD = true
      · simp only [if_pos missing]
      · simp only [if_neg missing]
        cases present : api.nodeClaim ref.name with
        | none =>
            rw [present, Option.map_none, Option.map_eq_none_iff] at sameClaim
            simp only [sameClaim]
        | some claim =>
            rw [present, Option.map_some, Option.map_eq_some_iff]
              at sameClaim
            obtain ⟨claim', present', same⟩ := sameClaim
            simp only [present']
            exact NodeClaim.isUndisturbed_congr same

theorem Cluster.isEligible_congr
    {name : String} (same : (api'.node name).map Node.disruption =
      (api.node name).map Node.disruption) (sameClaims : api.SameClaims api') :
    api'.isEligible name = api.isEligible name := by
  unfold Cluster.isEligible
  cases present : api.node name with
  | none =>
      rw [present, Option.map_none, Option.map_eq_none_iff] at same
      rw [same]
  | some node =>
      rw [present, Option.map_some, Option.map_eq_some_iff] at same
      obtain ⟨node', present', sameNode⟩ := same
      rw [present']
      exact Node.isEligible_congr sameNode sameClaims

/-! ## The check before a slot is assigned -/

theorem disruptionOf_defers
    {result : KarpenterNodeClaimResult} {status : KarpenterDisruptionStatus}
    (decided : disruptionOf result = .ok status) :
    status.defers = !result.permits ∧
      (status.prefetchedClaim = none ∨
        status.prefetchedClaim = result.claim) := by
  cases result with
  | noRef | crdMissing =>
      cases decided
      exact ⟨rfl, .inl rfl⟩
  | absent =>
      cases decided
      exact ⟨rfl, .inl rfl⟩
  | found name claim =>
      unfold disruptionOf NodeClaim.isDisrupted at decided
      unfold KarpenterNodeClaimResult.permits NodeClaim.isUndisturbed
      dsimp only at decided ⊢
      cases deleting : claim.deletionTimestamp with
      | some time =>
          simp only [deleting, Option.isSome_some, if_true] at decided
          cases decided
          exact ⟨rfl, .inl rfl⟩
      | none =>
          simp only [deleting, Option.isSome_none, Bool.false_eq_true,
            if_false] at decided
          cases readable : claim.conditions with
          | error err =>
              rw [readable] at decided
              cases decided
          | ok conditions =>
              rw [readable] at decided
              simp only [Except.map, List.any_cons, List.any_nil,
                Bool.or_false] at decided
              cases active : (conditionIsTrue conditions conditionRebooting ||
                (conditionIsTrue conditions conditionDisruptionReason ||
                  conditionIsTrue conditions
                    conditionInstanceTerminating)) with
              | true =>
                  rw [active] at decided
                  cases decided
                  simp [KarpenterDisruptionStatus.defers, ← active,
                    Bool.or_assoc]
              | false =>
                  rw [active] at decided
                  cases decided
                  refine ⟨?_, .inr rfl⟩
                  simp [KarpenterDisruptionStatus.defers, active,
                    Bool.or_assoc]

theorem lookupNodeClaim_of_unowned
    {node : Node} (unowned : isNodeOwnedByKarpenterNodeClaim node = false)
    (api : Cluster) : lookupNodeClaim node api = .noRef := by
  unfold isNodeOwnedByKarpenterNodeClaim at unowned
  unfold lookupNodeClaim
  have absent : node.ownerReferences.find? OwnerReference.isNodeClaim =
      none := by
    rw [List.find?_eq_none]
    exact List.any_eq_false.mp unowned
  rw [absent]

section Disruption

variable {env : Env} {call : Call} {node : Node} {s s' : PassState}
  (fresh : env.Fresh)

include fresh

theorem ok_of_getKarpenterNodeClaim
    {result : KarpenterNodeClaimResult}
    (returned : getKarpenterNodeClaim env call node s = (.ok result, s')) :
    result = lookupNodeClaim node s.world.api ∧ s' = s := by
  unfold getKarpenterNodeClaim at returned
  split at returned
  · exact ok_of_query fresh returned
  · next unowned =>
      cases returned
      rw [lookupNodeClaim_of_unowned (by simpa using unowned)]
      exact ⟨rfl, rfl⟩

/-- A node is deferred exactly when it is not eligible. -/
theorem ok_of_isKarpenterDisruptionActive
    {status : KarpenterDisruptionStatus}
    (returned : isKarpenterDisruptionActive env call node s =
      (.ok status, s')) :
    s' = s ∧ status.defers = !node.isEligible s.world.api ∧
      (status.prefetchedClaim = none ∨
        status.prefetchedClaim =
          (lookupNodeClaim node s.world.api).claim) := by
  unfold isKarpenterDisruptionActive at returned
  unfold Node.isEligible
  split at returned
  · next deleting =>
      cases returned
      refine ⟨rfl, ?_, .inl rfl⟩
      obtain ⟨time, isTime⟩ := Option.isSome_iff_exists.mp deleting
      simp [KarpenterDisruptionStatus.defers, isTime]
  · next alive =>
      have isAlive : node.deletionTimestamp.isNone = true := by
        simpa using alive
      split at returned
      · next tainted =>
          cases returned
          refine ⟨rfl, ?_, .inl rfl⟩
          simp [KarpenterDisruptionStatus.defers, tainted]
      · next untainted =>
          have isUntainted : node.taints.any Taint.isKarpenterDisruption =
              false := by simpa using untainted
          obtain ⟨result, mid, looked, decided⟩ := ok_of_bind returned
          obtain ⟨rfl, rfl⟩ := ok_of_getKarpenterNodeClaim fresh looked
          obtain ⟨isStatus, rfl⟩ := ok_of_ofExcept decided
          obtain ⟨defers, prefetched⟩ := disruptionOf_defers isStatus
          refine ⟨rfl, ?_, prefetched⟩
          simp [defers, isAlive, isUntainted]

end Disruption

/-! ## What slot work leaves alone -/

/-- Neither the drains nor what eligibility reads of the NodeClaims has
changed. -/
structure DisruptionKept (s s' : PassState) : Prop where
  drains : s'.world.drains = s.world.drains
  claims : s.world.api.SameClaims s'.world.api

theorem Cluster.SameClaims.refl (api : Cluster) : api.SameClaims api :=
  ⟨rfl, fun _ => rfl⟩

theorem Cluster.SameClaims.trans
    {api'' : Cluster} (first : api.SameClaims api')
    (second : api'.SameClaims api'') : api.SameClaims api'' :=
  ⟨second.installed.trans first.installed, fun name =>
    (second.claims name).trans (first.claims name)⟩

instance : IsPreorder PassState DisruptionKept where
  refl := fun _ => ⟨rfl, .refl _⟩
  trans := fun _ _ _ first second =>
    ⟨second.drains.trans first.drains, first.claims.trans second.claims⟩

section Requests

variable (env : Env) (call : Call)

theorem disruptionKept_of_readsOnly
    {α : Type} {m : Pass α} (reads : ReadsOnly m) : Moves DisruptionKept m := by
  intro s
  rw [show (m s).2 = s from reads s]
  exact refl s

theorem disruptionKept_sendWrite :
    Moves DisruptionKept (Pass.sendWrite env call) :=
  Moves.bind (Moves.update fun _ => ⟨rfl, .refl _⟩) fun _ =>
    disruptionKept_of_readsOnly (readsOnly_send env call)

theorem disruptionKept_patchBootcNode
    (name : String) (base modified : BootcNode) :
    Moves DisruptionKept (Pass.patchBootcNode env call name base modified) := by
  refine Moves.bind (disruptionKept_sendWrite env call) fun _ => ?_
  refine Moves.bind (Moves.read _) fun found => ?_
  cases found with
  | none => exact Moves.fail _
  | some server => exact Moves.update fun _ => ⟨rfl, rfl, fun _ => rfl⟩

theorem disruptionKept_patchNode (name : String) (node modified : Node) :
    Moves DisruptionKept (Pass.patchNode env call name node modified) := by
  refine Moves.bind (disruptionKept_sendWrite env call) fun _ => ?_
  refine Moves.bind (Moves.read _) fun found => ?_
  cases found with
  | none => exact Moves.fail _
  | some server =>
      refine Moves.ite (Moves.fail _) ?_
      exact Moves.bind (Moves.update fun _ => ⟨rfl, rfl, fun _ => rfl⟩)
        fun _ => Moves.ret _

/-- A patch reaches the annotations of a NodeClaim only. -/
theorem disruptionKept_patchNodeClaim
    (name : String) (claim modified : NodeClaim) :
    Moves DisruptionKept (Pass.patchNodeClaim env call name claim modified) := by
  intro s
  have sent := disruptionKept_sendWrite env call s
  unfold Pass.patchNodeClaim
  rw [bind_apply]
  rcases outcome : Pass.sendWrite env call s with ⟨result, s₁⟩
  rw [outcome] at sent
  cases result with
  | error e => exact sent
  | ok value =>
      refine IsTrans.trans _ _ _ sent ?_
      dsimp only
      rw [bind_apply, read_apply]
      dsimp only
      cases present : s₁.world.api.nodeClaim name with
      | none => exact refl s₁
      | some server =>
          refine ⟨rfl, rfl, fun other => ?_⟩
          by_cases same : other = name
          · subst same
            simp [PassState.perform, World.putNodeClaim, present,
              NodeClaim.merge, NodeClaim.disruption]
          · simp [PassState.perform, World.putNodeClaim, same]

end Requests

section Nodes

variable (env : Env) (name : String)

theorem disruptionKept_restoreNodeState
    (owner : Annotations BootcNodeKey) (node : Node) :
    Moves DisruptionKept (restoreNodeState env name owner node) := by
  refine Moves.bind (Moves.ite (disruptionKept_patchNode env _ name node
    _).mapError (Moves.ret _)) fun node' => ?_
  refine Moves.bind (Moves.mapError (Moves.ite ?_ (Moves.ret _))) fun _ =>
    Moves.ret _
  refine Moves.bind (disruptionKept_of_readsOnly
    (readsOnly_getKarpenterNodeClaim env _ _)).mapError fun result => ?_
  cases result.claim with
  | none => exact Moves.ret _
  | some found =>
      exact Moves.ite (disruptionKept_patchNodeClaim env _ _ _ _).mapError
        (Moves.ret _)

theorem disruptionKept_freeCompletedSlot :
    Moves DisruptionKept (freeCompletedSlot env name) := by
  refine Moves.bind (Moves.read _) fun owned => ?_
  cases owned with
  | none => exact Moves.ret _
  | some bn =>
      refine Moves.ite ?_ (Moves.ret _)
      refine Moves.bind (disruptionKept_of_readsOnly
        (readsOnly_getNode env _ name)).mapError fun node => ?_
      refine Moves.ite (Moves.ret _) (Moves.ite ?_ (Moves.mapError ?_))
      · refine Moves.bind (Moves.mapError ?_) fun _ =>
          Moves.update fun _ => ⟨rfl, .refl _⟩
        refine Moves.bind (disruptionKept_restoreNodeState env name _ _)
          fun _ => ?_
        exact (disruptionKept_patchBootcNode env _ name bn _).mapError
      · refine Moves.bind (Moves.ite ?_ (Moves.ret _)) fun _ =>
          Moves.ite ?_ (Moves.ret _)
        · exact Moves.bind (disruptionKept_patchNode env _ name node
            _).mapError fun _ => Moves.ret _
        · exact (disruptionKept_patchBootcNode env _ name bn _).mapError

theorem readsOnly_claimToFence
    (node : Node) (prefetchedClaim : Option (String × NodeClaim)) :
    ReadsOnly (claimToFence env name node prefetchedClaim) := by
  refine Moves.ite ?_ (Moves.ret _)
  cases prefetchedClaim with
  | some claim => exact Moves.ret _
  | none =>
      refine Moves.bind (readsOnly_getKarpenterNodeClaim env _
        node).mapError fun result => ?_
      cases result with
      | found _ _ => exact Moves.ret _
      | absent => exact Moves.fail _
      | crdMissing => exact Moves.ret _
      | noRef => exact Moves.ret _

theorem disruptionKept_assignRebootSlot
    (bn : BootcNode) (node : Node)
    (prefetchedClaim : Option (String × NodeClaim)) :
    Moves DisruptionKept (assignRebootSlot env name bn node prefetchedClaim) := by
  refine Moves.bind (disruptionKept_of_readsOnly
    (readsOnly_claimToFence env name node prefetchedClaim)) fun claim => ?_
  refine Moves.bind (Moves.ite (disruptionKept_patchBootcNode env _ name bn
    _).mapError (Moves.ret _)) fun _ => ?_
  refine Moves.bind ?_ fun _ => Moves.ite ?_ (Moves.ret _)
  · unfold fenceClaim
    split
    · exact Moves.ite (disruptionKept_patchNodeClaim env _ _ _ _).mapError
        (Moves.ret _)
    · exact Moves.ret _
  · exact Moves.bind (disruptionKept_patchNode env _ name node _).mapError
      fun _ => Moves.ret _

theorem disruptionKept_processCandidate :
    Moves DisruptionKept (processCandidate env name) := by
  refine Moves.bind (Moves.read _) fun owned => ?_
  cases owned with
  | none => exact Moves.ret _
  | some bn =>
      refine Moves.bind (disruptionKept_of_readsOnly
        (readsOnly_getNode env _ name)).mapError fun node => ?_
      refine Moves.bind (disruptionKept_of_readsOnly
        (readsOnly_isKarpenterDisruptionActive env _ node)).mapError
        fun disruption => ?_
      have requeued : Moves DisruptionKept requeueForKarpenter :=
        Moves.update fun _ => ⟨rfl, .refl _⟩
      refine Moves.ite (Moves.bind requeued fun _ => Moves.ret _) ?_
      refine Moves.bind (disruptionKept_assignRebootSlot env name bn node
        _).mapError fun _ => ?_
      exact Moves.ite (Moves.bind requeued fun _ => Moves.ret _)
        (Moves.ret _)

end Nodes

section Assigned

variable {env : Env} {name : String} {bn : BootcNode} {node : Node}
  {s s' : PassState}

/-- The pass holds the BootcNodes it owns as they are stored. -/
def PassState.Tracked (s : PassState) (name : String) : Prop :=
  ∀ bn, s.owned name = some bn → s.world.api.bootcNode name = some bn

/-- What an assignment that returned has stored. -/
structure SlotAssigned (name : String) (bn : BootcNode) (node : Node)
    (s s' : PassState) : Prop where
  owned : ∃ annotations : Annotations BootcNodeKey,
    annotations.has .inRebootSlot = true ∧
    s'.owned name = some { bn with annotations := annotations } ∧
    s'.world.api.bootcNode name =
      some { bn with annotations := annotations }
  patched : ∃ node', s'.world.api.node name = some node' ∧
    node'.disruption = node.disruption
  claims : ∀ claimName, ¬ node.RefersTo claimName →
    s'.world.api.nodeClaim claimName = s.world.api.nodeClaim claimName

theorem refersTo_of_lookup
    {claimName : String} {claim : NodeClaim}
    (found : (lookupNodeClaim node api).claim = some (claimName, claim)) :
    node.RefersTo claimName := by
  unfold lookupNodeClaim at found
  cases isRef : node.ownerReferences.find? OwnerReference.isNodeClaim with
  | none =>
      rw [isRef] at found
      cases found
  | some ref =>
      rw [isRef] at found
      dsimp only at found
      split at found
      · cases found
      · split at found
        · simp only [KarpenterNodeClaimResult.claim, Option.some.injEq,
            Prod.mk.injEq] at found
          exact ⟨ref, isRef, found.1⟩
        · cases found

theorem ok_of_claimToFence
    (fresh : env.Fresh)
    {prefetched claim : Option (String × NodeClaim)}
    (isPrefetched : prefetched = none ∨
      prefetched = (lookupNodeClaim node s.world.api).claim)
    (returned : claimToFence env name node prefetched s = (.ok claim, s')) :
    s' = s ∧ ∀ claimName found, claim = some (claimName, found) →
      node.RefersTo claimName := by
  refine ⟨(readsOnly_claimToFence env name node prefetched).state_eq
    returned, fun claimName found isClaim => ?_⟩
  subst isClaim
  unfold claimToFence at returned
  split at returned
  · cases prefetched with
    | some held =>
        cases returned
        exact refersTo_of_lookup (isPrefetched.resolve_left (by simp)).symm
    | none =>
        obtain ⟨result, mid, looked, last⟩ := ok_of_bind returned
        obtain ⟨isResult, rfl⟩ :=
          ok_of_getKarpenterNodeClaim fresh (ok_of_mapError looked)
        cases result with
        | absent => cases last
        | crdMissing => cases last
        | noRef => cases last
        | found heldName held =>
            cases last
            exact refersTo_of_lookup (by rw [← isResult]; rfl)
  · cases returned

theorem ok_of_annotateSlot
    (owned : s.owned name = some bn)
    (stored : s.world.api.bootcNode name = some bn)
    {planned : Annotations BootcNodeKey}
    (sameOther : planned.other = bn.annotations.other)
    (returned : annotateSlot env name bn planned s = (.ok (), s')) :
    s'.owned name = some { bn with annotations := planned } ∧
      s'.world.api.bootcNode name =
        some { bn with annotations := planned } ∧
      s'.world.api.node = s.world.api.node ∧
      s'.world.api.nodeClaim = s.world.api.nodeClaim := by
  unfold annotateSlot at returned
  split at returned
  · obtain ⟨server, isServer, rfl⟩ :=
      ok_of_patchBootcNode (ok_of_mapError returned)
    have same := Option.some.inj (stored.symm.trans isServer)
    subst same
    rw [BootcNode.merge_annotations bn sameOther]
    exact ⟨by simp [PassState.patched, PassState.setOwned],
      by simp [PassState.patched, PassState.setOwned, PassState.perform,
        World.putBootcNode], rfl, rfl⟩
  · next same =>
      cases returned
      rw [← not_not.mp same]
      exact ⟨owned, stored, rfl, rfl⟩

theorem ok_of_fenceClaim
    {claim : Option (String × NodeClaim)}
    {planned : Option (Annotations KarpenterKey)}
    (returned : fenceClaim env name claim planned s = (.ok (), s')) :
    s'.owned = s.owned ∧ s'.world.api.bootcNode = s.world.api.bootcNode ∧
      s'.world.api.node = s.world.api.node ∧
      ∀ claimName, (∀ held, claim ≠ some (claimName, held)) →
        s'.world.api.nodeClaim claimName =
          s.world.api.nodeClaim claimName := by
  unfold fenceClaim at returned
  split at returned
  · next heldName held annotations =>
      split at returned
      · obtain ⟨server, _, rfl⟩ :=
          ok_of_patchNodeClaim (ok_of_mapError returned)
        refine ⟨rfl, rfl, rfl, fun claimName other => ?_⟩
        have different : claimName ≠ heldName := fun same =>
          other held (by rw [same])
        simp [PassState.perform, World.putNodeClaim, different]
      · cases returned
        exact ⟨rfl, rfl, rfl, fun _ _ => rfl⟩
  · cases returned
    exact ⟨rfl, rfl, rfl, fun _ _ => rfl⟩

theorem ok_of_cordonNode
    {planned : Annotations KarpenterKey}
    (present : s.world.api.node name = some node)
    (returned : cordonNode env name node planned s = (.ok (), s')) :
    s'.owned = s.owned ∧ s'.world.api.bootcNode = s.world.api.bootcNode ∧
      s'.world.api.nodeClaim = s.world.api.nodeClaim ∧
      ∃ node', s'.world.api.node name = some node' ∧
        node'.disruption = node.disruption := by
  unfold cordonNode at returned
  split at returned
  · obtain ⟨stored, mid, patched, last⟩ := ok_of_bind returned
    cases last
    obtain ⟨server, isServer, rfl, rfl⟩ :=
      ok_of_patchNode (ok_of_mapError patched)
    exact ⟨rfl, rfl, rfl, _, (World.putNode_node ..).trans (if_pos rfl),
      rfl⟩
  · cases returned
    exact ⟨rfl, rfl, rfl, node, present, rfl⟩

theorem ok_of_assignRebootSlot
    (fresh : env.Fresh)
    (owned : s.owned name = some bn)
    (stored : s.world.api.bootcNode name = some bn)
    (present : s.world.api.node name = some node)
    {prefetched : Option (String × NodeClaim)}
    (isPrefetched : prefetched = none ∨
      prefetched = (lookupNodeClaim node s.world.api).claim)
    (returned : assignRebootSlot env name bn node prefetched s =
      (.ok (), s')) :
    SlotAssigned name bn node s s' := by
  obtain ⟨claim, s₁, fetched, writes⟩ := ok_of_bind returned
  obtain ⟨rfl, refers⟩ := ok_of_claimToFence fresh isPrefetched fetched
  obtain ⟨_, s₂, annotated, later⟩ := ok_of_bind writes
  obtain ⟨_, s₃, fenced, cordoned⟩ := ok_of_bind later
  obtain ⟨owned₂, stored₂, nodes₂, claims₂⟩ := ok_of_annotateSlot owned
    stored (slotPlan_bootcNode_other ..) annotated
  obtain ⟨owned₃, stored₃, nodes₃, claims₃⟩ := ok_of_fenceClaim fenced
  have present₃ : s₃.world.api.node name = some node := by
    rw [nodes₃, nodes₂, present]
  obtain ⟨owned₄, stored₄, claims₄, patched⟩ :=
    ok_of_cordonNode present₃ cordoned
  refine ⟨⟨_, slotPlan_inRebootSlot bn node (claim.map Prod.snd), ?_, ?_⟩,
    patched, ?_⟩
  · rw [owned₄, owned₃, owned₂]
  · rw [stored₄, stored₃, stored₂]
  · intro claimName unrelated
    rw [claims₄, claims₃ claimName fun held isClaim =>
      unrelated (refers claimName held isClaim), claims₂]

/-- `processCandidate` assigns a slot exactly when the node is eligible, and
does nothing else. -/
theorem ok_of_processCandidate
    (fresh : env.Fresh)
    (owned : s.owned name = some bn) (tracked : s.Tracked name)
    {isSlotted : Bool}
    (returned : processCandidate env name s = (.ok isSlotted, s')) :
    isSlotted = s.world.api.isEligible name ∧
      ∃ node, s.world.api.node name = some node ∧
        if isSlotted then SlotAssigned name bn node s s'
        else s'.world = s.world ∧ s'.owned = s.owned ∧ s'.log = s.log := by
  have returned := ok_of_bindRead returned
  rw [owned] at returned
  obtain ⟨node, s₁, found, afterNode⟩ := ok_of_bind returned
  obtain ⟨present, rfl⟩ := ok_of_getNode fresh (ok_of_mapError found)
  obtain ⟨status, s₂, checked, decided⟩ := ok_of_bind afterNode
  obtain ⟨rfl, defers, prefetched⟩ :=
    ok_of_isKarpenterDisruptionActive fresh (ok_of_mapError checked)
  have eligible : s₂.world.api.isEligible name =
      node.isEligible s₂.world.api := by
    rw [Cluster.isEligible, present]
  rw [eligible]
  by_cases deferred : status.claimMissing = true ∨ status.active = true
  · rw [if_pos deferred] at decided
    obtain ⟨_, s₃, requeued, last⟩ := ok_of_bind decided
    cases last
    cases requeued
    have isDeferred : status.defers = true := by
      simpa [KarpenterDisruptionStatus.defers] using deferred
    rw [isDeferred] at defers
    refine ⟨by simpa using defers.symm, node, present, ?_⟩
    exact ⟨rfl, rfl, rfl⟩
  · rw [if_neg deferred] at decided
    obtain ⟨_, s₃, assigned, last⟩ := ok_of_bind decided
    have isReady : status.defers = false := by
      simpa [KarpenterDisruptionStatus.defers] using deferred
    rw [isReady] at defers
    have slot := ok_of_assignRebootSlot fresh owned (tracked bn owned)
      present prefetched (ok_of_mapError assigned)
    dsimp only at last
    split_ifs at last
    · obtain ⟨_, s₄, requeued, last⟩ := ok_of_bind last
      cases last
      cases requeued
      exact ⟨by simpa using defers.symm, node, present, slot.owned,
        slot.patched, slot.claims⟩
    · cases last
      exact ⟨by simpa using defers.symm, node, present, slot⟩

end Assigned

section Drained

variable {env : Env} {name : String} {s s' : PassState}

/-- In a slot, and not yet approved. -/
def BootcNode.awaitsDrain (bn : BootcNode) : Bool :=
  bn.inRebootSlot && decide (bn.spec.desiredImageState ≠ .booted)

/-- What the loop over the drains has done for one node. -/
structure DrainEnsured (name : String) (s s' : PassState) : Prop where
  owned : s'.owned = s.owned
  api : s'.world.api = s.world.api
  kept : ∀ status, s.world.drains name = some status →
    s'.world.drains name = some status
  started : ∀ bn, s.owned name = some bn → bn.awaitsDrain = true →
    s.world.api.isEligible name = true → s'.world.drains name ≠ none
  log : s'.log = s.log ∨ (s.world.api.isEligible name = true ∧
    ∃ entry, s'.log = s.log ++ [entry] ∧ entry.action = .startDrain name)

theorem DrainEnsured.of_idle
    (idle : ∀ bn, s.owned name = some bn → bn.awaitsDrain = true →
      s.world.api.isEligible name = false)
    (world : s'.world = s.world) (owned : s'.owned = s.owned)
    (log : s'.log = s.log) : DrainEnsured name s s' where
  owned := owned
  api := by rw [world]
  kept status present := by rw [world, present]
  started bn isOwned awaits isEligible := by
    rw [idle bn isOwned awaits] at isEligible
    cases isEligible
  log := .inl log

theorem ok_of_ensureDrain
    (eligible : s.world.api.isEligible name = true)
    (returned : ensureDrain env name s = (.ok (), s')) :
    DrainEnsured name s s' := by
  have returned := ok_of_bindRead returned
  cases entry : s.world.drains name with
  | some status =>
      rw [entry] at returned
      cases returned
      exact
        { owned := rfl
          api := rfl
          kept := fun _ present => present
          started := fun _ _ _ _ => by simp [entry]
          log := .inl rfl }
  | none =>
      rw [entry] at returned
      cases returned
      refine
        { owned := rfl
          api := rfl
          kept := fun status present => ?_
          started := fun _ _ _ _ => ?_
          log := .inr ⟨eligible, _, rfl, rfl⟩ }
      · rw [entry] at present
        cases present
      · simp [PassState.perform, World.putDrain]

theorem ok_of_drainStaged
    (fresh : env.Fresh)
    (returned : drainStaged env name s = (.ok (), s')) :
    DrainEnsured name s s' := by
  have returned := ok_of_bindRead returned
  cases owned : s.owned name with
  | none =>
      rw [owned] at returned
      cases returned
      exact .of_idle (by simp [owned]) rfl rfl rfl
  | some bn =>
      rw [owned] at returned
      dsimp only at returned
      by_cases done : bn.inRebootSlot = false ∨
          bn.spec.desiredImageState = .booted
      · rw [if_pos done] at returned
        cases returned
        refine .of_idle (fun bn' owned' awaits => ?_) rfl rfl rfl
        have same := Option.some.inj (owned.symm.trans owned')
        subst same
        simp only [BootcNode.awaitsDrain, Bool.and_eq_true,
          decide_eq_true_eq] at awaits
        rcases done with unslotted | approved
        · exact absurd (unslotted.symm.trans awaits.1) (by simp)
        · exact absurd approved awaits.2
      · rw [if_neg done] at returned
        obtain ⟨node, s₁, found, afterNode⟩ := ok_of_bind returned
        obtain ⟨present, rfl⟩ := ok_of_getNode fresh (ok_of_mapError found)
        obtain ⟨status, s₂, checked, decided⟩ := ok_of_bind afterNode
        obtain ⟨rfl, defers, _⟩ :=
          ok_of_isKarpenterDisruptionActive fresh (ok_of_mapError checked)
        have eligible : s₂.world.api.isEligible name = !status.defers := by
          rw [defers, Bool.not_not, Cluster.isEligible, present]
        by_cases deferred : status.claimMissing = true ∨ status.active = true
        · rw [if_pos deferred] at decided
          cases decided
          have isDeferred : status.defers = true := by
            simpa [KarpenterDisruptionStatus.defers] using deferred
          refine .of_idle (fun _ _ _ => ?_) rfl rfl rfl
          rw [eligible, isDeferred]
          rfl
        · rw [if_neg deferred] at decided
          refine ok_of_ensureDrain ?_ decided
          rw [eligible]
          simpa [KarpenterDisruptionStatus.defers] using deferred

end Drained

section Freed

variable {env : Env} {name : String} {node : Node} {s s' : PassState}

variable {bn : BootcNode}

/-- The pass's copy of the BootcNode is in a slot. -/
def PassState.holdsSlot (s : PassState) (name : String) : Bool :=
  slottedWith s.owned (fun _ => true) name

theorem PassState.holdsSlot_of_owned (owned : s.owned name = some bn) :
    s.holdsSlot name = bn.inRebootSlot := by
  simp [holdsSlot, slottedWith, owned]

/-- The state apart from Nodes and NodeClaims. -/
def PassState.slots (s : PassState) :
    (String → Option BootcNode) × (String → Option BootcNode) ×
      RolloutState :=
  (s.owned, s.world.api.bootcNode, s.rs)

theorem ok_of_restoreNodeClaimState
    (fresh : env.Fresh) {owner : Annotations BootcNodeKey}
    (returned : restoreNodeClaimState env name owner node s = (.ok (), s')) :
    s'.slots = s.slots ∧ ∀ claimName, ¬ node.RefersTo claimName →
      s'.world.api.nodeClaim claimName =
        s.world.api.nodeClaim claimName := by
  unfold restoreNodeClaimState at returned
  split at returned
  · obtain ⟨result, mid, looked, later⟩ := ok_of_bind returned
    obtain ⟨isResult, rfl⟩ :=
      ok_of_getKarpenterNodeClaim fresh (ok_of_mapError looked)
    rcases isClaim : result.claim with _ | ⟨heldName, held⟩
    · rw [isClaim] at later
      cases later
      exact ⟨rfl, fun _ _ => rfl⟩
    · rw [isClaim] at later
      have refers : node.RefersTo heldName :=
        refersTo_of_lookup (isResult ▸ isClaim)
      dsimp only at later
      split at later
      · obtain ⟨server, _, rfl⟩ :=
          ok_of_patchNodeClaim (ok_of_mapError later)
        refine ⟨rfl, fun claimName unrelated => ?_⟩
        have different : claimName ≠ heldName := fun same =>
          unrelated (same ▸ refers)
        simp [PassState.perform, World.putNodeClaim, different]
      · cases later
        exact ⟨rfl, fun _ _ => rfl⟩
  · cases returned
    exact ⟨rfl, fun _ _ => rfl⟩

theorem ok_of_restoreNodeState
    (fresh : env.Fresh)
    {owner : Annotations BootcNodeKey} {left : Node}
    (returned : restoreNodeState env name owner node s = (.ok left, s')) :
    s'.slots = s.slots ∧ ∀ claimName, ¬ node.RefersTo claimName →
      s'.world.api.nodeClaim claimName =
        s.world.api.nodeClaim claimName := by
  obtain ⟨node', s₁, patched, later⟩ := ok_of_bind returned
  obtain ⟨_, s₂, restored, last⟩ := ok_of_bind later
  cases last
  obtain ⟨slots₁, claims₁, references⟩ : s₁.slots = s.slots ∧
      s₁.world.api.nodeClaim = s.world.api.nodeClaim ∧
      left.ownerReferences = node.ownerReferences := by
    unfold patchRestoredNode at patched
    split at patched
    · obtain ⟨server, _, rfl, rfl⟩ :=
        ok_of_patchNode (ok_of_mapError patched)
      exact ⟨rfl, rfl, rfl⟩
    · cases patched
      exact ⟨rfl, rfl, rfl⟩
  obtain ⟨slots₂, claims₂⟩ :=
    ok_of_restoreNodeClaimState fresh (ok_of_mapError restored)
  refine ⟨slots₂.trans slots₁, fun claimName unrelated => ?_⟩
  rw [claims₂ claimName ?_, claims₁]
  unfold Node.RefersTo
  rw [references]
  exact unrelated

/-- What the loop over the completed nodes has done for one node. -/
structure SlotSettled (name : String) (s s' : PassState) : Prop where
  tracked : s'.Tracked name
  claims : ∀ claimName,
    (∀ node, s.world.api.node name = some node →
      ¬ node.RefersTo claimName) →
    s'.world.api.nodeClaim claimName = s.world.api.nodeClaim claimName
  count :
    (s'.holdsSlot name = s.holdsSlot name ∧
      s'.rs.occupiedSlots = s.rs.occupiedSlots) ∨
    (s.holdsSlot name = true ∧ s'.holdsSlot name = false ∧
      s'.rs.occupiedSlots = s.rs.occupiedSlots - 1)

theorem SlotSettled.refl (tracked : s.Tracked name) :
    SlotSettled name s s :=
  ⟨tracked, fun _ _ => rfl, .inl ⟨rfl, rfl⟩⟩

theorem ok_of_patchAnnotations
    {call : Call} (stored : s.world.api.bootcNode name = some bn)
    {annotations : Annotations BootcNodeKey}
    (returned : Pass.patchBootcNode env call name bn
      { bn with annotations := annotations } s = (.ok (), s'))
    (sameOther : annotations.other = bn.annotations.other) :
    s'.Tracked name ∧
      s'.holdsSlot name = annotations.has .inRebootSlot ∧
      s'.rs = s.rs ∧
      s'.world.api.nodeClaim = s.world.api.nodeClaim := by
  obtain ⟨server, isServer, rfl⟩ := ok_of_patchBootcNode returned
  have same := Option.some.inj (stored.symm.trans isServer)
  subst same
  rw [BootcNode.merge_annotations bn sameOther]
  refine ⟨fun bn' owned => ?_, ?_, rfl, rfl⟩
  · rw [PassState.patched_owned_self] at owned
    simpa [PassState.patched, PassState.setOwned, PassState.perform,
      World.putBootcNode] using owned
  · rw [PassState.holdsSlot_of_owned (PassState.patched_owned_self ..)]
    rfl

theorem ok_of_freeRebootSlot
    (fresh : env.Fresh) (stored : s.world.api.bootcNode name = some bn)
    (returned : freeRebootSlot env name bn node s = (.ok (), s')) :
    s'.Tracked name ∧ s'.holdsSlot name = false ∧ s'.rs = s.rs ∧
      ∀ claimName, ¬ node.RefersTo claimName →
        s'.world.api.nodeClaim claimName =
          s.world.api.nodeClaim claimName := by
  obtain ⟨left, s₁, restored, patched⟩ := ok_of_bind returned
  obtain ⟨slots₁, claims₁⟩ := ok_of_restoreNodeState fresh restored
  have stored₁ : s₁.world.api.bootcNode name = some bn := by
    rw [show s₁.world.api.bootcNode = s.world.api.bootcNode from
      congrArg (Prod.fst ∘ Prod.snd) slots₁, stored]
  have rollout₁ : s₁.rs = s.rs := congrArg (Prod.snd ∘ Prod.snd) slots₁
  obtain ⟨tracked, unslotted, rollout, claims⟩ :=
    ok_of_patchAnnotations stored₁ (ok_of_mapError patched) rfl
  refine ⟨tracked, ?_, rollout.trans rollout₁, fun claimName unrelated => ?_⟩
  · rw [unslotted, freedAnnotations_inRebootSlot]
  · rw [claims, claims₁ claimName unrelated]

theorem ok_of_removeOsNotReady
    (owned : s.owned name = some bn)
    (stored : s.world.api.bootcNode name = some bn)
    (returned : removeOsNotReadyTaintAndAnnotation env name bn node s =
      (.ok (), s')) :
    s'.Tracked name ∧ s'.holdsSlot name = s.holdsSlot name ∧
      s'.rs = s.rs ∧
      s'.world.api.nodeClaim = s.world.api.nodeClaim := by
  obtain ⟨_, s₁, untainted, cleared⟩ := ok_of_bind returned
  obtain ⟨slots₁, claims₁⟩ : s₁.slots = s.slots ∧
      s₁.world.api.nodeClaim = s.world.api.nodeClaim := by
    unfold untaintNode at untainted
    split at untainted
    · obtain ⟨left, mid, patched, last⟩ := ok_of_bind untainted
      cases last
      obtain ⟨server, _, rfl, rfl⟩ :=
        ok_of_patchNode (ok_of_mapError patched)
      exact ⟨rfl, rfl⟩
    · cases untainted
      exact ⟨rfl, rfl⟩
  have owned₁ : s₁.owned name = some bn := by
    rw [show s₁.owned = s.owned from congrArg Prod.fst slots₁, owned]
  have stored₁ : s₁.world.api.bootcNode name = some bn := by
    rw [show s₁.world.api.bootcNode = s.world.api.bootcNode from
      congrArg (Prod.fst ∘ Prod.snd) slots₁, stored]
  have rollout₁ : s₁.rs = s.rs := congrArg (Prod.snd ∘ Prod.snd) slots₁
  rw [PassState.holdsSlot_of_owned owned]
  split at cleared
  · obtain ⟨tracked, slot, rollout, claims⟩ :=
      ok_of_patchAnnotations stored₁ (ok_of_mapError cleared) rfl
    refine ⟨tracked, ?_, rollout.trans rollout₁, claims.trans claims₁⟩
    rw [slot]
    simp [BootcNode.inRebootSlot, Annotations.has]
  · cases cleared
    refine ⟨fun bn' owned' => ?_, PassState.holdsSlot_of_owned owned₁,
      rollout₁, claims₁⟩
    rw [← owned', owned₁, stored₁]

theorem ok_of_freeCompletedSlot
    (fresh : env.Fresh)
    (tracked : s.Tracked name)
    (returned : freeCompletedSlot env name s = (.ok (), s')) :
    SlotSettled name s s' := by
  have returned := ok_of_bindRead returned
  cases owned : s.owned name with
  | none =>
      rw [owned] at returned
      cases returned
      exact .refl tracked
  | some bn =>
      rw [owned] at returned
      dsimp only at returned
      split at returned
      · obtain ⟨node, s₁, found, released⟩ := ok_of_bind returned
        obtain ⟨present, rfl⟩ := ok_of_getNode fresh (ok_of_mapError found)
        unfold releaseCompleted at released
        split at released
        · cases released
          exact .refl tracked
        split at released
        · next slotted =>
            obtain ⟨_, s₂, freed, last⟩ := ok_of_bind released
            cases last
            obtain ⟨tracked₂, unslotted, rollout, claims⟩ :=
              ok_of_freeRebootSlot fresh (tracked bn owned)
                (ok_of_mapError freed)
            refine ⟨tracked₂, fun claimName unrelated =>
              claims claimName (unrelated node present), .inr ⟨?_, ?_, ?_⟩⟩
            · rw [PassState.holdsSlot_of_owned owned, slotted]
            · exact unslotted
            · rw [← rollout]
        · obtain ⟨tracked₂, slot, rollout, claims⟩ :=
            ok_of_removeOsNotReady owned (tracked bn owned)
              (ok_of_mapError released)
          exact ⟨tracked₂, fun claimName _ => by rw [claims],
            .inl ⟨slot, by rw [rollout]⟩⟩
      · cases returned
        exact .refl tracked

end Freed

section Collected

variable {env : Env} {name : String} {s s' : PassState}

/-- A BootcNode apart from its approval. -/
def BootcNode.core (bn : BootcNode) :
    Annotations BootcNodeKey × BootcNodeStatus × String :=
  (bn.annotations, bn.status, bn.spec.desiredImage)

/-- What the loop over the drains has done for one node. -/
structure DrainSettled (name : String) (s s' : PassState) : Prop where
  tracked : s'.Tracked name
  core : (s'.owned name).map BootcNode.core =
    (s.owned name).map BootcNode.core
  running : ∀ status, s.world.drains name = some status →
    status.outcome = .running → s'.world.drains name = some status

theorem DrainSettled.refl (tracked : s.Tracked name) :
    DrainSettled name s s :=
  ⟨tracked, rfl, fun _ present _ => present⟩

theorem DrainSettled.forgotten
    (tracked : s.Tracked name)
    {status : DrainStatus} (entry : s.world.drains name = some status)
    (finished : status.outcome ≠ .running) (action : Action) :
    DrainSettled name s
      (s.perform action (s.world.putDrain name none)) where
  tracked := tracked
  core := rfl
  running other present isRunning := by
    rw [entry, Option.some.injEq] at present
    exact absurd (present ▸ isRunning) finished

theorem ok_of_approveReboot
    {bn : BootcNode} (stored : s.world.api.bootcNode name = some bn)
    (returned : approveReboot env name bn s = (.ok (), s')) :
    s'.Tracked name ∧ (s'.owned name).map BootcNode.core = some bn.core := by
  obtain ⟨result, s₁, sent, later⟩ := ok_of_bind returned
  rw [attempt_apply] at sent
  cases result with
  | error err =>
      obtain ⟨_, _, _, last⟩ := ok_of_bind later
      cases last
  | ok value =>
      have accepted : Pass.sendWrite env (.approve name) s =
          (.ok value, s₁) := by
        simp only [Prod.mk.injEq, Except.ok.injEq] at sent
        exact Prod.ext sent.1 sent.2
      have isSent := ok_of_sendWrite accepted
      subst isSent
      have later := ok_of_bindRead later
      rw [show (s.sent (.approve name)).world.api.bootcNode name = some bn
        from stored] at later
      cases later
      rw [BootcNode.merge_spec]
      refine ⟨fun bn' owned => ?_, ?_⟩
      · simpa [PassState.setOwned, PassState.perform, World.putBootcNode]
          using owned
      · simp [PassState.setOwned, PassState.perform, BootcNode.setSpec,
          BootcNode.core]

theorem ok_of_collectDrainResult
    (tracked : s.Tracked name)
    (returned : collectDrainResult env name s = (.ok (), s')) :
    DrainSettled name s s' := by
  have returned := ok_of_bindRead returned
  cases entry : s.world.drains name with
  | none =>
      rw [entry] at returned
      cases returned
      exact .refl tracked
  | some status =>
      rw [entry] at returned
      dsimp only at returned
      cases outcome : status.outcome with
      | running =>
          rw [outcome] at returned
          cases returned
          exact .refl tracked
      | failed err =>
          rw [outcome] at returned
          have finished : status.outcome ≠ .running := by simp [outcome]
          have returned := ok_of_bindRead returned
          split at returned
          · have returned := ok_of_bindRead returned
            cases returned
            exact .forgotten tracked entry finished _
          · cases returned
            exact .forgotten tracked entry finished _
      | succeeded =>
          rw [outcome] at returned
          have finished : status.outcome ≠ .running := by simp [outcome]
          have returned := ok_of_bindRead returned
          cases owned : s.owned name with
          | none =>
              rw [owned] at returned
              cases returned
              exact .forgotten tracked entry finished _
          | some bn =>
              rw [owned] at returned
              obtain ⟨tracked', core⟩ := ok_of_approveReboot
                (tracked bn owned) (ok_of_mapError returned)
              refine ⟨tracked', core.trans (by rw [owned]; rfl), ?_⟩
              intro other present isRunning
              rw [entry, Option.some.injEq] at present
              exact absurd (present ▸ isRunning) finished

/-- The objects that eligibility reads. -/
def PassState.targets (s : PassState) :
    (String → Option Node) × (String → Option NodeClaim) × Bool :=
  (s.world.api.node, s.world.api.nodeClaim, s.world.api.nodeClaimCRD)

theorem keepsTargets_collectDrainResults (env : Env) :
    Moves (Keeping PassState.targets) (collectDrainResults env) := by
  have forget (name : String) :
      Moves (Keeping PassState.targets) (forgetDrain name) :=
    Moves.update fun _ => rfl
  refine Moves.forEach fun name => ?_
  refine Moves.bind (Moves.read _) fun entry => ?_
  cases entry with
  | none => exact Moves.ret _
  | some status =>
      dsimp only
      cases status.outcome with
      | running => exact Moves.ret _
      | failed err =>
          refine Moves.bind (Moves.read _) fun owned =>
            Moves.ite ?_ (forget name)
          exact Moves.bind (Moves.read _) fun _ => Moves.update fun _ => rfl
      | succeeded =>
          refine Moves.bind (Moves.read _) fun owned => ?_
          cases owned with
          | none => exact forget name
          | some bn =>
              refine Moves.mapError ?_
              refine Moves.bind (Moves.attempt (Moves.bind
                (Moves.update fun _ => rfl) fun _ => ?_)) fun result => ?_
              · exact fun s => congrArg PassState.targets
                  (readsOnly_send env _ s)
              cases result with
              | error err => exact Moves.bind (forget name) fun _ => Moves.fail _
              | ok _ =>
                  refine Moves.bind (Moves.read _) fun found => ?_
                  cases found with
                  | none => exact Moves.bind (forget name) fun _ => Moves.fail _
                  | some server => exact Moves.update fun _ => rfl

end Collected

end BootcOperator
