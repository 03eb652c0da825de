import BootcOperator.Effects.Confined
import BootcOperator.Effects.Membership

/-!
# The results of membership work on one node

Rules for the functions of `Controller.Membership` that work on one node, of
which only the result matters: the state is followed under the name of the
node and stays as it was under every other name.
-/

namespace BootcOperator

open Program BootcNodePoolReconciler

/-! ## One node -/

def Node.unversioned (node : Node) : Node :=
  { node with resourceVersion := 0 }

@[simp]
theorem Node.unversioned_store (server modified : Node) :
    (server.store modified).unversioned = modified.unversioned :=
  rfl

def Node.labelled (node : Node) : Node :=
  { node with
    labels :=
      { node.labels with managed := some (node.labels.managed.getD "") } }

def Node.unlabelled (node : Node) : Node :=
  { node with labels := { node.labels with managed := none } }

theorem Node.unversioned_unlabelled (node : Node) :
    node.unlabelled.unversioned = node.unversioned.unlabelled :=
  rfl

theorem Node.labelled_of_isSome
    {node : Node} (present : node.labels.managed.isSome = true) :
    node.labelled = node := by
  obtain ⟨value, isValue⟩ := Option.isSome_iff_exists.mp present
  have same : some (node.labels.managed.getD "") = node.labels.managed := by
    rw [isValue]
    rfl
  rw [Node.labelled, same]

theorem Node.unlabelled_of_none
    {node : Node} (absent : node.labels.managed = none) :
    node.unlabelled = node := by
  rw [Node.unlabelled, ← absent]

/-- The Node of a BootcNode that leaves the pool: what the operator has done
to it is taken back, and the startup taint stays. -/
def Node.handedBack (node : Node) (bn : BootcNode) : Node :=
  (restoredNode (bn.annotations.delete .ownsOsNotReadyTaint)
    node).unlabelled

/-- The state differs from an earlier one under one name at most. -/
structure Local (s₀ : PassState) (name : String) (look : Look)
    (s : PassState) : Prop where
  pool : s.pool = s₀.pool
  here : s.look name = look
  elsewhere : ∀ other, other ≠ name → s.look other = s₀.look other

namespace Local

variable {s₀ s : PassState} {name : String} {look : Look}

theorem refl (s : PassState) (name : String) :
    Local s name (s.look name) s :=
  ⟨rfl, rfl, fun _ _ => rfl⟩

theorem issued (isLocal : Local s₀ name look s) (calls : List Call) :
    Local s₀ name look { s with issued := calls } :=
  ⟨isLocal.pool, isLocal.here, isLocal.elsewhere⟩

theorem putNode
    (isLocal : Local s₀ name look s) (action : Action) (node : Node) :
    Local s₀ name { look with node := some node }
      (s.perform action (s.world.putNode name node)) := by
  refine ⟨isLocal.pool, ?_, fun other different => ?_⟩
  · rw [← isLocal.here]
    simp [PassState.look, PassState.perform, World.putNode]
  · rw [← isLocal.elsewhere other different]
    simp [PassState.look, PassState.perform, World.putNode, different]

theorem putBootcNode
    (isLocal : Local s₀ name look s) (action : Action)
    (bn : Option BootcNode) :
    Local s₀ name { look with bootcNode := bn }
      (s.perform action (s.world.putBootcNode name bn)) := by
  refine ⟨isLocal.pool, ?_, fun other different => ?_⟩
  · rw [← isLocal.here]
    simp [PassState.look, PassState.perform, World.putBootcNode]
  · rw [← isLocal.elsewhere other different]
    simp [PassState.look, PassState.perform, World.putBootcNode, different]

theorem setOwned
    (isLocal : Local s₀ name look s) (owned : Option BootcNode) :
    Local s₀ name { look with owned := owned } (s.setOwned name owned) := by
  refine ⟨isLocal.pool, ?_, fun other different => ?_⟩
  · rw [← isLocal.here]
    simp [PassState.look, PassState.setOwned]
  · rw [← isLocal.elsewhere other different]
    simp [PassState.look, PassState.setOwned, different]

theorem patched
    (isLocal : Local s₀ name look s) (call : Call) (bn : BootcNode) :
    Local s₀ name { look with bootcNode := some bn, owned := some bn }
      (s.patched call name bn) :=
  (isLocal.putBootcNode (.wrote call) (some bn)).setOwned (some bn)

theorem putDrain
    (isLocal : Local s₀ name look s) (action : Action)
    (drain : Option DrainStatus) :
    Local s₀ name look (s.perform action (s.world.putDrain name drain)) :=
  ⟨isLocal.pool, isLocal.here, isLocal.elsewhere⟩

theorem putNodeClaim
    (isLocal : Local s₀ name look s) (action : Action) (claimName : String)
    (claim : NodeClaim) :
    Local s₀ name look
      (s.perform action (s.world.putNodeClaim claimName claim)) :=
  ⟨isLocal.pool, isLocal.here, isLocal.elsewhere⟩

theorem node_eq (isLocal : Local s₀ name look s) :
    s.world.api.node name = look.node :=
  congrArg Look.node isLocal.here

theorem bootcNode_eq (isLocal : Local s₀ name look s) :
    s.world.api.bootcNode name = look.bootcNode :=
  congrArg Look.bootcNode isLocal.here

theorem owned_eq (isLocal : Local s₀ name look s) :
    s.owned name = look.owned :=
  congrArg Look.owned isLocal.here

end Local

/-! ## Work on one node -/

/-- Programs of which only the result matters. -/
abbrev unobserved : Program.Regime PassState Seen :=
  observing fun _ _ => True

section Work

variable {env : Env} {exc : ApiError → PassState → Prop} {s₀ : PassState}
  {name : String} {bn owned : Option BootcNode} {node : Node}

variable {owner : Annotations BootcNodeKey} {r : BootcNodePoolReconciler}

theorem yields_ensureManagedLabel
    {call : Call} {managed : Bool} (stopped : Yields env exc) :
    unobserved.Follows (Local s₀ name ⟨bn, some node, owned⟩)
      (ensureManagedLabel env call name node managed)
      (fun node' s => Local s₀ name ⟨bn, some node', owned⟩ s ∧
        node'.unversioned =
          (if managed then node.labelled else node.unlabelled).unversioned)
      exc := by
  unfold ensureManagedLabel
  refine .ite (fun same => .ret fun s before => ⟨before, ?_⟩) fun changes => ?_
  · cases managed with
    | true => simp [Node.labelled_of_isSome same]
    | false => simp [Node.unlabelled_of_none (by simpa using same)]
  · refine follows_patchNode (fun s calls before => before.issued calls)
      stopped.stops (fun s before => before.node_eq)
      (fun _ _ => trivial) fun s before => ⟨before.putNode _ _, ?_⟩
    cases managed with
    | true =>
        have absent : node.labels.managed = none := by simpa using changes
        simp [Node.labelled, absent]
    | false => rfl

theorem yields_restoreNodeClaimState
    {look : Look} (stopped : Yields env exc) (fresh : env.Fresh) :
    unobserved.Follows (Local s₀ name look)
      (restoreNodeClaimState env name owner node)
      (fun _ s => Local s₀ name look s) exc := by
  unfold restoreNodeClaimState
  refine .ite (fun _ => ?_) fun _ => .ret fun _ before => before
  refine .bind (.mapError
    (follows_getKarpenterNodeClaim fresh (stopped.wrap _)))
    fun result => ?_
  cases result with
  | noRef => exact .ret fun _ before => before.1
  | crdMissing => exact .ret fun _ before => before.1
  | absent => exact .ret fun _ before => before.1
  | found claimName claim =>
      refine .ite (fun _ => .mapError ?_) fun _ =>
        .ret fun _ before => before.1
      refine follows_patchNodeClaim
        (fun s calls before => ⟨before.1.issued calls, before.2⟩)
        (stopped.wrap _).stops
        (fun s before => before.2 claimName claim rfl) rfl
        (fun _ _ => trivial) fun s before => before.1.putNodeClaim _ _ _

theorem removeOsNotReadyTaint_of_absent
    {taints : List Taint} (absent : taints.any Taint.isOsNotReady = false) :
    removeOsNotReadyTaint taints = taints := by
  unfold removeOsNotReadyTaint
  rw [List.filter_eq_self]
  intro taint member
  rw [List.any_eq_false] at absent
  simpa using absent taint member

theorem restoredNode_of_unchanged
    (unchanged : restoreChanges owner node = false) :
    restoredNode owner node = node := by
  simp only [restoreChanges, Bool.or_eq_false_iff, Bool.and_eq_false_iff,
    decide_eq_false_iff_not] at unchanged
  obtain ⟨⟨⟨repair, disrupt⟩, record⟩, untainted⟩ := unchanged
  have taints : (if owner.has .ownsOsNotReadyTaint then
      removeOsNotReadyTaint node.taints else node.taints) = node.taints := by
    rcases untainted with unowned | absent
    · rw [unowned, if_neg (by simp)]
    · rw [removeOsNotReadyTaint_of_absent absent, ite_self]
  simp [restoredNode, removeOwnedAnnotation, repair, disrupt, record, taints]

theorem yields_restoreNodeState
    (stopped : Yields env exc) (fresh : env.Fresh) :
    unobserved.Follows (Local s₀ name ⟨bn, some node, owned⟩)
      (restoreNodeState env name owner node)
      (fun node' s => Local s₀ name ⟨bn, some node', owned⟩ s ∧
        node'.unversioned = (restoredNode owner node).unversioned)
      exc := by
  refine .bindVia
    (fun node' s => Local s₀ name ⟨bn, some node', owned⟩ s ∧
      node'.unversioned = (restoredNode owner node).unversioned)
    (.ite (fun _ => .mapError ?_) fun unchanged => ?_) fun node' => ?_
  · exact follows_patchNode (fun s calls before => before.issued calls)
      (stopped.wrap _).stops (fun s before => before.node_eq)
      (fun _ _ => trivial) fun s before => ⟨before.putNode _ _, rfl⟩
  · refine .ret fun s before => ⟨before, ?_⟩
    rw [restoredNode_of_unchanged (by simpa using unchanged)]
  · refine .assume fun restored => .bindVia
      (fun _ => Local s₀ name ⟨bn, some node', owned⟩)
      (.mapError (yields_restoreNodeClaimState (stopped.wrap _) fresh))
      fun _ => .ret fun s after => ⟨after, restored⟩

theorem yields_releaseNode
    {departing : BootcNode} (stopped : Yields env exc)
    (fresh : env.Fresh) :
    unobserved.Follows (Local s₀ name ⟨bn, some node, owned⟩)
      (releaseNode env name departing node)
      (fun _ s => ∃ node', Local s₀ name ⟨bn, some node', owned⟩ s ∧
        node'.unversioned = (node.handedBack departing).unversioned)
      exc := by
  refine .bind (.mapError (yields_restoreNodeState (stopped.wrap _) fresh))
    fun node' => .assume fun restored => ?_
  refine .bind (.mapError
    (yields_ensureManagedLabel (stopped.wrap _))) fun node'' => ?_
  refine .ret fun s after => ⟨node'', after.1, ?_⟩
  have released := after.2
  simp only [Bool.false_eq_true, if_false] at released
  rw [released, Node.handedBack, Node.unversioned_unlabelled, restored,
    ← Node.unversioned_unlabelled]

/-- The Node is restored by the records, unless it is being deleted. -/
def HandedBack (bn : BootcNode) (before after : Option Node) : Prop :=
  match before with
  | none => after = none
  | some node =>
      if node.deletionTimestamp = none then
        ∃ node', after = some node' ∧
          node'.unversioned = (node.handedBack bn).unversioned
      else after = some node

theorem yields_removeBootcNode
    {departing : BootcNode} {before : Option Node}
    (stopped : Yields env exc)
    (fresh : env.Fresh) :
    unobserved.Follows (Local s₀ name ⟨bn, before, owned⟩)
      (removeBootcNode env name departing)
      (fun _ s => ∃ after, Local s₀ name ⟨none, after, owned⟩ s ∧
        HandedBack departing before after) exc := by
  have delete : ∀ after, HandedBack departing before after →
      unobserved.Follows (Local s₀ name ⟨bn, after, owned⟩)
        (mapError (.wrap "deleting BootcNode: ")
          (Pass.deleteBootcNode env (.deleteBootcNode name) name))
        (fun _ s => ∃ after, Local s₀ name ⟨none, after, owned⟩ s ∧
          HandedBack departing before after) exc := by
    intro after handedBack
    exact .mapError (follows_deleteBootcNode
      (fun s calls holds => holds.issued calls)
      (stopped.wrap _).stops (fun _ _ => trivial)
      fun s holds => ⟨after, holds.putBootcNode _ none, handedBack⟩)
  have cancelled : unobserved.Follows (Local s₀ name ⟨bn, before, owned⟩)
      (cancelDrain name) (fun _ s => Local s₀ name ⟨bn, before, owned⟩ s)
      exc := by
    refine .bindRead fun drain => ?_
    cases drain with
    | none => exact .ret fun _ holds => holds.1
    | some _ => exact .step (fun _ _ => trivial) fun s holds => holds.1.putDrain _ _
  refine .bind cancelled fun _ => ?_
  refine .bind (.mapError (follows_query fresh
    (stopped.wrap _).stops)) fun found => ?_
  refine .know (found = before)
    (fun s holds => holds.2.trans holds.1.node_eq) fun isFound => ?_
  subst isFound
  refine .conseq ?_ (fun s holds => holds.1) (fun _ _ after => after)
    fun _ _ after => after
  cases found with
  | none => exact delete none rfl
  | some node =>
      refine .ite (fun alive => ?_) fun terminating => ?_
      · refine .bind (yields_releaseNode stopped fresh) fun _ =>
          .given fun node' => .assume fun released => delete (some node') ?_
        rw [HandedBack, if_pos alive]
        exact ⟨node', rfl, released⟩
      · refine delete (some node) ?_
        rw [HandedBack, if_neg terminating]

/-- The BootcNode of a Node that matches, unless it is another pool's. -/
def memberBootcNode (r : BootcNodePoolReconciler) (pool : BootcNodePool)
    (node : Node) : Option BootcNode → BootcNode
  | none => r.newBootcNode pool node
  | some bn => bn.setSpec (r.syncedSpec pool bn.spec)

theorem BootcNode.setSpec_self (bn : BootcNode) :
    bn.setSpec bn.spec = bn := by
  simp [BootcNode.setSpec]

/-- What the first loop of `syncMembership` does under a name. -/
inductive SyncOutcome (r : BootcNodePoolReconciler) (pool : BootcNodePool)
    (node : Node) (before : Look) : List String → Look → Prop
  | joined {node' : Node} :
      (∀ bn, before.bootcNode = some bn → bn.isControlledBy pool = true) →
      node'.unversioned = node.labelled.unversioned →
      SyncOutcome r pool node before []
        { bootcNode := some (memberBootcNode r pool node before.bootcNode)
          node := some node'
          owned := some (memberBootcNode r pool node before.bootcNode) }
  | conflict {bn : BootcNode} :
      before.bootcNode = some bn → bn.isControlledBy pool = false →
      SyncOutcome r pool node before (bn.controllerOf.map (·.name)).toList
        before

theorem yields_syncBootcNodeSpec
    {known : BootcNode} (stopped : Yields env exc) :
    unobserved.Follows (Local s₀ name ⟨some known, some node, some known⟩)
      (r.syncBootcNodeSpec env name known)
      (fun _ s => Local s₀ name
        ⟨some (known.setSpec (r.syncedSpec s₀.pool known.spec)), some node,
          some (known.setSpec (r.syncedSpec s₀.pool known.spec))⟩ s)
      exc := by
  refine .bindReadOf (· = s₀.pool) (fun s before => before.pool)
    fun pool isPool => ?_
  subst isPool
  refine .conseq ?_ (fun s before => before.1) (fun _ _ after => after)
    fun _ _ after => after
  refine .ite (fun _ => .mapError ?_) fun unchanged =>
    .ret fun s before => ?_
  · exact follows_patchBootcNode (fun s calls before => before.issued calls)
      (stopped.wrap _).stops (fun s before => before.bootcNode_eq)
      (BootcNode.merge_spec known _) (fun _ _ => trivial)
      fun s before => before.patched _ _
  · have same : r.syncedSpec s₀.pool known.spec = known.spec :=
      not_not.mp unchanged
    rw [same, known.setSpec_self]
    exact before

theorem yields_createBootcNode :
    unobserved.Follows (Local s₀ name ⟨bn, some node, none⟩)
      (r.createBootcNode env name node)
      (fun created s =>
        (∃ node', Local s₀ name ⟨some created, some node', none⟩ s ∧
          node'.unversioned = node.labelled.unversioned) ∧
        bn = none ∧ created = r.newBootcNode s₀.pool node)
      (fun e s => (e.Routine ∧ env.Failing) ∨ (e.kind = .alreadyExists ∧
        bn ≠ none ∧ Local s₀ name ⟨bn, some node, none⟩ s)) := by
  have stopped : Yields env fun (e : ApiError) s =>
      (e.Routine ∧ env.Failing) ∨ (e.kind = .alreadyExists ∧ bn ≠ none ∧
        Local s₀ name ⟨bn, some node, none⟩ s) :=
    fun failing e s routine => .inl ⟨routine, failing⟩
  refine .bindReadOf (· = s₀.pool) (fun s before => before.pool)
    fun pool isPool => ?_
  subst isPool
  refine .conseq ?_ (fun s before => before.1) (fun _ _ after => after)
    fun _ _ after => after
  refine .bindVia (fun _ s => Local s₀ name
    ⟨some (r.newBootcNode s₀.pool node), some node, none⟩ s ∧ bn = none)
    (.mapError ?_) fun _ => .assume fun absent => ?_
  · refine follows_createBootcNode (fun s calls before => before.issued calls)
      (stopped.wrap _).stops ?_ (fun _ _ _ => trivial) ?_
    · intro e s refused before exists_
      rw [before.bootcNode_eq] at exists_
      exact .inr ⟨refused, exists_, before⟩
    · intro s before absent
      exact ⟨before.putBootcNode _ _, before.bootcNode_eq.symm.trans absent⟩
  · refine .bind (.mapError (yields_ensureManagedLabel (stopped.wrap _)))
      fun node' => ?_
    exact .ret fun s after => ⟨⟨node', after.1, after.2⟩, absent, rfl⟩

theorem yields_syncMatchingNode
    {all : String → Option BootcNode} (stopped : Yields env exc)
    (isAll : all name = bn)
    (isOwned : owned = bn.filter (·.isControlledBy s₀.pool)) :
    unobserved.Follows (Local s₀ name ⟨bn, some node, owned⟩)
      (r.syncMatchingNode env all name node)
      (fun conflicts s => ∃ look, Local s₀ name look s ∧
        SyncOutcome r s₀.pool node ⟨bn, some node, owned⟩ conflicts look)
      exc := by
  refine .bindReadOf (· = owned) (fun s before => before.owned_eq)
    fun found isFound => ?_
  subst isFound
  refine .conseq ?_ (fun s before => before.1) (fun _ _ after => after)
    fun _ _ after => after
  cases found with
  | some known =>
      obtain ⟨isBn, controlled⟩ := Option.filter_eq_some_iff.mp isOwned.symm
      subst isBn
      refine .bind (.mapError
        (yields_ensureManagedLabel (stopped.wrap _)))
        fun node' => .assume fun labelled => ?_
      refine .bind (.mapError (yields_syncBootcNodeSpec (stopped.wrap _)))
        fun _ => ?_
      refine .ret fun s after => ⟨_, after, ?_⟩
      refine .joined ?_ labelled
      intro other isOther
      exact Option.some.inj isOther ▸ controlled
  | none =>
      refine .bind (.attempt yields_createBootcNode) fun result => ?_
      cases result with
      | ok created =>
          refine .assume fun ⟨absent, isCreated⟩ => .given fun node' =>
            .assume fun labelled => ?_
          subst absent isCreated
          refine .bindVia (fun _ => Local s₀ name
            { bootcNode := some (r.newBootcNode s₀.pool node)
              node := some node'
              owned := some (r.newBootcNode s₀.pool node) })
            (.update (fun _ _ => rfl) fun s before => before.setOwned _)
            fun _ => .ret fun s after => ⟨_, after, ?_⟩
          exact .joined (by simp) labelled
      | error e =>
          refine .ite (fun other => .fail fun s before => ?_)
            fun refused => .ret fun s before => ?_
          · obtain ⟨routine, failing⟩ :=
              before.resolve_right fun exists_ => other exists_.1
            exact stopped failing _ s routine
          have isRefused := not_not.mp refused
          have notRoutine : ¬ e.Routine := by
            simp [ApiError.Routine, isRefused]
          obtain ⟨_, present, isLocal⟩ :=
            before.resolve_left fun failed => notRoutine failed.1
          obtain ⟨known, isKnown⟩ := Option.ne_none_iff_exists'.mp present
          subst isKnown
          refine ⟨_, isLocal, ?_⟩
          rw [isAll]
          refine .conflict rfl ?_
          simpa using isOwned.symm

end Work

end BootcOperator
